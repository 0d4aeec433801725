import BotCanvas.Proofs.Text.Words

/-!
# Control flow as told by rows

The rows of a program in the language with braces are read without the spaces in front of them. A
row opens a test, goes over to its other arm, opens or goes over in a guarded body, closes what was
opened, leaves the handler, or is a plain statement. `parse` makes a program of rows with a list of
what is open around the current row, and `runAll` runs it, given the outcomes of its tests in the
order in which they are asked for.
-/

namespace BotCanvas.Braced

/-- What a row is to the control flow. -/
inductive RowKind
  /-- It opens a test; the words of the row are kept. -/
  | test (head : Text)
  /-- It goes over to the other arm of a test. -/
  | otherwise
  /-- It opens a guarded body. -/
  | attempt
  /-- It goes over to what runs after an error. -/
  | rescue
  /-- It closes a test or a guarded body. -/
  | close
  /-- It leaves the handler. -/
  | leave
  /-- It is a plain statement. -/
  | plain (row : Text)
  deriving DecidableEq

/-- A row without the spaces in front of it. -/
def unindented (row : Text) : Text :=
  row.dropWhile (· == ' ')

/-- Tests for a row that opens a test. -/
def opensTest (row : Text) : Bool :=
  "if (".toList.isPrefixOf row && ") \x7b".toList.isSuffixOf row

/-- What a row is to the control flow. -/
def rowKind (row : Text) : RowKind :=
  let t := unindented row
  if opensTest t then .test (Text.squeeze t)
  else if t = "\x7d else \x7b".toList then .otherwise
  else if t = "try \x7b".toList then .attempt
  else if t = "\x7d catch (error) \x7b".toList then .rescue
  else if t = "\x7d".toList then .close
  else if t = "return;".toList then .leave
  else .plain t

/-- A statement of a program. -/
inductive Stmt
  | plain (row : Text)
  | leave
  | test (head : Text) (yes no : List Stmt)
  | attempt (body rescue : List Stmt)

/-- What is open around a row: the arms of a test and the bodies of a guard, with what came before
in them. -/
inductive Frame
  | yes (head : Text)
  | no (head : Text) (yes : List Stmt)
  | body
  | rescue (body : List Stmt)

/--
Makes a program of rows. Every open frame keeps the statements in front of it, innermost first;
`sofar` are the statements since then. Rows that do not fit together are no program.
-/
def parseFrom : List RowKind → (opened : List (List Stmt × Frame)) → (sofar : List Stmt) →
    Option (List Stmt)
  | [], [], sofar => some sofar
  | [], _ :: _, _ => none
  | .test head :: rest, opened, sofar => parseFrom rest ((sofar, .yes head) :: opened) []
  | .otherwise :: rest, (before, .yes head) :: below, sofar =>
      parseFrom rest ((before, .no head sofar) :: below) []
  | .otherwise :: _, _, _ => none
  | .attempt :: rest, opened, sofar => parseFrom rest ((sofar, .body) :: opened) []
  | .rescue :: rest, (before, .body) :: below, sofar =>
      parseFrom rest ((before, .rescue sofar) :: below) []
  | .rescue :: _, _, _ => none
  | .close :: rest, (before, .yes head) :: below, sofar =>
      parseFrom rest below (before ++ [.test head sofar []])
  | .close :: rest, (before, .no head yes) :: below, sofar =>
      parseFrom rest below (before ++ [.test head yes sofar])
  | .close :: rest, (before, .rescue body) :: below, sofar =>
      parseFrom rest below (before ++ [.attempt body sofar])
  | .close :: _, _, _ => none
  | .leave :: rest, opened, sofar => parseFrom rest opened (sofar ++ [.leave])
  | .plain row :: rest, opened, sofar => parseFrom rest opened (sofar ++ [.plain row])

/-- The program that a text is. -/
def parse (t : Text) : Option (List Stmt) :=
  parseFrom ((Text.splitOn '\n' t).map rowKind) [] []

/-! ## Runs -/

/-- What happens in a run: a plain row is executed, or a test is asked for. -/
inductive Event
  | line (row : Text)
  | test (head : Text) (holds : Bool)
  deriving DecidableEq

/-- A run: what has happened, how many tests were asked for, and whether the handler was left. -/
structure Run where
  events : List Event
  tests : Nat
  left : Bool
  deriving DecidableEq

namespace Run

/-- The run in which nothing has happened. -/
def start : Run := ⟨[], 0, false⟩

/-- A plain row is executed. -/
def line (row : Text) (r : Run) : Run :=
  { r with events := r.events ++ [.line row] }

/-- A test is asked for. -/
def test (head : Text) (holds : Bool) (r : Run) : Run :=
  { r with events := r.events ++ [.test head holds], tests := r.tests + 1 }

/-- The handler is left. -/
def leave (r : Run) : Run :=
  { r with left := true }

@[simp] theorem left_line
    (row : Text)
    (r : Run) :
    (r.line row).left = r.left :=
  rfl

@[simp] theorem left_test
    (head : Text)
    (holds : Bool)
    (r : Run) :
    (r.test head holds).left = r.left :=
  rfl

@[simp] theorem left_leave
    (r : Run) :
    r.leave.left = true :=
  rfl

/-- A handler that was left stays left. -/
theorem leave_of_left
    {r : Run}
    (h : r.left = true) :
    r.leave = r := by
  cases r
  simp_all [leave]

end Run

mutual

/-- Runs a statement. No plain row throws, so what runs after an error does not run. -/
def run (outcomes : Nat → Bool) : Stmt → Run → Run
  | .plain row, r => r.line row
  | .leave, r => r.leave
  | .test head yes no, r =>
      if outcomes r.tests then runAll outcomes yes (r.test head true)
      else runAll outcomes no (r.test head false)
  | .attempt body _, r => runAll outcomes body r

/-- Runs statements one after another, until the handler is left. -/
def runAll (outcomes : Nat → Bool) : List Stmt → Run → Run
  | [], r => r
  | s :: rest, r => if r.left then r else runAll outcomes rest (run outcomes s r)

end

variable {outcomes : Nat → Bool}

/-- Behind the end of a handler nothing runs. -/
theorem runAll_of_left
    (program : List Stmt)
    {r : Run}
    (h : r.left = true) :
    runAll outcomes program r = r := by
  cases program with
  | nil => rfl
  | cons s rest => rw [runAll, if_pos h]

/-- Programs one after another run one after another. -/
theorem runAll_append
    (program rest : List Stmt)
    (r : Run) :
    runAll outcomes (program ++ rest) r = runAll outcomes rest (runAll outcomes program r) := by
  induction program generalizing r with
  | nil => rfl
  | cons s program ih =>
      rw [List.cons_append, runAll, runAll]
      by_cases hleft : r.left = true
      · rw [if_pos hleft, if_pos hleft, runAll_of_left rest hleft]
      · rw [if_neg hleft, if_neg hleft, ih]

/-- A single statement runs unless the handler was left. -/
theorem runAll_singleton
    (s : Stmt)
    {r : Run}
    (h : r.left = false) :
    runAll outcomes [s] r = run outcomes s r := by
  rw [runAll, h, runAll]
  rfl

/-- Leaving the handler, whether or not it was left before. -/
theorem runAll_leave
    (r : Run) :
    runAll outcomes [.leave] r = r.leave := by
  cases hleft : r.left with
  | true => rw [runAll_of_left _ hleft, Run.leave_of_left hleft]
  | false => rw [runAll_singleton _ hleft, run]

/-- Plain rows are executed one after another. -/
theorem runAll_plain
    (rows : List Text)
    {r : Run}
    (h : r.left = false) :
    runAll outcomes (rows.map .plain) r = rows.foldl (fun r row => r.line row) r := by
  induction rows generalizing r with
  | nil => rfl
  | cons row rows ih =>
      rw [List.map_cons, runAll, h, List.foldl_cons]
      exact ih h

/-! ## Rows at any depth -/

/-- Spaces in front of a row are not looked at. -/
theorem unindented_append
    (n : Nat)
    (row : Text) :
    unindented (List.replicate n ' ' ++ row) = unindented row := by
  unfold unindented
  induction n with
  | zero => rfl
  | succ n ih => exact ih

/-- Spaces in front of a row change no word. -/
theorem words_replicate_append
    (n : Nat)
    (row : Text) :
    Text.words (List.replicate n ' ' ++ row) = Text.words row := by
  induction n with
  | zero => rfl
  | succ n ih =>
      rw [List.replicate_succ, List.cons_append, Text.words_cons_of_blank (by decide), ih]

/-- A row that opens a test at some depth. -/
def IsTestRow (row : Text) : Prop :=
  ∃ n inside, '\n' ∉ inside ∧
    row = List.replicate n ' ' ++ ("if (".toList ++ (inside ++ ") \x7b".toList))

/-- A row that indentation does not tear apart: it has no line ends, or it opens a test. -/
def IsSteady (row : Text) : Prop :=
  (∀ c ∈ row, Text.isLineBreak c = false) ∨ IsTestRow row

/-- A row that opens a test is one by its kind. -/
theorem rowKind_of_isTestRow
    {row : Text}
    (h : IsTestRow row) :
    rowKind row = .test (Text.squeeze row) := by
  obtain ⟨n, inside, -, rfl⟩ := h
  have hstart : unindented ("if (".toList ++ (inside ++ ") \x7b".toList)) =
      "if (".toList ++ (inside ++ ") \x7b".toList) := by
    simp [unindented]
  have hopens : opensTest ("if (".toList ++ (inside ++ ") \x7b".toList)) = true := by
    rw [opensTest, Bool.and_eq_true, List.isPrefixOf_iff_prefix, List.isSuffixOf_iff_suffix]
    exact ⟨List.prefix_append _ _, (List.suffix_append _ _).trans (List.suffix_append _ _)⟩
  unfold rowKind
  simp only
  rw [unindented_append, hstart, if_pos hopens, Text.squeeze, Text.squeeze,
    words_replicate_append]

/-- A row that opens a test does so at any greater depth. -/
theorem IsTestRow.indent
    {row : Text}
    (h : IsTestRow row)
    (n : Nat) :
    IsTestRow (Text.indent (List.replicate n ' ') row) := by
  obtain ⟨m, inside, hinside, rfl⟩ := h
  have hlead : '\n' ∉ List.replicate n ' ' := by
    simp
  have hunbroken : ∀ c ∈ "f (".toList, Text.isLineBreak c = false :=
    Text.unbroken_of_all (by decide)
  obtain ⟨inside', hinside'⟩ := Text.suffix_inner (List.replicate n ' ') inside
    (b := ") \x7b".toList) (Text.unbroken_of_all (by decide))
  refine ⟨n + m, inside', ?_, ?_⟩
  · have hfeed := Text.lineFeed_mem_inner (s := inside ++ ") \x7b".toList) hlead
      (by simp [hinside])
    rw [← hinside'] at hfeed
    exact fun hmem => hfeed (List.mem_append_left _ hmem)
  · have hhead : "if (".toList ++ (inside ++ ") \x7b".toList) =
        'i' :: ("f (".toList ++ (inside ++ ") \x7b".toList)) := by
      simp
    rw [hhead, Text.indent_of_head _ (Text.unbroken_spaces m) (by decide),
      Text.inner_append_of_unbroken _ hunbroken, ← hinside', List.replicate_append_replicate]
    simp

/-- A steady row without line ends gets spaces in front, if anything. -/
theorem exists_indent_eq
    {row : Text}
    (h : ∀ c ∈ row, Text.isLineBreak c = false)
    (n : Nat) :
    ∃ m, Text.indent (List.replicate n ' ') row = List.replicate m ' ' ++ row := by
  rw [Text.indent_of_unbroken _ h]
  split
  · exact ⟨0, rfl⟩
  · exact ⟨n, rfl⟩

/-- Steady rows are steady at any depth. -/
theorem IsSteady.indent
    {row : Text}
    (h : IsSteady row)
    (n : Nat) :
    IsSteady (Text.indent (List.replicate n ' ') row) := by
  rcases h with h | h
  · left
    obtain ⟨m, hm⟩ := exists_indent_eq h n
    rw [hm]
    intro c hc
    rcases List.mem_append.1 hc with hc | hc
    · exact Text.unbroken_spaces m c hc
    · exact h c hc
  · exact .inr (h.indent n)

/-- Steady rows are of the same kind at any depth. -/
theorem rowKind_indent
    {row : Text}
    (h : IsSteady row)
    (n : Nat) :
    rowKind (Text.indent (List.replicate n ' ') row) = rowKind row := by
  rcases h with h | h
  · obtain ⟨m, hm⟩ := exists_indent_eq h n
    unfold rowKind
    rw [hm, unindented_append]
  · rw [rowKind_of_isTestRow h, rowKind_of_isTestRow (h.indent n), Text.squeeze, Text.squeeze,
      Text.words_indent fun c hc => ?_]
    rw [List.eq_of_mem_replicate hc]
    decide

end BotCanvas.Braced
