import BotCanvas.Lint.Brackets
import BotCanvas.Proofs.Text.Rows

/-!
# Code, remarks and literals

A program text is read one character at a time. The reader always knows its place: in code, in a
remark, or in a literal; and it keeps the brackets that are open in code, innermost first. Reading
fails at a bracket that closes nothing and at a line feed inside a literal that may not hold one.

`Leads` says what a fragment of a program does to the open brackets. Fragments are put one under
another and indented freely: the reader does not notice (`Leads.stack`, `Leads.indent`).
-/

namespace BotCanvas

/-- How a language tells code, remarks and literals apart. -/
structure Lexis where
  /-- Backticks enclose literals, as single and double quotes always do. -/
  backticks : Bool
  /-- A hash opens a remark up to the end of the row. -/
  hashRemarks : Bool
  /-- Two slashes open a remark up to the end of the row, a slash and a star a block of remarks. -/
  slashRemarks : Bool
  /-- The reader keeps the open brackets. -/
  countsBrackets : Bool

/-- What encloses a literal. -/
inductive Quote
  | single
  | double
  | backtick
  deriving DecidableEq

/-- The character that opens and closes a literal. -/
def Quote.mark : Quote → Char
  | single => '\x27'
  | double => '\x22'
  | backtick => '\x60'

/-- Where a reader stands. -/
inductive Spot
  | code
  | slash
  | remark
  | block
  | star
  | literal (quote : Quote)
  | escaped (quote : Quote)
  deriving DecidableEq

/-- A reader: its place and the open brackets, unless it has failed. -/
abbrev Reader := Option (Spot × List Char)

namespace Lexis

variable (lx : Lexis)

/-- The literal that a character opens. -/
def quote? (c : Char) : Option Quote :=
  if c = '\x27' then some .single
  else if c = '\x22' then some .double
  else if lx.backticks && c == '\x60' then some .backtick
  else none

/-- The place behind a character of code. -/
def enter (c : Char) : Spot :=
  match lx.quote? c with
  | some q => .literal q
  | none =>
      if lx.hashRemarks && c == '#' then .remark
      else if lx.slashRemarks && c == '/' then .slash
      else .code

/-- The place behind a character. -/
def next : Spot → Char → Spot
  | .code, c => lx.enter c
  | .slash, c => if c = '/' then .remark else if c = '*' then .block else lx.enter c
  | .remark, c => if c = '\n' then .code else .remark
  | .block, c => if c = '*' then .star else .block
  | .star, c => if c = '/' then .code else if c = '*' then .star else .block
  | .literal q, c => if c = '\\' then .escaped q else if c = q.mark then .code else .literal q
  | .escaped q, _ => .literal q

/-- The open brackets behind a character of code. -/
def track (c : Char) (opened : List Char) : Option (List Char) :=
  if !lx.countsBrackets then some opened
  else if Brackets.isOpening c then some (c :: opened)
  else
    match Brackets.partner? c with
    | none => some opened
    | some partner =>
        match opened with
        | top :: below => if top = partner then some below else none
        | [] => none

/-- The open brackets behind a character at a place. -/
def trackAt (p : Spot) (c : Char) (opened : List Char) : Option (List Char) :=
  match p with
  | .code => lx.track c opened
  | .slash => lx.track c opened
  | .literal q => if c = '\n' ∧ q ≠ .backtick then none else some opened
  | .escaped q => if c = '\n' ∧ q ≠ .backtick then none else some opened
  | _ => some opened

/-- Reads a character. -/
def advance : Reader → Char → Reader
  | none, _ => none
  | some (p, opened), c => (lx.trackAt p c opened).map fun now => (lx.next p c, now)

/-- Reads a text. -/
def read (r : Reader) (t : Text) : Reader :=
  t.foldl lx.advance r

/-- Reading goes on where it stopped. -/
theorem read_append
    (r : Reader)
    (s t : Text) :
    lx.read r (s ++ t) = lx.read (lx.read r s) t :=
  List.foldl_append

@[simp] theorem read_nil
    (r : Reader) :
    lx.read r [] = r :=
  rfl

theorem read_cons
    (r : Reader)
    (c : Char)
    (t : Text) :
    lx.read r (c :: t) = lx.read (lx.advance r c) t :=
  rfl

/-- A failed reader stays failed. -/
@[simp] theorem read_none
    (t : Text) :
    lx.read none t = none := by
  induction t with
  | nil => rfl
  | cons c r ih => exact ih

/-- A place that is not in the middle of a mark or an escape. -/
def IsSettled (p : Spot) : Prop :=
  p = .code ∨ p = .remark ∨ p = .block ∨ ∃ q, p = .literal q

/-- A reader that is not in the middle of a mark or an escape. -/
def Settled (r : Reader) : Prop :=
  ∀ p opened, r = some (p, opened) → IsSettled p

variable {lx}

/-- Reading fails or goes to the next place. -/
theorem advance_eq_some
    {p p' : Spot}
    {opened opened' : List Char}
    {c : Char}
    (h : lx.advance (some (p, opened)) c = some (p', opened')) :
    p' = lx.next p c ∧ lx.trackAt p c opened = some opened' := by
  simp only [advance, Option.map_eq_some_iff, Prod.mk.injEq] at h
  obtain ⟨now, htrack, hp, rfl⟩ := h
  exact ⟨hp.symm, htrack⟩

/-- A character that ends a line is plain code. -/
theorem enter_of_isLineBreak
    {c : Char}
    (h : Text.isLineBreak c = true) :
    lx.enter c = .code := by
  have hne : ∀ d : Char, Text.isLineBreak d = false → c ≠ d := by
    rintro d hd rfl
    rw [hd] at h
    cases h
  simp [enter, quote?, hne '\x27' (by decide), hne '\x22' (by decide),
    hne '\x60' (by decide), hne '#' (by decide), hne '/' (by decide)]

/-- Behind a line end every place is settled. -/
theorem isSettled_next
    (p : Spot)
    {c : Char}
    (h : Text.isLineBreak c = true) :
    IsSettled (lx.next p c) := by
  have hne : ∀ d : Char, Text.isLineBreak d = false → c ≠ d := by
    rintro d hd rfl
    rw [hd] at h
    cases h
  unfold IsSettled
  cases p with
  | code => simp [next, enter_of_isLineBreak h]
  | slash =>
      simp [next, enter_of_isLineBreak h, hne '/' (by decide), hne '*' (by decide)]
  | remark =>
      by_cases hc : c = '\n' <;> simp [next, hc]
  | block => simp [next, hne '*' (by decide)]
  | star => simp [next, hne '/' (by decide), hne '*' (by decide)]
  | literal q =>
      by_cases hc : c = q.mark
      · exact Or.inl (by rw [next, if_neg (hne '\\' (by decide)), if_pos hc])
      · simp [next, hne '\\' (by decide), hc]
  | escaped q => simp [next]

/-- So is every reader. -/
theorem settled_advance_of_isLineBreak
    (r : Reader)
    (c : Char)
    (h : Text.isLineBreak c = true) :
    Settled (lx.advance r c) := by
  intro p' opened' heq
  cases r with
  | none => cases heq
  | some s =>
      obtain ⟨p, opened⟩ := s
      rw [(advance_eq_some heq).1]
      exact isSettled_next p h

/-- A settled reader ignores a space. -/
theorem advance_space
    {r : Reader}
    (h : Settled r) :
    lx.advance r ' ' = r := by
  cases r with
  | none => rfl
  | some s =>
      obtain ⟨p, opened⟩ := s
      have htrack : lx.track ' ' opened = some opened := by
        unfold track
        cases lx.countsBrackets <;> rfl
      have henter : lx.enter ' ' = .code := by
        simp [enter, quote?]
      rcases h p opened rfl with rfl | rfl | rfl | ⟨q, rfl⟩
      · simp [advance, trackAt, next, htrack, henter]
      · rfl
      · rfl
      · cases q <;> rfl

/-- A settled reader ignores spaces. -/
theorem read_spaces
    (n : Nat)
    {r : Reader}
    (h : Settled r) :
    lx.read r (List.replicate n ' ') = r := by
  induction n with
  | zero => rfl
  | succ n ih => rw [List.replicate_succ, read_cons, advance_space h, ih]

/-- A settled reader reads a text and its indentation by spaces alike. -/
theorem read_indent
    (n : Nat)
    (t : Text)
    {r : Reader}
    (h : Settled r) :
    lx.read r (Text.indent (List.replicate n ' ') t) = lx.read r t :=
  Text.foldl_indent settled_advance_of_isLineBreak (fun _ hq => read_spaces n hq) t h

/-- A second line feed changes nothing. -/
theorem advance_lineFeed_twice
    (r : Reader) :
    lx.advance (lx.advance r '\n') '\n' = lx.advance r '\n' := by
  have htrack : ∀ opened, lx.track '\n' opened = some opened := by
    intro opened
    unfold track
    cases lx.countsBrackets <;> rfl
  have henter : lx.enter '\n' = .code := enter_of_isLineBreak (by decide)
  cases r with
  | none => rfl
  | some s =>
      obtain ⟨p, opened⟩ := s
      cases p with
      | literal q => cases q <;> rfl
      | escaped q => cases q <;> rfl
      | _ => simp [advance, trackAt, next, htrack, henter]

/-- More line feeds change nothing. -/
theorem read_lineFeeds
    (r : Reader)
    (n : Nat) :
    lx.read r (List.replicate n '\n' ++ ['\n']) = lx.read r ['\n'] := by
  induction n with
  | zero => rfl
  | succ n ih =>
      rw [← ih, List.replicate_succ, List.cons_append, read_cons]
      cases n with
      | zero => simp [read_cons, advance_lineFeed_twice]
      | succ n =>
          simp only [List.replicate_succ, List.cons_append, read_cons]
          rw [advance_lineFeed_twice]

/--
A fragment that leads from code to code, and changes the open brackets from one list to another.
-/
def Leads (lx : Lexis) (t : Text) (opened opened' : List Char) : Prop :=
  ∀ below, lx.read (some (.code, opened ++ below)) (t ++ ['\n']) =
    some (.code, opened' ++ below)

namespace Leads

variable {a b : Text}
variable {k l m : List Char}

/-- Fragments one under another. -/
theorem append
    (ha : Leads lx a k l)
    (hb : Leads lx b l m) :
    Leads lx (a ++ '\n' :: b) k m := by
  intro below
  have hsplit : a ++ '\n' :: b ++ ['\n'] = (a ++ ['\n']) ++ (b ++ ['\n']) := by
    simp
  rw [hsplit, read_append, ha below, hb below]

/-- An indented fragment. -/
theorem indent
    (n : Nat)
    (ha : Leads lx a k l) :
    Leads lx (Text.indent (List.replicate n ' ') a) k l := by
  intro below
  have hsettled : Settled (some (Spot.code, k ++ below)) := by
    intro p opened h
    cases h
    exact Or.inl rfl
  rw [read_append, read_indent n a hsettled, ← read_append]
  exact ha below

/-- A fragment with more brackets open around it. -/
theorem under
    (ha : Leads lx a k l)
    (below : List Char) :
    Leads lx a (k ++ below) (l ++ below) := by
  intro more
  rw [List.append_assoc, List.append_assoc]
  exact ha (below ++ more)

/-- Line feeds at the end of a fragment do not matter. -/
theorem stripEndChar
    (ha : Leads lx a k l) :
    Leads lx (Text.stripEndChar '\n' a) k l := by
  obtain ⟨n, hn⟩ := Text.exists_stripEndChar_append '\n' a
  intro below
  have h := ha below
  rw [hn, List.append_assoc, read_append, read_lineFeeds, ← read_append] at h
  exact h

end Leads

end Lexis

end BotCanvas
