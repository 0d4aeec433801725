import BotCanvas.Offside.Frame
import BotCanvas.Proofs.Offside.Lexis
import BotCanvas.Proofs.Text.Parts
import Mathlib.Data.List.Chain

/-!
# Logical lines

The rows of a program in the language with suites become logical lines: rows without a statement
are dropped, and rows are joined while a bracket is open. Of a logical line the column is kept and
whether it opens a suite.

A program is well laid if every line that opens a suite is followed by a line one level deeper, and
no other line is followed by a deeper one. Well laid lines may stand one under another
(`WellLaid.append`) and under a line that opens a suite (`WellLaid.suite`). Indentation moves the
lines of rows and changes nothing else (`lay_indent`).
-/

namespace BotCanvas.Offside

open Lexis

/-- What the layout of a program makes of a logical line. -/
structure LogicalLine where
  column : Nat
  opensSuite : Bool
  deriving DecidableEq

/-- The spaces in front of a row. -/
def leadingSpaces (row : Text) : Nat :=
  (row.takeWhile (· == ' ')).length

/--
The logical lines of rows, from a place with brackets open in a line that began at a column. What
is open behind the rows is given as well. No row may end inside a literal.
-/
def lay : (opened : List Char) → (column : Nat) → List Text →
    Option (List LogicalLine × List Char × Nat)
  | opened, column, [] => some ([], opened, column)
  | opened, column, row :: rest =>
      if isBareLine row then lay opened column rest
      else
        let start := if opened.isEmpty then leadingSpaces row else column
        match (lexis true).read (some (.code, opened)) (row ++ ['\n']) with
        | some (.code, []) =>
            (lay [] start rest).map fun (lines, last) =>
              (⟨start, row.getLast? == some ':'⟩ :: lines, last)
        | some (.code, c :: more) => lay (c :: more) start rest
        | _ => none

/-- The logical lines of a text, unless a bracket or a literal is left open. -/
def logicalLines (t : Text) : Option (List LogicalLine) :=
  match lay [] 0 (Text.splitOn '\n' t) with
  | some (lines, [], _) => some lines
  | _ => none

/-- How one logical line may follow another. -/
def Follows (l m : LogicalLine) : Prop :=
  if l.opensSuite then m.column = l.column + 4
  else m.column = l.column ∨ m.column < l.column ∧ 4 ∣ m.column

instance (l m : LogicalLine) : Decidable (Follows l m) := by
  unfold Follows
  infer_instance

/-- Logical lines that are laid out well. -/
structure WellLaid (lines : List LogicalLine) : Prop where
  head : ∀ l ∈ lines.head?, l.column = 0
  follows : lines.IsChain Follows
  last : ∀ l ∈ lines.getLast?, l.opensSuite = false

instance (lines : List LogicalLine) : Decidable (WellLaid lines) :=
  decidable_of_iff
    ((∀ l ∈ lines.head?, l.column = 0) ∧ lines.IsChain Follows ∧
      ∀ l ∈ lines.getLast?, l.opensSuite = false)
    ⟨fun h => ⟨h.1, h.2.1, h.2.2⟩, fun h => ⟨h.head, h.follows, h.last⟩⟩

/-! ## Well laid lines -/

/-- A line some columns deeper. -/
def LogicalLine.shift (n : Nat) (l : LogicalLine) : LogicalLine :=
  { l with column := l.column + n }

@[simp] theorem LogicalLine.shift_mk
    (n column : Nat)
    (opensSuite : Bool) :
    LogicalLine.shift n ⟨column, opensSuite⟩ = ⟨column + n, opensSuite⟩ :=
  rfl

@[simp] theorem LogicalLine.shift_comp_shift
    (m n : Nat) :
    LogicalLine.shift m ∘ LogicalLine.shift n = LogicalLine.shift (n + m) := by
  funext l
  exact congrArg (LogicalLine.mk · l.opensSuite) (Nat.add_assoc l.column n m)

namespace WellLaid

variable {lines lines' : List LogicalLine}

theorem nil :
    WellLaid [] :=
  ⟨by simp, .nil, by simp⟩

/-- A line that opens no suite. -/
theorem single :
    WellLaid [⟨0, false⟩] :=
  ⟨by simp, .singleton _, by simp⟩

/-- Well laid lines one under another. -/
theorem append
    (h : WellLaid lines)
    (h' : WellLaid lines') :
    WellLaid (lines ++ lines') := by
  refine ⟨?_, ?_, ?_⟩
  · intro l hl
    cases lines with
    | nil => exact h'.head l hl
    | cons first rest => exact h.head l hl
  · refine List.isChain_append.2 ⟨h.follows, h'.follows, fun l hl m hm => ?_⟩
    unfold Follows
    rw [h.last l hl, h'.head m hm]
    simp only [Bool.false_eq_true, if_false]
    omega
  · intro l hl
    rw [List.getLast?_append] at hl
    cases hlast : lines'.getLast? with
    | none =>
        rw [hlast] at hl
        exact h.last l hl
    | some m =>
        rw [hlast] at hl
        rw [← Option.some.inj hl]
        exact h'.last m hlast

/-- A line that opens a suite, and the suite under it. -/
theorem suite
    (h : WellLaid lines)
    (hne : lines ≠ []) :
    WellLaid (⟨0, true⟩ :: lines.map (LogicalLine.shift 4)) := by
  have hchain : (lines.map (LogicalLine.shift 4)).IsChain Follows := by
    rw [List.isChain_map]
    refine h.follows.imp fun l m hlm => ?_
    unfold Follows LogicalLine.shift at *
    cases hopens : l.opensSuite with
    | true =>
        simp only [hopens, if_true] at hlm ⊢
        omega
    | false =>
        simp only [hopens, Bool.false_eq_true, if_false] at hlm ⊢
        omega
  refine ⟨by simp, ?_, ?_⟩
  · cases lines with
    | nil => exact absurd rfl hne
    | cons first rest =>
        have hfirst := h.head first rfl
        refine List.isChain_cons_cons.2 ⟨?_, hchain⟩
        unfold Follows LogicalLine.shift
        simp only [hfirst, if_true]
  · intro l hl
    rw [List.getLast?_cons, List.getLast?_map] at hl
    cases hlast : lines.getLast? with
    | none => exact absurd (List.getLast?_eq_none_iff.1 hlast) hne
    | some m =>
        rw [hlast] at hl
        obtain rfl : m.shift 4 = l := Option.some.inj hl
        exact h.last m hlast

end WellLaid

/-! ## Rows at any depth -/

/-- A word begins with the first character that is not blank. -/
theorem exists_words_cons
    {c : Char}
    (hc : Text.isBlank c = false)
    (r : Text) :
    ∃ w ws, Text.words (c :: r) = (c :: w) :: ws := by
  cases r with
  | nil => exact ⟨[], [], by simp [Text.words, hc]⟩
  | cons d r =>
      cases hd : Text.isBlank d with
      | true => exact ⟨[], Text.words r, Text.words_cons_blank hc hd r⟩
      | false =>
          obtain ⟨w, ws, -, hw⟩ := Text.words_cons_cons hc hd r
          exact ⟨w, ws, hw⟩

/-- A row has no statement if it has no word or the first of them opens a remark. -/
theorem isBareLine_eq
    (row : Text) :
    isBareLine row = (Text.words row).head?.all fun w => w.head? == some '#' := by
  induction row with
  | nil => rfl
  | cons c r ih =>
      cases hc : Text.isBlank c with
      | true =>
          rw [Text.words_cons_of_blank hc, ← ih]
          simp [isBareLine, hc]
      | false =>
          obtain ⟨w, ws, hw⟩ := exists_words_cons hc r
          rw [hw]
          simp [isBareLine, hc]

/-- A row without a statement has none at any depth. -/
theorem isBareLine_indent
    (n : Nat)
    (row : Text) :
    isBareLine (Text.indent (List.replicate n ' ') row) = isBareLine row := by
  rw [isBareLine_eq, isBareLine_eq, Text.words_indent]
  intro c hc
  rw [List.eq_of_mem_replicate hc]
  decide

/-- A row that is a remark or blank, and without line ends, or that begins with a statement behind
spaces. -/
def IsTidy (row : Text) : Prop :=
  (isBareLine row = true ∧ ∀ c ∈ row, Text.isLineBreak c = false) ∨
    ∃ k c r, row = List.replicate k ' ' ++ c :: r ∧ Text.isBlank c = false ∧ c ≠ '#'

/-- A row that begins with a statement is not bare. -/
theorem isBareLine_of_head
    (k : Nat)
    {c : Char}
    (hc : Text.isBlank c = false)
    (hhash : c ≠ '#')
    (r : Text) :
    isBareLine (List.replicate k ' ' ++ c :: r) = false := by
  unfold isBareLine
  induction k with
  | zero => simp [hc, hhash]
  | succ k ih => exact ih

/-- The spaces in front of a statement are counted. -/
theorem leadingSpaces_of_head
    (k : Nat)
    {c : Char}
    (hc : Text.isBlank c = false)
    (r : Text) :
    leadingSpaces (List.replicate k ' ' ++ c :: r) = k := by
  have hspace : c ≠ ' ' := by
    rintro rfl
    exact absurd hc (by decide)
  unfold leadingSpaces
  induction k with
  | zero => simp [hspace]
  | succ k ih => simpa [List.replicate_succ] using ih

/-- The last character of a row with a statement stays at any depth. -/
theorem getLast?_indent
    (lead : Text)
    {row : Text}
    (hne : row ≠ []) :
    (Text.indent lead row).getLast? = row.getLast? := by
  rw [Text.indent_eq, List.getLast?_append, Text.getLast?_inner]
  cases hlast : row.getLast? with
  | none => exact absurd (List.getLast?_eq_none_iff.1 hlast) hne
  | some d => rfl

/-- Tidy rows are tidy at any depth. -/
theorem IsTidy.indent
    {row : Text}
    (h : IsTidy row)
    (n : Nat) :
    IsTidy (Text.indent (List.replicate n ' ') row) := by
  rcases h with ⟨hbare, hbreak⟩ | ⟨k, c, r, rfl, hc, hhash⟩
  · left
    refine ⟨by rw [isBareLine_indent, hbare], ?_⟩
    rw [Text.indent_of_unbroken _ hbreak]
    split
    · exact hbreak
    · intro c hc
      rcases List.mem_append.1 hc with hc | hc
      · exact Text.unbroken_spaces n c hc
      · exact hbreak c hc
  · right
    refine ⟨n + k, c, Text.inner (List.replicate n ' ') r, ?_, hc, hhash⟩
    rw [Text.indent_of_head _ (Text.unbroken_spaces k) hc, List.replicate_append_replicate]

/-- The statement of a tidy row moves with its indentation. -/
theorem leadingSpaces_indent
    {row : Text}
    (h : IsTidy row)
    (hbare : isBareLine row = false)
    (n : Nat) :
    leadingSpaces (Text.indent (List.replicate n ' ') row) = leadingSpaces row + n := by
  rcases h with ⟨hyes, -⟩ | ⟨k, c, r, rfl, hc, -⟩
  · rw [hyes] at hbare
    cases hbare
  · rw [Text.indent_of_head _ (Text.unbroken_spaces k) hc, List.replicate_append_replicate,
      leadingSpaces_of_head _ hc, leadingSpaces_of_head _ hc, Nat.add_comm]

/-- Indentation moves the lines of tidy rows and changes nothing else. -/
theorem lay_indent
    (n : Nat)
    {rows : List Text}
    (h : ∀ row ∈ rows, IsTidy row)
    (opened : List Char)
    (column : Nat) :
    lay opened (column + n) (rows.map (Text.indent (List.replicate n ' '))) =
      (lay opened column rows).map fun (lines, opened, column) =>
        (lines.map (LogicalLine.shift n), opened, column + n) := by
  induction rows generalizing opened column with
  | nil => rfl
  | cons row rest ih =>
      have hrest : ∀ row ∈ rest, IsTidy row := fun r hr => h r (by simp [hr])
      have hrow := h row (by simp)
      rw [List.map_cons, lay, lay, isBareLine_indent]
      cases hbare : isBareLine row with
      | true => exact ih hrest opened column
      | false =>
          have hne : row ≠ [] := by
            rintro rfl
            cases hbare
          have hsettled : Settled (some (Spot.code, opened)) := by
            intro p o hp
            cases hp
            exact .inl rfl
          have hstart : (if opened.isEmpty then leadingSpaces row + n else column + n) =
              (if opened.isEmpty then leadingSpaces row else column) + n := by
            split <;> rfl
          simp only [Bool.false_eq_true, if_false]
          rw [leadingSpaces_indent hrow hbare, hstart, read_append, read_indent n row hsettled,
            ← read_append, getLast?_indent _ hne]
          generalize (if opened.isEmpty then leadingSpaces row else column) = start
          generalize (lexis true).read (some (Spot.code, opened)) (row ++ ['\n']) = result
          rcases result with _ | ⟨p, _ | ⟨c, more⟩⟩
          · rfl
          · cases p with
            | code =>
                simp only [ih hrest [] start, Option.map_map]
                rfl
            | _ => rfl
          · cases p with
            | code => exact ih hrest (c :: more) start
            | _ => rfl

/-- Rows behind rows are laid out from where those stopped. -/
theorem lay_append
    (rows rest : List Text)
    (opened : List Char)
    (column : Nat) :
    lay opened column (rows ++ rest) =
      (lay opened column rows).bind fun (lines, opened, column) =>
        (lay opened column rest).map fun (more, last) => (lines ++ more, last) := by
  induction rows generalizing opened column with
  | nil =>
      rw [List.nil_append, lay, Option.bind_some]
      simp
  | cons row rows ih =>
      rw [List.cons_append, lay, lay]
      cases hbare : isBareLine row with
      | true => exact ih opened column
      | false =>
          simp only [Bool.false_eq_true, if_false]
          generalize (if opened.isEmpty then leadingSpaces row else column) = start
          generalize (lexis true).read (some (Spot.code, opened)) (row ++ ['\n']) = result
          rcases result with _ | ⟨p, _ | ⟨c, more⟩⟩
          · rfl
          · cases p with
            | code =>
                simp only [ih [] start]
                cases lay [] start rows with
                | none => rfl
                | some found =>
                    simp only [Option.bind_some, Option.map_some, Option.map_map]
                    rfl
            | _ => rfl
          · cases p with
            | code => exact ih (c :: more) start
            | _ => rfl

/-- At the start of a line the column of the one before it does not matter. -/
theorem lay_column
    {rows : List Text}
    {column column' : Nat}
    {lines : List LogicalLine}
    {opened : List Char}
    (h : lay [] column rows = some (lines, opened, column'))
    (other : Nat) :
    ∃ last, lay [] other rows = some (lines, opened, last) := by
  induction rows generalizing column other with
  | nil =>
      rw [lay] at h ⊢
      cases h
      exact ⟨other, rfl⟩
  | cons row rows ih =>
      rw [lay] at h ⊢
      cases hbare : isBareLine row with
      | true =>
          rw [hbare] at h
          exact ih h other
      | false =>
          rw [hbare] at h
          exact ⟨column', h⟩

end BotCanvas.Offside
