import BotCanvas.Proofs.Offside.Statements

/-!
# Suites

Code is laid if its logical lines are laid out well. A suite has a logical line besides: the line
that does nothing is put under code that consists of remarks, and under no other
(`isSuite_suite`). Parts that are laid may stand one under another, also a line that opens a suite
with the suite under it.
-/

namespace BotCanvas.Offside

open Lexis

/-! ## Texts without a statement -/

/-- Tests for a text without a statement. -/
def isBare (t : Text) : Bool :=
  (Text.lineBodies t).all isBareLine

/-- A text has no statement if neither of its sides has one. -/
theorem isBare_append
    (a b : Text) :
    isBare (a ++ '\n' :: b) = (isBare a && isBare b) := by
  obtain ⟨gap, hgap, hbodies⟩ := Text.lineBodies_append a b
  have hbare : gap.all isBareLine = true := by
    rcases hgap with rfl | rfl <;> rfl
  unfold isBare
  rw [hbodies, List.all_append, List.all_append, hbare, Bool.true_and]

/-- A text that begins with a statement behind spaces is not bare. -/
theorem isBare_of_head
    (k : Nat)
    {c : Char}
    (hc : Text.isBlank c = false)
    (hhash : c ≠ '#')
    (r : Text) :
    isBare (List.replicate k ' ' ++ c :: r) = false := by
  have hfirst : ∃ l ls, Text.lineBodies (List.replicate k ' ' ++ c :: r) =
      (List.replicate k ' ' ++ c :: l) :: ls := by
    induction k with
    | zero =>
        have hbreak : Text.isLineBreak c = false := by
          cases h : Text.isLineBreak c with
          | false => rfl
          | true => simp [Text.isBlank_of_isLineBreak h] at hc
        rw [List.replicate_zero, List.nil_append, Text.lineBodies_cons hbreak]
        cases Text.lineBodies r with
        | nil => exact ⟨[], [], rfl⟩
        | cons l ls => exact ⟨l, ls, rfl⟩
    | succ k ih =>
        obtain ⟨l, ls, h⟩ := ih
        refine ⟨l, ls, ?_⟩
        rw [List.replicate_succ, List.cons_append, Text.lineBodies_cons (by decide), h]
        rfl
  obtain ⟨l, ls, h⟩ := hfirst
  unfold isBare
  rw [h, List.all_cons, isBareLine_of_head k hc hhash, Bool.false_and]

/-- A tidy row is a line without a statement or begins with one. -/
theorem isBare_row
    {row : Text}
    (h : IsTidy row) :
    isBare row = isBareLine row := by
  rcases h with ⟨hbare, hbreak⟩ | ⟨k, c, r, rfl, hc, hhash⟩
  · unfold isBare
    rw [Text.lineBodies_of_unbroken hbreak]
    cases row with
    | nil => rfl
    | cons c r => simp
  · rw [isBare_of_head k hc hhash, isBareLine_of_head k hc hhash]

/-- A text of tidy rows has no statement if no row has one. -/
theorem isBare_rows
    {t : Text}
    (h : ∀ row ∈ Text.splitOn '\n' t, IsTidy row) :
    isBare t = (Text.splitOn '\n' t).all isBareLine := by
  induction t using Text.row_induction with
  | row a ha =>
      rw [Text.splitOn_of_not_mem ha] at h ⊢
      simpa using isBare_row (h a (by simp))
  | cons a b ha ih =>
      rw [Text.splitOn_append, Text.splitOn_of_not_mem ha] at h ⊢
      rw [isBare_append, isBare_row (h a (by simp)), ih fun row hrow => h row (by simp [hrow])]
      simp

/-- Rows with all brackets closed have logical lines unless they have no statement. -/
theorem isEmpty_of_lay
    {opened : List Char}
    {column last : Nat}
    {rows : List Text}
    {lines : List LogicalLine}
    (h : lay opened column rows = some (lines, [], last)) :
    lines.isEmpty = (opened.isEmpty && rows.all isBareLine) := by
  induction rows generalizing opened column lines with
  | nil =>
      cases h
      rfl
  | cons row rest ih =>
      rw [lay] at h
      cases hbare : isBareLine row with
      | true =>
          rw [hbare] at h
          rw [ih h, List.all_cons, hbare, Bool.true_and]
      | false =>
          rw [hbare] at h
          simp only [Bool.false_eq_true, if_false] at h
          rw [List.all_cons, hbare, Bool.false_and, Bool.and_false]
          split at h
          · obtain ⟨⟨found, rest⟩, -, hfound⟩ := Option.map_eq_some_iff.1 h
            obtain ⟨rfl, -⟩ := Prod.mk.inj hfound
            rfl
          · rw [ih h]
            rfl
          · cases h

/-- Code has logical lines unless it has no statement. -/
theorem Lays.isBare_write
    {c : Code}
    {lines : List LogicalLine}
    (h : Lays c lines) :
    isBare (c.write spelling) = lines.isEmpty := by
  obtain ⟨last, hlay⟩ := h.lays
  rw [isEmpty_of_lay hlay, List.isEmpty_nil, Bool.true_and]
  exact isBare_rows h.tidy

/-! ## Logical lines of stacked and nested code -/

/-- Nested code has the logical lines of the code inside, deeper. -/
theorem Lays.nest
    {c : Code}
    {lines : List LogicalLine}
    (h : Lays c lines)
    (levels : Nat) :
    Lays (.nest levels c) (lines.map (LogicalLine.shift (levels * 4))) := by
  have hrows : (Code.nest levels c).rows spelling =
      (c.rows spelling).map (Text.indent (List.replicate (levels * 4) ' ')) :=
    Code.rows_nest rfl levels c
  refine ⟨?_, ?_⟩
  · intro row hrow
    rw [hrows] at hrow
    obtain ⟨inside, hinside, rfl⟩ := List.mem_map.1 hrow
    exact (h.tidy inside hinside).indent _
  · obtain ⟨last, hlay⟩ := h.lays
    have hindent := lay_indent (levels * 4) h.tidy [] 0
    rw [hlay] at hindent
    rw [hrows]
    exact lay_column hindent 0

/-- A stack has the logical lines of its parts, one after another. -/
theorem Lays.stack
    {parts : List Code}
    {layouts : List (List LogicalLine)}
    (hne : parts ≠ [])
    (h : List.Forall₂ Lays parts layouts) :
    Lays (.stack parts) layouts.flatten := by
  have hrows : (∀ row ∈ parts.flatMap (Code.rows spelling), IsTidy row) ∧
      ∃ last, lay [] 0 (parts.flatMap (Code.rows spelling)) = some (layouts.flatten, [], last) := by
    clear hne
    induction h with
    | nil => exact ⟨by simp, 0, rfl⟩
    | cons hc _ ih =>
        obtain ⟨column, hcolumn⟩ := hc.lays
        obtain ⟨htidy, last, hlast⟩ := ih
        obtain ⟨last', hlast'⟩ := lay_column hlast column
        refine ⟨?_, last', ?_⟩
        · rw [List.flatMap_cons]
          intro row hrow
          rcases List.mem_append.1 hrow with hrow | hrow
          · exact hc.tidy row hrow
          · exact htidy row hrow
        · rw [List.flatMap_cons, lay_append, hcolumn, List.flatten_cons]
          simp [hlast']
  rw [← Code.rows_stack hne] at hrows
  exact ⟨hrows.1, hrows.2⟩

/-- A row that begins with a statement behind spaces, and closes what it opens, is a logical line. -/
theorem lays_row
    {code : Code}
    {k : Nat}
    {c : Char}
    {r : Text}
    (hwrite : code.write spelling = List.replicate k ' ' ++ c :: r)
    (hc : Text.isBlank c = false)
    (hhash : c ≠ '#')
    (hfeed : '\n' ∉ code.write spelling)
    (hread : (lexis true).read (some (.code, [])) (code.write spelling ++ ['\n']) =
      some (.code, [])) :
    Lays code [⟨k, (code.write spelling).getLast? == some ':'⟩] := by
  have hrows : code.rows spelling = [code.write spelling] :=
    Code.rows_of_not_mem hfeed
  have hbare : isBareLine (code.write spelling) = false := by
    rw [hwrite, isBareLine_of_head k hc hhash]
  have hspaces : leadingSpaces (code.write spelling) = k := by
    rw [hwrite, leadingSpaces_of_head k hc]
  refine ⟨?_, k, ?_⟩
  · rw [hrows]
    simp only [List.mem_singleton, forall_eq]
    exact .inr ⟨k, c, r, hwrite, hc, hhash⟩
  · rw [hrows, lay, hbare, hspaces, hread]
    rfl

/-- An empty row has no logical line. -/
theorem lays_empty :
    Lays (.written []) [] :=
  ⟨by simp [Code.rows, Code.write, Text.splitOn, IsTidy, isBareLine], 0, rfl⟩

/-- The line that does nothing is a logical line. -/
theorem lays_noop :
    Lays (.written noop) [⟨0, false⟩] := by
  have hline : Lays "pass" [⟨0, false⟩] :=
    lays_line (p := fun _ => true) (by simp) (by decide)
  exact ⟨hline.tidy, hline.lays⟩

/-! ## Laid code -/

/-- Code with well laid logical lines. -/
def Laid (c : Code) : Prop :=
  ∃ lines, Lays c lines ∧ WellLaid lines

/-- Code with well laid logical lines, at least one. -/
def IsSuite (c : Code) : Prop :=
  ∃ lines, Lays c lines ∧ WellLaid lines ∧ lines ≠ []

/-- Parts that are well laid one under another. -/
def LaidParts (parts : List Code) : Prop :=
  ∃ layouts, List.Forall₂ Lays parts layouts ∧ WellLaid layouts.flatten

theorem IsSuite.laid
    {c : Code}
    (h : IsSuite c) :
    Laid c := by
  obtain ⟨lines, hlays, hlaid, -⟩ := h
  exact ⟨lines, hlays, hlaid⟩

namespace LaidParts

variable {parts parts' : List Code}

theorem nil :
    LaidParts [] :=
  ⟨[], .nil, .nil⟩

theorem append
    (h : LaidParts parts)
    (h' : LaidParts parts') :
    LaidParts (parts ++ parts') := by
  obtain ⟨layouts, hlays, hlaid⟩ := h
  obtain ⟨layouts', hlays', hlaid'⟩ := h'
  refine ⟨layouts ++ layouts', List.rel_append hlays hlays', ?_⟩
  rw [List.flatten_append]
  exact hlaid.append hlaid'

/-- Laid code in front of laid parts. -/
theorem cons
    {c : Code}
    (h : Laid c)
    (hrest : LaidParts parts) :
    LaidParts (c :: parts) := by
  obtain ⟨lines, hlays, hlaid⟩ := h
  obtain ⟨layouts, hparts, hrest⟩ := hrest
  exact ⟨lines :: layouts, .cons hlays hparts, hlaid.append hrest⟩

theorem ofForall
    (h : ∀ c ∈ parts, Laid c) :
    LaidParts parts := by
  induction parts with
  | nil => exact nil
  | cons c rest ih => exact cons (h c (by simp)) (ih fun d hd => h d (by simp [hd]))

/-- A line that opens a suite, and the suite under it, in front of laid parts. -/
theorem block
    {head body : Code}
    (hhead : Lays head [⟨0, true⟩])
    (hbody : IsSuite body)
    (hrest : LaidParts parts) :
    LaidParts (head :: body.deeper :: parts) := by
  obtain ⟨lines, hlays, hlaid, hne⟩ := hbody
  obtain ⟨layouts, hparts, hrest⟩ := hrest
  refine ⟨_, .cons hhead (.cons (hlays.nest 1) hparts), ?_⟩
  exact (hlaid.suite hne).append hrest

/-- Laid parts are laid as a stack. -/
theorem stack
    (hne : parts ≠ [])
    (h : LaidParts parts) :
    Laid (.stack parts) := by
  obtain ⟨layouts, hlays, hlaid⟩ := h
  exact ⟨_, .stack hne hlays, hlaid⟩

end LaidParts

/-- A line that opens a suite, the suite under it and laid parts make a suite. -/
theorem IsSuite.block
    {head body : Code}
    {parts : List Code}
    (hhead : Lays head [⟨0, true⟩])
    (hbody : IsSuite body)
    (hrest : LaidParts parts) :
    IsSuite (.stack (head :: body.deeper :: parts)) := by
  obtain ⟨lines, hlays, hlaid, hne⟩ := hbody
  obtain ⟨layouts, hparts, hrest⟩ := hrest
  refine ⟨_, .stack (by simp) (.cons hhead (.cons (hlays.nest 1) hparts)), ?_, by simp⟩
  exact (hlaid.suite hne).append hrest

/-- Lines of statements one under another are laid. -/
theorem Laid.ofEvery
    {p : Char → Bool}
    {c : Code}
    (h : c.Every (IsStatement p)) :
    Laid c := by
  induction h with
  | line h =>
      obtain ⟨hsuits, hform⟩ := h
      rw [isStatement, Bool.and_eq_true, Bool.and_eq_true] at hform
      obtain ⟨lines, hlines, hlaid⟩ := (Option.any_eq_true _ _).1 hform.2.1
      exact ⟨lines, lays_line hsuits hlines, of_decide_eq_true hlaid⟩
  | stack hne _ ih => exact (LaidParts.ofForall ih).stack hne

/-- Laid code that has a statement, or gets the line that does nothing, is a suite. -/
theorem isSuite_suite
    {body : Code}
    (h : Laid body) :
    IsSuite (suite body) := by
  obtain ⟨lines, hlays, hlaid⟩ := h
  have hbare := hlays.isBare_write
  unfold suite
  split
  · have hstack := Lays.stack (by simp) (.cons hlays (.cons lays_noop .nil))
    exact ⟨_, hstack, hlaid.append .single, by simp⟩
  · rename_i hnot
    refine ⟨lines, hlays, hlaid, ?_⟩
    rintro rfl
    exact hnot hbare

end BotCanvas.Offside
