import BotCanvas.Text.Lines
import BotCanvas.Text.Trim
import Mathlib.Data.List.Basic

/-!
# Indentation in one pass

Indentation is defined line by line. Here it is described character by character: a lead is put
before a line that is not blank, and inside a text this can only happen right after a character
that ends a line. Everything that is said about indented code follows from this description:

* a reader that ignores the lead after a line end cannot tell an indented text from the plain one
  (`foldl_indent`);
* code in front of a line feed and code behind it are indented apart (`indent_append_lineFeed`);
* the rows between line feeds are indented one by one, and no word of a text changes.
-/

namespace BotCanvas.Text

/-- The part of a text up to its first line end. -/
def firstLine (s : Text) : Text :=
  s.takeWhile fun c => !isLineBreak c

/-- What indentation puts before a text: nothing if its first line is blank. -/
def opening (lead s : Text) : Text :=
  if (firstLine s).all isBlank then [] else lead

/-- The indentation of what follows inside a line that has begun. -/
def inner (lead : Text) : List Char → Text
  | [] => []
  | '\r' :: '\n' :: r => '\r' :: '\n' :: (opening lead r ++ inner lead r)
  | c :: r =>
      if isLineBreak c then c :: (opening lead r ++ inner lead r) else c :: inner lead r

/-- Every character that ends a line is blank. -/
theorem isBlank_of_isLineBreak
    {c : Char}
    (h : isLineBreak c = true) :
    isBlank c = true := by
  simp only [isLineBreak, isBlank, Bool.or_eq_true, Bool.and_eq_true, decide_eq_true_eq,
    beq_iff_eq] at h ⊢
  omega

/-- A character that is not blank ends no line. -/
theorem isLineBreak_of_not_isBlank
    {c : Char}
    (h : isBlank c = false) :
    isLineBreak c = false := by
  cases hc : isLineBreak c with
  | false => rfl
  | true => exact (isBlank_of_isLineBreak hc).symm.trans h

/-- The first line of the list of lines is the first line of the text. -/
theorem head_lines
    (s : Text) :
    ((lines s).head?.map Line.body).getD [] = firstLine s := by
  fun_induction lines s with
  | case1 => rfl
  | case2 r ih =>
      simp [firstLine, show isLineBreak '\r' = true by decide]
  | case3 c r hcr hbreak =>
      simp [firstLine, hbreak]
  | case4 c r hcr hbreak hnil ih =>
      have hr : firstLine r = [] := by
        rw [← ih, hnil]
        rfl
      simp only [firstLine] at hr
      simp [firstLine, hbreak, hr]
  | case5 c r hcr hbreak l ls hcons ih =>
      rw [hcons] at ih
      have hr : l.body = firstLine r := by
        simpa using ih
      simp [firstLine, hbreak, hr]

/-- A line of indentation: the lead stands before it unless it is blank. -/
def indentLine (lead : Text) (l : Line) : Text :=
  if l.isBlankLine then l.full else lead ++ l.full

/-- Indentation goes line by line. -/
theorem indent_eq_flatMap
    (lead s : Text) :
    indent lead s = (lines s).flatMap (indentLine lead) :=
  rfl

/-- Indentation is its opening and then the indentation inside the first line. -/
theorem indent_eq
    (lead s : Text) :
    indent lead s = opening lead s ++ inner lead s := by
  rw [indent_eq_flatMap]
  fun_induction lines s with
  | case1 => rfl
  | case2 r ih =>
      rw [List.flatMap_cons, ih]
      simp [opening, firstLine, inner, indentLine, Line.isBlankLine, Line.full,
        show isLineBreak '\r' = true by decide]
  | case3 c r hcr hbreak ih =>
      rw [List.flatMap_cons, ih]
      simp [opening, firstLine, inner, hbreak, indentLine, Line.isBlankLine, Line.full]
  | case4 c r hcr hbreak hnil ih =>
      have hr : r = [] := by
        rw [← flatMap_full_lines r, hnil]
        rfl
      subst hr
      by_cases hblank : isBlank c = true <;>
        simp [indentLine, hbreak, hblank, inner, opening, firstLine, Line.isBlankLine, Line.full]
  | case5 c r hcr hbreak l ls hcons ih =>
      have hbody : firstLine r = l.body := by
        rw [← head_lines r, hcons]
        rfl
      have hinner : l.full ++ ls.flatMap (indentLine lead) = inner lead r := by
        rw [hcons, List.flatMap_cons] at ih
        by_cases hblank : l.body.all isBlank = true
        · simpa [opening, hbody, indentLine, Line.isBlankLine, hblank] using ih
        · simpa [opening, hbody, indentLine, Line.isBlankLine, hblank] using ih
      have hopening :
          opening lead (c :: r) = if (c :: l.body).all isBlank then [] else lead := by
        rw [← hbody]
        simp [opening, firstLine, hbreak]
      rw [List.flatMap_cons, hopening]
      simp only [inner, hbreak, Bool.false_eq_true, if_false, ← hinner]
      by_cases hblank : (c :: l.body).all isBlank = true <;>
        simp [indentLine, Line.isBlankLine, Line.full, hblank]

/-- Indentation by nothing. -/
@[simp] theorem indent_nil
    (s : Text) :
    indent [] s = s := by
  have hline : indentLine [] = Line.full := by
    funext l
    rw [indentLine, List.nil_append, ite_self]
  rw [indent_eq_flatMap, hline, flatMap_full_lines]

/-- An unbroken start belongs to the first line. -/
theorem firstLine_append_of_unbroken
    {lead : Text}
    (hlead : ∀ c ∈ lead, isLineBreak c = false)
    (s : Text) :
    firstLine (lead ++ s) = lead ++ firstLine s := by
  unfold firstLine
  rw [List.takeWhile_append_of_pos]
  intro c hc
  rw [hlead c hc]
  rfl

/-- Indentation inside a text leaves its first line alone. -/
theorem firstLine_inner
    (lead s : Text) :
    firstLine (inner lead s) = firstLine s := by
  fun_induction inner lead s with
  | case1 => rfl
  | case2 r ih => simp [firstLine, show isLineBreak '\r' = true by decide]
  | case3 c r hcr hc ih => simp [firstLine, hc]
  | case4 c r hcr hc ih =>
      have hc : isLineBreak c = false := by simpa using hc
      have hsingle : ∀ d ∈ [c], isLineBreak d = false := by simpa using hc
      have hcons := firstLine_append_of_unbroken hsingle
      exact (hcons _).trans ((congrArg _ ih).trans (hcons r).symm)

/-- The first line of an indented text has the opening before it. -/
theorem firstLine_indent
    {lead : Text}
    (hlead : ∀ c ∈ lead, isLineBreak c = false)
    (s : Text) :
    firstLine (indent lead s) = opening lead s ++ firstLine s := by
  have hopening : ∀ c ∈ opening lead s, isLineBreak c = false := by
    unfold opening
    split
    · simp
    · exact hlead
  rw [indent_eq, firstLine_append_of_unbroken hopening, firstLine_inner]

/-- Indentation inside a text keeps its first character. -/
theorem head?_inner
    (lead s : Text) :
    (inner lead s).head? = s.head? := by
  fun_induction inner lead s <;> rfl

/-- A line feed ends the first line wherever it stands. -/
theorem firstLine_append_lineFeed
    (a b : Text) :
    firstLine (a ++ '\n' :: b) = firstLine a := by
  induction a with
  | nil =>
      simp [firstLine, show isLineBreak '\n' = true by decide]
  | cons c r ih =>
      simp only [firstLine] at ih
      by_cases h : isLineBreak c = true <;> simp [firstLine, h, ih]

/-- What follows a line feed has no say in the opening before it. -/
theorem opening_append_lineFeed
    (lead a b : Text) :
    opening lead (a ++ '\n' :: b) = opening lead a := by
  simp [opening, firstLine_append_lineFeed]

/-- Inside a line as well, indentation falls apart at a line feed. -/
theorem inner_append_lineFeed
    (lead a b : Text) :
    inner lead (a ++ '\n' :: b) = inner lead a ++ '\n' :: indent lead b := by
  have hbreak : isLineBreak '\n' = true := by decide
  fun_induction inner lead a with
  | case1 =>
      rw [List.nil_append, inner, if_pos hbreak, ← indent_eq]
      · rfl
      · simp
  | case2 r ih =>
      simp only [List.cons_append, inner, opening_append_lineFeed, ih, List.append_assoc]
  | case3 c r hcr hc ih =>
      by_cases hnil : r = [] ∧ c = '\r'
      · -- a carriage return in front of the line feed makes one line end with it
        obtain ⟨rfl, rfl⟩ := hnil
        simp [inner, indent_eq, opening, firstLine]
      · have hpair : ∀ t, c = '\r' → r ++ '\n' :: b = '\n' :: t → False := by
          intro t hcar heq
          cases r with
          | nil => exact hnil ⟨rfl, hcar⟩
          | cons d r =>
              simp only [List.cons_append, List.cons.injEq] at heq
              exact hcr r hcar (by rw [heq.1])
        rw [List.cons_append, inner, if_pos hc, ih, opening_append_lineFeed]
        · simp
        · exact hpair
  | case4 c r hcr hc ih =>
      have hcar : c ≠ '\r' := by
        rintro rfl
        exact hc (by decide)
      rw [List.cons_append, inner, if_neg hc, ih]
      · rfl
      · intro t h
        exact absurd h hcar

/-- Code in front of a line feed and code behind it are indented apart. -/
theorem indent_append_lineFeed
    (lead a b : Text) :
    indent lead (a ++ '\n' :: b) = indent lead a ++ '\n' :: indent lead b := by
  rw [indent_eq lead (a ++ '\n' :: b), opening_append_lineFeed, inner_append_lineFeed,
    indent_eq lead a, List.append_assoc]

section Readers

variable {σ : Type}
variable {step : σ → Char → σ}
variable {Settled : σ → Prop}
variable {lead : Text}

/-- A settled reader ignores an opening. -/
theorem foldl_opening
    (hlead : ∀ q, Settled q → lead.foldl step q = q)
    (s : Text)
    {q : σ}
    (hq : Settled q) :
    (opening lead s).foldl step q = q := by
  unfold opening
  split
  · rfl
  · exact hlead q hq

/--
A reader that is settled after every line end, and then ignores the lead, reads a text and the
indentation inside it alike.
-/
theorem foldl_inner
    (hbreak : ∀ q c, isLineBreak c = true → Settled (step q c))
    (hlead : ∀ q, Settled q → lead.foldl step q = q)
    (s : Text)
    (q : σ) :
    (inner lead s).foldl step q = s.foldl step q := by
  fun_induction inner lead s generalizing q with
  | case1 => rfl
  | case2 r ih =>
      simp only [List.foldl_cons, List.foldl_append]
      rw [foldl_opening hlead r (hbreak _ '\n' (by decide)), ih]
  | case3 c r hcr hc ih =>
      simp only [List.foldl_cons, List.foldl_append]
      rw [foldl_opening hlead r (hbreak q c hc), ih]
  | case4 c r hcr hc ih =>
      simp only [List.foldl_cons]
      rw [ih]

/-- A settled reader reads a text and its indentation alike. -/
theorem foldl_indent
    (hbreak : ∀ q c, isLineBreak c = true → Settled (step q c))
    (hlead : ∀ q, Settled q → lead.foldl step q = q)
    (s : Text)
    {q : σ}
    (hq : Settled q) :
    (indent lead s).foldl step q = s.foldl step q := by
  rw [indent_eq, List.foldl_append, foldl_opening hlead s hq,
    foldl_inner hbreak hlead]

end Readers

end BotCanvas.Text
