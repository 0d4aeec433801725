import BotCanvas.Proofs.Text.Rows

/-!
# Reading literals back

A language reads a literal up to the closing mark: a backslash and the character behind it stand for
one character, and most other characters stand for themselves.

A text is escaped by rules of one kind (`LiteralForm.Spells`): every character either stands for
itself or gets a backslash, and blanks other than line feeds and carriage returns are never escaped.
Hence reading an escaped text gives the text, and reading it from an indented row gives the text with
spaces after its separators (`Spells.read_inner`).
-/

namespace BotCanvas

open Text

/-! ## Separators

Inside a row, lines are still told apart by the **separators**, the line ends other than a line feed
and a carriage return. A text that stands in a row, with more behind it, gets spaces after a separator
unless the line that begins there is blank.
-/

namespace Text

/-- Characters that end a line and are not written otherwise in a literal. -/
def isSeparator (c : Char) : Bool :=
  isLineBreak c && c != '\n' && c != '\r'

theorem isLineBreak_of_isSeparator
    {c : Char}
    (h : isSeparator c = true) :
    isLineBreak c = true := by
  rw [isSeparator, Bool.and_eq_true, Bool.and_eq_true] at h
  exact h.1.1

/-- Other than at line feeds and carriage returns, lines end at separators. -/
theorem isSeparator_eq
    {c : Char}
    (hlf : c ≠ '\n')
    (hcr : c ≠ '\r') :
    isSeparator c = isLineBreak c := by
  rw [isSeparator, bne_iff_ne.2 hlf, bne_iff_ne.2 hcr, Bool.and_true, Bool.and_true]

/-- Tests for nothing but blanks before the next separator. -/
def startsBlank : Text → Bool
  | [] => false
  | c :: r => isSeparator c || (isBlank c && !isLineBreak c && startsBlank r)

/-- A text with spaces after its separators, except before a blank line. -/
def respaced (lead : Text) : Text → Text
  | [] => []
  | c :: r =>
      if isSeparator c && !startsBlank r then c :: (lead ++ respaced lead r)
      else c :: respaced lead r

/-- A text without separators stays as it is. -/
theorem respaced_of_all
    (lead : Text)
    {s : Text}
    (h : ∀ c ∈ s, isSeparator c = false) :
    respaced lead s = s := by
  induction s with
  | nil => rfl
  | cons c r ih =>
      rw [List.forall_mem_cons] at h
      rw [respaced, h.1, ih h.2]
      rfl

/-- Spaces and separators are other characters than those that need a backslash. -/
theorem ne_of_isSeparator
    {c d : Char}
    (hc : c = ' ' ∨ isSeparator c = true)
    (hd : isSeparator d = false)
    (hspace : d ≠ ' ') :
    c ≠ d := by
  rintro rfl
  rcases hc with hc | hc
  · exact hspace hc
  · rw [hd] at hc
    cases hc

/-- A text starts with the text that is put before it. -/
theorem dropPrefix?_append
    (s r : Text) :
    (s ++ r).dropPrefix? s = some r :=
  List.dropPrefix?_eq_some_iff.2 ⟨s, rfl, by simp⟩

end Text

/-! ## Literals -/

/-- How a language reads literals of one kind. -/
structure LiteralForm where
  /-- The mark that closes a literal. -/
  quote : Char
  /-- What a character behind a backslash stands for, if it is known. -/
  unescape : Char → Option Char
  /-- Tests for a character that stands for itself, given the one behind it. -/
  stands : Char → Option Char → Bool

namespace LiteralForm

/-- Reads a literal behind its opening mark: the text in it and what follows the closing mark. -/
def read (f : LiteralForm) : Text → Option (Text × Text)
  | [] => none
  | '\\' :: c :: r => (f.unescape c).bind fun d => (read f r).map fun (s, rest) => (d :: s, rest)
  | c :: r =>
      if c = f.quote then some ([], r)
      else if f.stands c r.head? then (read f r).map fun (s, rest) => (c :: s, rest)
      else none

variable {f : LiteralForm}

/-- A character that stands for itself. -/
theorem read_cons
    {c : Char}
    (hc : c ≠ '\\')
    (hquote : c ≠ f.quote)
    {r : Text}
    (hstands : f.stands c r.head? = true) :
    f.read (c :: r) = (f.read r).map fun (s, rest) => (c :: s, rest) := by
  rw [read]
  · rw [if_neg hquote, if_pos hstands]
  · rintro d r' rfl -
    exact hc rfl

/-- The closing mark. -/
theorem read_quote
    (hquote : f.quote ≠ '\\')
    (r : Text) :
    f.read (f.quote :: r) = some ([], r) := by
  rw [read]
  · rw [if_pos rfl]
  · exact fun d r' h _ => hquote h

/-- A way of escaping that a form of literals understands. -/
structure Spells (f : LiteralForm) (escape : Text → Text) : Prop where
  quote : f.quote ≠ '\\' ∧ isBlank f.quote = false
  stands : ∀ c next, c = ' ' ∨ isSeparator c = true → f.stands c next = true
  nil : escape [] = []
  cons : ∀ c r,
    (∃ x, escape (c :: r) = '\\' :: x :: escape r ∧ f.unescape x = some c ∧
      isLineBreak x = false ∧ (c = '\n' ∨ c = '\r' ∨ isBlank c = false)) ∨
    (escape (c :: r) = c :: escape r ∧ c ≠ '\n' ∧ c ≠ '\r' ∧ c ≠ '\\' ∧ c ≠ f.quote ∧
      ∀ post, f.stands c (escape r ++ f.quote :: post).head? = true)

namespace Spells

variable {escape : Text → Text}

/-- An escaped text stays in its row. -/
theorem lineFeed_not_mem
    (h : f.Spells escape)
    (s : Text) :
    '\n' ∉ escape s := by
  induction s with
  | nil => simp [h.nil]
  | cons c r ih =>
      obtain ⟨x, hx, -, hbreak, -⟩ | ⟨hplain, hlf, -⟩ := h.cons c r
      · have hne : '\n' ≠ x := by
          rintro rfl
          exact absurd hbreak (by decide)
        rw [hx]
        simp [hne, ih]
      · rw [hplain]
        simp [Ne.symm hlf, ih]

/-- An escaped text is read as the text. -/
theorem read_append
    (h : f.Spells escape)
    (s post : Text) :
    f.read (escape s ++ f.quote :: post) = some (s, post) := by
  induction s with
  | nil => rw [h.nil, List.nil_append, read_quote h.quote.1]
  | cons c r ih =>
      obtain ⟨x, hx, hunescape, -⟩ | ⟨hplain, -, -, hslash, hclose, hstands⟩ := h.cons c r
      · rw [hx]
        simp only [List.cons_append, read, hunescape, ih]
        rfl
      · rw [hplain, List.cons_append, read_cons hslash hclose (hstands post), ih]
        rfl

/-- Blanks stand for themselves. -/
theorem read_blank
    (h : f.Spells escape)
    {c : Char}
    (hc : c = ' ' ∨ isSeparator c = true)
    (r : Text) :
    f.read (c :: r) = (f.read r).map fun (s, rest) => (c :: s, rest) := by
  have hblank : isBlank c = true := by
    rcases hc with rfl | hc
    · decide
    · exact isBlank_of_isLineBreak (isLineBreak_of_isSeparator hc)
  refine read_cons ?_ ?_ (h.stands c _ hc)
  · rintro rfl
    exact absurd hblank (by decide)
  · rintro rfl
    rw [h.quote.2] at hblank
    cases hblank

theorem read_spaces
    (h : f.Spells escape)
    (n : Nat)
    {r s rest : Text}
    (hr : f.read r = some (s, rest)) :
    f.read (List.replicate n ' ' ++ r) = some (List.replicate n ' ' ++ s, rest) := by
  induction n with
  | zero => exact hr
  | succ n ih =>
      rw [List.replicate_succ, List.cons_append, h.read_blank (.inl rfl), ih]
      rfl

/-- In a row that goes on behind an escaped text, the text decides what is blank. -/
theorem all_firstLine
    (h : f.Spells escape)
    (r post : Text) :
    (firstLine (escape r ++ f.quote :: post)).all isBlank = startsBlank r := by
  have hquote := isLineBreak_of_not_isBlank h.quote.2
  induction r with
  | nil =>
      rw [h.nil, List.nil_append, startsBlank]
      simp [firstLine, hquote, h.quote.2]
  | cons c r ih =>
      rw [startsBlank]
      obtain ⟨x, hx, -, -, hc⟩ | ⟨hplain, hlf, hcr, -⟩ := h.cons c r
      · have hstart : startsBlank (c :: r) = false := by
          rw [startsBlank]
          rcases hc with rfl | rfl | hc
          · simp [isSeparator, isLineBreak]
          · simp [isSeparator, isLineBreak]
          · simp [isSeparator, isLineBreak_of_not_isBlank hc, hc]
        rw [startsBlank] at hstart
        rw [hstart, hx]
        simp [firstLine, show isLineBreak '\\' = false by decide,
          show isBlank '\\' = false by decide]
      · rw [hplain, List.cons_append]
        have hsep := isSeparator_eq hlf hcr
        by_cases hbreak : isLineBreak c = true
        · simp [firstLine, hsep, hbreak]
        · simp only [Bool.not_eq_true] at hbreak
          simp only [firstLine] at ih
          simp [firstLine, hsep, hbreak, ih]

/-- A literal in an indented row holds the text with spaces after its separators. -/
theorem read_inner
    (h : f.Spells escape)
    (n : Nat)
    (s : Text)
    {post : Text}
    (hpost : ∀ c ∈ post, isLineBreak c = false) :
    f.read (Text.inner (List.replicate n ' ') (escape s ++ f.quote :: post)) =
      some (respaced (List.replicate n ' ') s, post) := by
  have hquote := isLineBreak_of_not_isBlank h.quote.2
  induction s with
  | nil =>
      have hunbroken : ∀ c ∈ f.quote :: post, isLineBreak c = false := by
        simpa [hquote] using hpost
      have hinner := inner_append_of_unbroken (List.replicate n ' ') hunbroken []
      rw [List.append_nil, Text.inner, List.append_nil] at hinner
      rw [h.nil, List.nil_append, hinner, read_quote h.quote.1]
      rfl
  | cons c r ih =>
      obtain ⟨x, hx, hunescape, hbreak, hc⟩ | ⟨hplain, hlf, hcr, hslash, hclose, hstands⟩ :=
        h.cons c r
      · have hsep : isSeparator c = false := by
          rcases hc with rfl | rfl | hc
          · decide
          · decide
          · simp [isSeparator, isLineBreak_of_not_isBlank hc]
        have hpair : ∀ d ∈ ['\\', x], isLineBreak d = false := by
          simp [hbreak, show isLineBreak '\\' = false by decide]
        have hinner := inner_append_of_unbroken (List.replicate n ' ') hpair
          (escape r ++ f.quote :: post)
        rw [hx, respaced, hsep]
        simp only [List.cons_append, List.nil_append] at hinner ⊢
        rw [hinner, read, hunescape, ih]
        rfl
      · rw [hplain, List.cons_append, respaced]
        cases hsep : isSeparator c with
        | true =>
            rw [Text.inner, if_pos (isLineBreak_of_isSeparator hsep), h.read_blank (.inr hsep),
              opening, h.all_firstLine]
            · cases hstart : startsBlank r with
              | true =>
                  simp only [if_true, List.nil_append, ih, Bool.not_true, Bool.and_false]
                  rfl
              | false =>
                  simp only [Bool.false_eq_true, if_false, Bool.not_false, Bool.and_self,
                    if_true, h.read_spaces n ih]
                  rfl
            · exact fun t hcar => absurd hcar hcr
        | false =>
            have hline : isLineBreak c = false := (isSeparator_eq hlf hcr).symm.trans hsep
            rw [Text.inner, if_neg (by simp [hline]), read_cons hslash hclose, ih]
            · rfl
            · rw [head?_inner]
              exact hstands post
            · exact fun t hcar => absurd hcar hcr

end Spells

end LiteralForm

end BotCanvas
