import BotCanvas.Text.Table.Identifier
import BotCanvas.Proofs.Text.Snake

/-!
# Usable identifiers

An identifier made from free text is not empty, has no digit in front and is no reserved word,
whatever the text is. Its characters are low lines and the word characters of the text. But word
characters are a wider class than the characters of identifiers: raised digits, fractions and a few
letters are in the one and not in the other. They are kept, so the identifier is usable if and only
if the text has none of them (`isUsable_identifier_iff`).
-/

namespace BotCanvas

namespace Text

/-- Characters that may stand in an identifier. -/
def isIdentifierChar (c : Char) : Bool :=
  inRanges Table.identifier c.toNat

/-- Numbers that are neither decimal digits nor letters, such as raised digits and fractions. -/
def isOtherNumber (c : Char) : Bool :=
  inRanges Table.otherNumber c.toNat

end Text

namespace Name

open Text

/-- A name that may be given to a variable in every target language. -/
structure IsUsable (t : Text) : Prop where
  ne_nil : t ≠ []
  head : ∀ c ∈ t.head?, isDigit c = false
  allowed : ∀ c ∈ t, isIdentifierChar c = true
  noOtherNumber : ∀ c ∈ t, isOtherNumber c = false
  free : isReserved t = false

/-- Whether a name is usable is told from its characters. -/
instance IsUsable.decidable (t : Text) : Decidable (IsUsable t) :=
  decidable_of_iff
    ((!t.isEmpty && t.head?.all (fun c => !isDigit c) &&
      t.all (fun c => isIdentifierChar c && !isOtherNumber c) && !isReserved t) = true) <| by
    simp only [Bool.and_eq_true, Bool.not_eq_true', List.isEmpty_eq_false_iff, Option.all_eq_true,
      List.all_eq_true]
    constructor
    · rintro ⟨⟨⟨hne, hhead⟩, hchars⟩, hfree⟩
      exact ⟨hne, hhead, fun c hc => (hchars c hc).1, fun c hc => (hchars c hc).2, hfree⟩
    · rintro ⟨hne, hhead, hallowed, hnumber, hfree⟩
      exact ⟨⟨⟨hne, hhead⟩, fun c hc => ⟨hallowed c hc, hnumber c hc⟩⟩, hfree⟩

/-- The runs of word characters of a text, joined by low lines. -/
def wordRuns (s : Text) : Text :=
  stripBy (· == '_') (collapse (fun c => !isWord c) '_' (strip s))

/-- Only word characters are in them. -/
theorem isWord_of_mem_wordRuns
    {s : Text}
    {c : Char}
    (h : c ∈ wordRuns s) :
    isWord c = true := by
  rcases mem_collapse (mem_of_mem_stripBy h) with rfl | hc
  · decide
  · simpa using hc

/-- But for low lines, these are the word characters of the text. -/
theorem mem_wordRuns_iff
    {s : Text}
    {c : Char}
    (hlow : c ≠ '_') :
    c ∈ wordRuns s ↔ c ∈ s ∧ isWord c = true := by
  have hkept : (wordRuns s).filter (fun d => isWord d && d != '_') =
      s.filter fun d => isWord d && d != '_' := by
    have hblank : ∀ d, isBlank d = true → (isWord d && d != '_') = false := by
      intro d hd
      cases hword : isWord d with
      | false => rfl
      | true => exact absurd (not_isBlank_of_class (.inl hword)) (by simp [hd])
    have hother : ∀ d, (!isWord d) = true → (isWord d && d != '_') = false := by
      intro d hd
      rw [Bool.not_eq_true'] at hd
      rw [hd, Bool.false_and]
    rw [wordRuns, filter_stripBy (by simp), filter_collapse hother (by simp), strip,
      filter_stripBy hblank]
  have hmem := congrArg (c ∈ ·) hkept
  simp only [List.mem_filter, Bool.and_eq_true, bne_iff_ne, eq_iff_iff] at hmem
  constructor
  · intro h
    obtain ⟨hs, hword, -⟩ := hmem.1 ⟨h, isWord_of_mem_wordRuns h, hlow⟩
    exact ⟨hs, hword⟩
  · rintro ⟨hs, hword⟩
    exact (hmem.2 ⟨hs, hword, hlow⟩).1

/-- No reserved word ends in a low line. -/
theorem isReserved_append_low
    (t : Text) :
    isReserved (t ++ ['_']) = false := by
  have hlast : ∀ w ∈ offsideKeywords ++ bracedKeywords ++ programNames,
      w.toList.getLast? ≠ some '_' := by
    decide
  have hnone : String.ofList (t ++ ['_']) ∉ offsideKeywords ++ bracedKeywords ++ programNames := by
    intro hw
    exact hlast _ hw (by simp)
  simp only [List.mem_append, not_or] at hnone
  simp only [isReserved, List.contains_eq_mem, hnone, decide_false, Bool.or_self]

/-- How an identifier is made: from the fallback if there is no word character, and else from the
word characters with low lines around them. -/
theorem identifier_cases
    (fallback s : Text) :
    (wordRuns s = [] ∧ identifier fallback s = fallback) ∨
      ∃ front back, identifier fallback s = front ++ wordRuns s ++ back ∧
        (∀ c ∈ front ++ back, c = '_') ∧ wordRuns s ≠ [] ∧
        (∀ c ∈ (identifier fallback s).head?, isDigit c = false) ∧
        isReserved (identifier fallback s) = false := by
  unfold identifier
  rw [← wordRuns]
  generalize wordRuns s = runs
  simp only
  split
  · rename_i hnil
    exact .inl ⟨List.isEmpty_iff.1 hnil, rfl⟩
  · rename_i hne
    rw [List.isEmpty_iff] at hne
    right
    have hlow : isDigit '_' = false := by decide
    obtain ⟨front, hspelled, hfront, hhead⟩ : ∃ front,
        (if runs.head?.any isDigit then '_' :: runs else runs) = front ++ runs ∧
          (∀ c ∈ front, c = '_') ∧ ∀ c ∈ (front ++ runs).head?, isDigit c = false := by
      split
      · exact ⟨['_'], rfl, by simp, by simpa using hlow⟩
      · rename_i hdigit
        exact ⟨[], rfl, by simp, by simpa [Option.any_eq_false] using hdigit⟩
    rw [hspelled]
    have hnonempty : front ++ runs ≠ [] := by simp [hne]
    split
    · refine ⟨front, ['_'], rfl, by simpa [or_imp, forall_and] using hfront, hne, ?_,
        isReserved_append_low _⟩
      rwa [List.head?_append_of_ne_nil _ hnonempty]
    · rename_i hfree
      exact ⟨front, [], by simp, by simpa using hfront, hne, hhead, by simpa using hfree⟩

/-- A class that low lines and the fallback are in is that of an identifier just if all word
characters of the text are in it. -/
theorem forall_mem_identifier_iff
    {p : Char → Prop}
    (hlow : p '_')
    {fallback : Text}
    (hfallback : ∀ c ∈ fallback, p c)
    (s : Text) :
    (∀ c ∈ identifier fallback s, p c) ↔ ∀ c ∈ s, isWord c = true → p c := by
  have hruns : (∀ c ∈ wordRuns s, p c) ↔ ∀ c ∈ s, isWord c = true → p c := by
    constructor
    · intro h c hc hword
      by_cases hc' : c = '_'
      · exact hc' ▸ hlow
      · exact h c ((mem_wordRuns_iff hc').2 ⟨hc, hword⟩)
    · intro h c hc
      by_cases hc' : c = '_'
      · exact hc' ▸ hlow
      · obtain ⟨hs, hword⟩ := (mem_wordRuns_iff hc').1 hc
        exact h c hs hword
  rw [← hruns]
  rcases identifier_cases fallback s with ⟨hnil, hname⟩ | ⟨front, back, hname, hlows, -⟩
  · rw [hname, hnil]
    exact iff_of_true hfallback (by simp)
  · rw [hname]
    constructor
    · exact fun h c hc => h c (by simp [hc])
    · intro h c hc
      rw [List.mem_append, List.mem_append] at hc
      rcases hc with (hc | hc) | hc
      · exact hlows c (by simp [hc]) ▸ hlow
      · exact h c hc
      · exact hlows c (by simp [hc]) ▸ hlow

/-- An identifier is never empty, never begins with a digit and is never reserved. It is usable if
and only if all word characters of its text are characters of identifiers. -/
theorem isUsable_identifier_iff
    (v : Value)
    {fallback : Text}
    (h : IsUsable fallback) :
    (identifier fallback v.display ≠ [] ∧
      (∀ c ∈ (identifier fallback v.display).head?, isDigit c = false) ∧
      isReserved (identifier fallback v.display) = false) ∧
    (IsUsable (identifier fallback v.display) ↔
      ∀ c ∈ v.display, isWord c = true → isIdentifierChar c = true ∧ isOtherNumber c = false) := by
  have hframe : identifier fallback v.display ≠ [] ∧
      (∀ c ∈ (identifier fallback v.display).head?, isDigit c = false) ∧
      isReserved (identifier fallback v.display) = false := by
    rcases identifier_cases fallback v.display with
      ⟨-, hname⟩ | ⟨front, back, hname, -, hne, hhead, hfree⟩
    · rw [hname]
      exact ⟨h.ne_nil, h.head, h.free⟩
    · exact ⟨by simp [hname, hne], hhead, hfree⟩
  have hchars := forall_mem_identifier_iff
    (p := fun c => isIdentifierChar c = true ∧ isOtherNumber c = false) (by decide)
    (fun c hc => ⟨h.allowed c hc, h.noOtherNumber c hc⟩) v.display
  refine ⟨hframe, fun husable => ?_, fun hall => ?_⟩
  · exact hchars.1 fun c hc => ⟨husable.allowed c hc, husable.noOtherNumber c hc⟩
  · obtain ⟨hne, hhead, hfree⟩ := hframe
    have hmem := hchars.2 hall
    exact ⟨hne, hhead, fun c hc => (hmem c hc).1, fun c hc => (hmem c hc).2, hfree⟩

/-- The fallback of texts from which nothing can be made. -/
theorem isUsable_value :
    IsUsable "value".toList := by
  decide

/-- A digit in front, a blank inside and marks at the ends: the text is made usable. -/
theorem isUsable_identifier_twoFactor :
    IsUsable "value".toList ∧
      identifier "value".toList (Value.str "*2fa code*").display = "_2fa_code".toList ∧
        IsUsable (identifier "value".toList (Value.str "*2fa code*").display) := by
  have hallowed : ((Value.str "*2fa code*").display.all fun c =>
      !isWord c || isIdentifierChar c && !isOtherNumber c) = true := by
    decide +kernel
  refine ⟨isUsable_value, by decide +kernel, ?_⟩
  refine (isUsable_identifier_iff (.str "*2fa code*") isUsable_value).2.2 fun c hc hword => ?_
  simpa [hword] using List.all_eq_true.1 hallowed c hc

/-- A raised digit stays in the identifier. -/
theorem not_forall_isUsable_identifier :
    ¬∀ (v : Value) (fallback : Text), IsUsable fallback →
      IsUsable (identifier fallback v.display) := by
  intro hall
  have hraised : identifier "value".toList (Value.str "a\u00b2").display = ['a', '\u00b2'] := by
    decide +kernel
  have husable := hall (.str "a\u00b2") _ isUsable_value
  rw [hraised] at husable
  exact absurd (husable.allowed '\u00b2' (by simp)) (by decide +kernel)

end Name

end BotCanvas
