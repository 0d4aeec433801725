import BotCanvas.Offside.Spelling
import BotCanvas.Proofs.Program.Tally
import BotCanvas.Proofs.Text.Snake

/-!
# What is written outside of literals

Two kinds of text from properties stand in a program as they are: identifiers of the library in
digits, and names of permissions. What is written there has to be a token of the language.

**Identifiers.** A text of digits is written as it is, and everything else in a call that converts
it. But digits of other scripts and raised digits count as digits here, and zeros in front stay, so
that what is written need be no number of the language. That happens to texts only.

**Permissions.** The name of a permission is made of small letters, digits and low lines. It is no
name of the language if it begins with a digit, which it does just if the first letter or digit of
its text is one, or if it is a keyword (`splices_iff`).
-/

namespace BotCanvas.Offside

open Text

/-- A whole number as a literal: digits, the first of which is no zero unless all are. -/
def IsDecimalLiteral (t : Text) : Prop :=
  t ≠ [] ∧ (∀ c ∈ t, isAsciiDigit c = true) ∧ (t.head? = some '0' → ∀ c ∈ t, c = '0')

/-- A call that converts an escaped text to a number. -/
def IsConversion (t : Text) : Prop :=
  ∃ s, t = "int(\"".toList ++ escape s ++ "\")".toList

/-- A name that may stand behind a dot: letters, digits and low lines, with no digit in front, and
no keyword. -/
def IsAttributeName (t : Text) : Prop :=
  t ≠ [] ∧ (∀ c ∈ t, isPlain c = true) ∧ (∀ c ∈ t.head?, isAsciiDigit c = false) ∧
    String.ofList t ∉ Name.offsideKeywords

/-- What is written for an identifier of the library. -/
def identifierText (v : Value) : Text :=
  (snowflake v).flatMap (Piece.write spelling)

/-! ## Identifiers -/

theorem identifierText_eq
    (v : Value) :
    identifierText v =
      if isNumeral (strip v.display) then strip v.display
      else "int(\"".toList ++ escape (strip v.display) ++ "\")".toList := by
  unfold identifierText snowflake
  simp only
  split
  · exact List.append_nil _
  · simp [Piece.write, spelling]

/-- A text with a mark in it is no row of digits. -/
theorem isNumeral_strip_of_mem
    {t : Text}
    {c : Char}
    (hc : c ∈ t)
    (hmark : isBlank c = false ∧ isDigit c = false) :
    isNumeral (strip t) = false := by
  have hkept : c ∈ (strip t).filter fun c => !isBlank c := by
    rw [strip, filter_stripBy fun c hblank => by simp [hblank]]
    exact List.mem_filter.2 ⟨hc, by simp [hmark.1]⟩
  rw [isNumeral, Bool.and_eq_false_iff, List.all_eq_false]
  exact .inr ⟨c, (List.mem_filter.1 hkept).1, by simp [hmark.2]⟩

/-- A numeral begins with a zero only if it is that of zero. -/
theorem eq_zero_of_head?_natDigits
    {n : Nat}
    (h : (natDigits n).head? = some '0') :
    n = 0 := by
  induction n using Nat.strongRecOn with
  | ind n ih =>
      unfold natDigits at h ih
      rw [Nat.toDigits_eq_if (by decide)] at h
      split at h
      · simpa [Nat.digitChar_eq_zero] using h
      · rename_i hlarge
        have hhead : (Nat.toDigits 10 (n / 10)).head? = some '0' := by
          rwa [List.head?_append_of_ne_nil _ Nat.toDigits_ne_nil] at h
        have hzero := ih (n / 10) (by omega) hhead
        omega

/-- A numeral is a literal. -/
theorem isDecimalLiteral_natDigits
    (n : Nat) :
    IsDecimalLiteral (natDigits n) := by
  refine ⟨Nat.toDigits_ne_nil, fun c hc => isAsciiDigit_of_mem_natDigits hc, fun hhead => ?_⟩
  have hzero : natDigits 0 = ['0'] := rfl
  rw [eq_zero_of_head?_natDigits hhead, hzero]
  simp

/-- Numerals have no blanks to trim. -/
theorem strip_natDigits
    (n : Nat) :
    strip (natDigits n) = natDigits n := by
  have hplain : ∀ c ∈ natDigits n, isBlank c = false := fun c hc =>
    not_isBlank_of_class (.inl (isWord_of_isPlain (isPlain_natDigits n c hc)))
  exact strip_of_ends (fun c hc => hplain c (List.mem_of_head? hc))
    fun c hc => hplain c (List.mem_of_getLast? hc)

/-- The text of a number that is not whole has a mark in it. -/
theorem exists_mark_of_binary64
    (x : Binary64) :
    ∃ c ∈ x.text, isBlank c = false ∧ isDigit c = false := by
  have hunits : ∀ units, '.' ∈ Binary64.unitsText units ∨ 'e' ∈ Binary64.unitsText units := by
    intro units
    unfold Binary64.unitsText
    split
    · exact .inl (by simp)
    · simp only
      split
      · refine .inl ?_
        unfold Binary64.positional
        split
        · simp
        · simp only
          split <;> simp
      · exact .inr (by simp [Binary64.scientific])
  cases x with
  | nan => exact ⟨'n', by simp [Binary64.text], by decide⟩
  | infinite negative => exact ⟨'n', by simp [Binary64.text], by decide⟩
  | finite negative units =>
      rcases hunits units with h | h
      · exact ⟨'.', List.mem_append_right _ h, by decide⟩
      · exact ⟨'e', List.mem_append_right _ h, by decide⟩

/-- A value that is no text is shown by digits alone only if these are a literal. -/
theorem isDecimalLiteral_of_isNumeral
    {v : Value}
    (hv : ∀ s, v ≠ .str s)
    (h : isNumeral (strip v.display) = true) :
    IsDecimalLiteral (strip v.display) := by
  have hmark : ∀ c ∈ v.display, ¬(isBlank c = false ∧ isDigit c = false) := by
    intro c hc hclass
    rw [isNumeral_strip_of_mem hc hclass] at h
    cases h
  cases v with
  | null => exact absurd h (by decide)
  | bool b => cases b <;> exact absurd h (by decide)
  | int n =>
      have hsign : ¬n < 0 := fun hneg =>
        hmark '-' (by simp [Value.display, Value.shown, Value.intText, hneg]) (by decide)
      have hdisplay : (Value.int n).display = natDigits n.natAbs := by
        simp [Value.display, Value.shown, Value.intText, hsign]
      rw [hdisplay, strip_natDigits]
      exact isDecimalLiteral_natDigits _
  | float x =>
      obtain ⟨c, hc, hclass⟩ := exists_mark_of_binary64 x
      exact absurd hclass (hmark c hc)
  | str s => exact absurd rfl (hv s)
  | arr items =>
      exact absurd (by decide) (hmark '[' (by simp [Value.display, Value.shown]))
  | obj fields =>
      exact absurd (by decide) (hmark '\x7b' (by simp [Value.display, Value.shown]))

/-- What is written for an identifier is a literal or a conversion, unless it is a text of digits
that are no literal. -/
theorem isSplice_identifierText_iff
    (v : Value) :
    (IsDecimalLiteral (identifierText v) ∨ IsConversion (identifierText v)) ↔
      ∀ s, v = .str s → isNumeral (strip s.toList) = true → IsDecimalLiteral (strip s.toList) := by
  rw [identifierText_eq]
  constructor
  · rintro h s rfl hnumeral
    rw [Value.display, if_pos hnumeral] at h
    rcases h with h | ⟨t, ht⟩
    · exact h
    · -- a call does not begin with a digit
      rw [ht, isNumeral, Bool.and_eq_true, List.all_eq_true] at hnumeral
      exact absurd (hnumeral.2 'i' (by simp)) (by decide)
  · intro h
    split
    · rename_i hnumeral
      by_cases hv : ∃ s, v = .str s
      · obtain ⟨s, rfl⟩ := hv
        exact .inl (h s rfl hnumeral)
      · exact .inl (isDecimalLiteral_of_isNumeral (by simpa using hv) hnumeral)
    · exact .inr ⟨_, rfl⟩

/-! ## Permissions -/

/-- Small letters of letters and digits are digits just of digits. -/
theorem isAsciiDigit_lowerChar
    {c : Char}
    (h : isAsciiAlnum c = true) :
    isAsciiDigit (lowerChar c) = isAsciiDigit c := by
  have hplain : isPlain c = true := by simp [isPlain, h]
  have hclass := of_ascii (p := fun c => isAsciiDigit (lowerChar c) == isAsciiDigit c) (by decide)
    (lt_of_isPlain hplain)
  exact beq_iff_eq.1 hclass

/-- The name of a permission may stand behind a dot, unless a digit begins it or it is a keyword. -/
theorem isAttributeName_permissionName_iff
    (v : Value) :
    IsAttributeName (permissionName v) ↔
      (∀ c ∈ v.displayPresent.find? isAsciiAlnum, isAsciiDigit c = false) ∧
        String.ofList (Name.snake v.displayPresent) ∉ Name.offsideKeywords := by
  have hempty : String.ofList [] ∉ Name.offsideKeywords := by decide
  have hhead := Name.head?_snake v.displayPresent
  unfold permissionName attributeName IsAttributeName
  simp only
  split
  · rename_i hnil
    rw [List.isEmpty_iff] at hnil
    rw [hnil, List.head?_nil, eq_comm, Option.map_eq_none_iff] at hhead
    rw [hnil, hhead]
    refine iff_of_true ⟨by decide, List.all_eq_true.1 (by decide), ?_, by decide⟩
      ⟨by simp, hempty⟩
    rintro c ⟨⟩
    decide
  · rename_i hne
    have hplain := Lexis.isPlain_snake v.displayPresent
    have hdigit : (∀ c ∈ (Name.snake v.displayPresent).head?, isAsciiDigit c = false) ↔
        ∀ c ∈ v.displayPresent.find? isAsciiAlnum, isAsciiDigit c = false := by
      rw [hhead]
      cases hfind : v.displayPresent.find? isAsciiAlnum with
      | none => simp
      | some c => simp [isAsciiDigit_lowerChar (List.find?_some hfind)]
    rw [hdigit]
    exact ⟨fun h => h.2.2, fun h => ⟨by simpa using hne, hplain, h⟩⟩

/-- What is written outside of literals is a token for every value but the texts of digits that are
no literal, and the permissions that begin with a digit or are keywords. -/
theorem splices_iff
    (v : Value) :
    ((IsDecimalLiteral (identifierText v) ∨ IsConversion (identifierText v)) ↔
      ∀ s, v = .str s → isNumeral (strip s.toList) = true → IsDecimalLiteral (strip s.toList)) ∧
    (IsAttributeName (permissionName v) ↔
      (∀ c ∈ v.displayPresent.find? isAsciiAlnum, isAsciiDigit c = false) ∧
        String.ofList (Name.snake v.displayPresent) ∉ Name.offsideKeywords) :=
  ⟨isSplice_identifierText_iff v, isAttributeName_permissionName_iff v⟩

/-- A raised digit is written as it is, and so is a keyword. -/
theorem not_forall_splices :
    (¬∀ v, IsDecimalLiteral (identifierText v) ∨ IsConversion (identifierText v)) ∧
      ¬∀ v, IsAttributeName (permissionName v) := by
  have hraised : identifierText (.str "\u00b2") = ['\u00b2'] := by
    rw [identifierText_eq, if_pos (by decide +kernel)]
    decide +kernel
  have hkeyword : permissionName (.str "class") = "class".toList := by decide +kernel
  constructor
  · intro hall
    have hsplice := hall (.str "\u00b2")
    rw [hraised] at hsplice
    rcases hsplice with ⟨-, hdigits, -⟩ | ⟨t, ht⟩
    · exact absurd (hdigits '\u00b2' (by simp)) (by decide)
    · exact absurd (congrArg List.head? ht) (by simp)
  · intro hall
    have hname := hall (.str "class")
    rw [hkeyword] at hname
    exact hname.2.2.2 (by decide)

end BotCanvas.Offside
