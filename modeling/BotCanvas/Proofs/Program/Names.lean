import BotCanvas.Name.Identifier
import BotCanvas.Offside.Spelling
import BotCanvas.Program.Names
import BotCanvas.Proofs.Program.Emission
import BotCanvas.Proofs.Program.Forms

/-!
# Names hold no marks

Everything that a program writes as a name is made of letters, digits and low lines, or is a
number or a colour. So it fits wherever a name may stand: in code it opens and closes nothing, and
in a literal it does not end it.
-/

namespace BotCanvas

namespace Text

/-- The code points of the blank characters. -/
def blankCodes : List Nat :=
  List.range' 9 5 ++ List.range' 28 5 ++ [0x85, 0xa0, 0x1680] ++ List.range' 0x2000 11 ++
    [0x2028, 0x2029, 0x202f, 0x205f, 0x3000]

theorem mem_blankCodes
    {c : Char}
    (h : isBlank c = true) :
    c.toNat ∈ blankCodes := by
  simp only [isBlank, Bool.or_eq_true, Bool.and_eq_true, decide_eq_true_eq, beq_iff_eq] at h
  simp only [blankCodes, List.mem_append, List.mem_range'_1, List.mem_cons, List.not_mem_nil,
    or_false]
  omega

/-- No blank is a word character or a digit. -/
theorem not_isBlank_of_class
    {c : Char}
    (h : isWord c = true ∨ isDigit c = true) :
    isBlank c = false := by
  have hcodes : ∀ n ∈ blankCodes,
      inRanges Table.word n = false ∧ inRanges Table.digit n = false := by
    decide +kernel
  cases hblank : isBlank c with
  | false => rfl
  | true =>
      obtain ⟨hword, hdigit⟩ := hcodes _ (mem_blankCodes hblank)
      rcases h with h | h
      · exact absurd h (by simp [isWord, hword])
      · exact absurd h (by simp [isDigit, hdigit])

/-- ASCII letters, digits and the low line. -/
def isPlain (c : Char) : Bool :=
  isAsciiAlnum c || c == '_'

theorem lt_of_isPlain
    {c : Char}
    (h : isPlain c = true) :
    c.toNat < 128 := by
  simp only [isPlain, isAsciiAlnum, isAsciiLetter, isAsciiDigit, Bool.or_eq_true,
    Bool.and_eq_true, decide_eq_true_eq, beq_iff_eq, Char.le_def, UInt32.le_iff_toNat_le] at h
  have hlow : ('_' : Char).toNat = 95 := rfl
  change c.val.toNat < 128
  rcases h with ((⟨-, h⟩ | ⟨-, h⟩) | ⟨-, h⟩) | h
  · exact Nat.lt_of_le_of_lt h (by decide)
  · exact Nat.lt_of_le_of_lt h (by decide)
  · exact Nat.lt_of_le_of_lt h (by decide)
  · rw [h]
    decide

/-- What holds of the first 128 characters holds of a character below. -/
theorem of_ascii
    {p : Char → Bool}
    (h : (List.range 128).all (fun n => p (Char.ofNat n)) = true)
    {c : Char}
    (hc : c.toNat < 128) :
    p c = true := by
  have := List.all_eq_true.1 h c.toNat (List.mem_range.2 hc)
  rwa [Char.ofNat_toNat] at this

theorem isWord_of_isPlain
    {c : Char}
    (h : isPlain c = true) :
    isWord c = true := by
  have hclass := of_ascii (p := fun c => !isPlain c || isWord c) (by decide)
    (lt_of_isPlain h)
  simpa [h] using hclass

theorem isPlain_lowerChar
    {c : Char}
    (h : isPlain c = true) :
    isPlain (lowerChar c) = true := by
  have hclass := of_ascii (p := fun c => !isPlain c || isPlain (lowerChar c))
    (by decide) (lt_of_isPlain h)
  simpa [h] using hclass

theorem isPlain_natDigits
    (n : Nat) :
    ∀ c ∈ natDigits n, isPlain c = true := by
  intro c hc
  have hdigit := Nat.isDigit_of_mem_toDigits (by decide) (by decide) hc
  simp only [Char.isDigit, Bool.and_eq_true, decide_eq_true_eq] at hdigit
  simp only [isPlain, isAsciiAlnum, isAsciiDigit, Bool.or_eq_true, Bool.and_eq_true,
    decide_eq_true_eq, Char.le_def]
  exact .inl (.inr hdigit)

theorem isPlain_of_isHexDigit
    {c : Char}
    (h : isHexDigit c = true) :
    isPlain c = true := by
  have ha : ('a' : Char).val.toNat = 97 := rfl
  have hA : ('A' : Char).val.toNat = 65 := rfl
  have hf : ('f' : Char).val.toNat = 102 := rfl
  have hF : ('F' : Char).val.toNat = 70 := rfl
  have hz : ('z' : Char).val.toNat = 122 := rfl
  have hZ : ('Z' : Char).val.toNat = 90 := rfl
  simp only [isHexDigit, isPlain, isAsciiAlnum, isAsciiLetter, Bool.or_eq_true,
    Bool.and_eq_true, decide_eq_true_eq, Char.le_def, UInt32.le_iff_toNat_le] at h ⊢
  rcases h with (h | h) | h
  · exact .inl (.inr h)
  · exact .inl (.inl (.inl (by omega)))
  · exact .inl (.inl (.inr (by omega)))

/-- Lower-casing keeps letters, digits and low lines. -/
theorem isPlain_lower
    {s : Text}
    (h : ∀ c ∈ s, isPlain c = true) :
    ∀ c ∈ lower s, isPlain c = true := by
  unfold lower
  generalize ([] : Text) = before
  induction s generalizing before with
  | nil => simp [lowerAfter]
  | cons d r ih =>
      have hd := lt_of_isPlain (h d (by simp))
      rw [lowerAfter, if_neg (by omega), if_neg (by omega)]
      rintro c (_ | ⟨_, hc⟩)
      · exact isPlain_lowerChar (h d (by simp))
      · exact ih (fun e he => h e (by simp [he])) _ c hc

/-- Lower-casing leaves nothing out. -/
theorem lower_ne_nil
    {s : Text}
    (h : s ≠ []) :
    lower s ≠ [] := by
  cases s with
  | nil => exact absurd rfl h
  | cons c r =>
      unfold lower lowerAfter
      split
      · simp
      · split <;> simp

/-- A collapsed text holds the mark and characters outside the class. -/
theorem mem_collapse
    {p : Char → Bool}
    {mark c : Char}
    {s : Text}
    (h : c ∈ collapse p mark s) :
    c = mark ∨ p c = false := by
  fun_induction collapse p mark s with
  | case1 => simp at h
  | case2 d hd => exact Or.inl (by simpa using h)
  | case3 d hd e r he ih => exact ih h
  | case4 d hd e r he ih =>
      rcases List.mem_cons.1 h with rfl | h
      · exact Or.inl rfl
      · exact ih h
  | case5 d r hd ih =>
      rcases List.mem_cons.1 h with rfl | h
      · exact Or.inr (by simpa using hd)
      · exact ih h

/-- Its characters are the mark and those of the text. -/
theorem mem_of_mem_collapse
    {p : Char → Bool}
    {mark c : Char}
    {s : Text}
    (h : c ∈ collapse p mark s) :
    c = mark ∨ c ∈ s := by
  fun_induction collapse p mark s with
  | case1 => simp at h
  | case2 d hd => exact Or.inl (by simpa using h)
  | case3 d hd e r he ih => exact (ih h).imp_right (List.mem_cons_of_mem d)
  | case4 d hd e r he ih =>
      rcases List.mem_cons.1 h with rfl | h
      · exact Or.inl rfl
      · exact (ih h).imp_right (List.mem_cons_of_mem d)
  | case5 d r hd ih =>
      rcases List.mem_cons.1 h with rfl | h
      · exact Or.inr List.mem_cons_self
      · exact (ih h).imp_right (List.mem_cons_of_mem d)

/-- Trimming keeps what is in a text. -/
theorem mem_of_mem_stripBy
    {p : Char → Bool}
    {c : Char}
    {s : Text}
    (h : c ∈ stripBy p s) :
    c ∈ s := by
  have hback := (List.dropWhile_sublist p).subset (List.mem_reverse.1 h)
  exact (List.dropWhile_sublist p).subset (List.mem_reverse.1 hback)

end Text

namespace Name

open Text

/-- A slug holds its own characters only. -/
theorem isSlugChar_of_mem_slug
    {c : Char}
    {s : Text}
    (h : c ∈ slug s) :
    isSlugChar c = true := by
  rcases mem_of_mem_collapse (mem_of_mem_stripBy h) with rfl | hspelled
  · decide
  · obtain ⟨d, -, rfl⟩ := List.mem_map.1 hspelled
    split
    · assumption
    · decide

/-- An identifier holds word characters, if the name in its place does. -/
theorem forall_mem_identifier
    {p : Char → Bool}
    (hp : ∀ c, isWord c = true → p c = true)
    {fallback : Text}
    (h : fallback ≠ [] ∧ ∀ c ∈ fallback, p c = true)
    (s : Text) :
    identifier fallback s ≠ [] ∧ ∀ c ∈ identifier fallback s, p c = true := by
  have hlow : p '_' = true := hp '_' (by decide)
  have hspelled : ∀ c ∈ stripBy (· == '_') (collapse (fun c => !isWord c) '_' (strip s)),
      p c = true := by
    intro c hc
    rcases mem_collapse (mem_of_mem_stripBy hc) with rfl | hc
    · exact hlow
    · exact hp c (by simpa using hc)
  unfold identifier
  generalize stripBy (· == '_') (collapse (fun c => !isWord c) '_' (strip s)) = spelled
    at hspelled ⊢
  simp only
  split
  · exact h
  · rename_i hne
    have hname : (if spelled.head?.any isDigit then '_' :: spelled else spelled) ≠ [] ∧
        ∀ c ∈ (if spelled.head?.any isDigit then '_' :: spelled else spelled), p c = true := by
      split
      · exact ⟨by simp, by simpa [hlow] using hspelled⟩
      · exact ⟨by simpa using hne, hspelled⟩
    generalize (if spelled.head?.any isDigit then '_' :: spelled else spelled) = name at hname ⊢
    split
    · refine ⟨by simp, List.forall_mem_append.2 ⟨hname.2, by simp [hlow]⟩⟩
    · exact hname

end Name

namespace Lexis

open Text

variable {lx : Lexis}

/-- Word characters and digits stand in names. -/
theorem isNameChar_of_class
    {c : Char}
    (h : isWord c = true ∨ isDigit c = true) :
    lx.isNameChar c = true := by
  have hmarks : ('#' :: nameBreakers).all (fun d => !isWord d && !isDigit d) = true := by
    decide
  have hne : ∀ d ∈ '#' :: nameBreakers, c ≠ d := by
    rintro d hd rfl
    have hmark := List.all_eq_true.1 hmarks c hd
    rw [Bool.and_eq_true, Bool.not_eq_true', Bool.not_eq_true'] at hmark
    simp [hmark.1, hmark.2] at h
  have hbreakers : c ∉ nameBreakers := fun hc => hne c (by simp [hc]) rfl
  have hhash : (c == '#') = false := by
    simpa using hne '#' (by simp)
  simp [isNameChar, not_isBlank_of_class h, hbreakers, hhash]

theorem isNameChar_of_isPlain
    {c : Char}
    (h : isPlain c = true) :
    lx.isNameChar c = true :=
  isNameChar_of_class (.inl (isWord_of_isPlain h))

/-- The signs of numbers stand in names as well. -/
theorem isNameChar_of_sign
    {c : Char}
    (h : c = '-' ∨ c = '+' ∨ c = '.') :
    lx.isNameChar c = true := by
  rcases h with rfl | rfl | rfl <;> cases hhash : lx.hashRemarks <;>
    simp [isNameChar, hhash, nameBreakers, isBlank]

namespace IsName

/-- A name stays one with more characters of names behind it. -/
theorem append
    {s t : Text}
    (hs : lx.IsName s)
    (ht : ∀ c ∈ t, lx.isNameChar c = true) :
    lx.IsName (s ++ t) := by
  refine ⟨by simp [hs.1], ?_⟩
  intro c hc
  rcases List.mem_append.1 hc with hc | hc
  · exact hs.2 c hc
  · exact ht c hc

/-- A name in letters, digits and low lines. -/
theorem ofPlain
    {s : Text}
    (hne : s ≠ [])
    (h : ∀ c ∈ s, isPlain c = true) :
    lx.IsName s :=
  ⟨hne, fun c hc => isNameChar_of_isPlain (h c hc)⟩

/-- A name that the program itself spells. -/
theorem ofString
    {s : String}
    (h : (!s.toList.isEmpty && s.toList.all isPlain) = true) :
    lx.IsName s.toList := by
  rw [Bool.and_eq_true, List.all_eq_true] at h
  exact ofPlain (by simpa using h.1) h.2

/-- A choice between a text and a name in its place if it is empty. -/
theorem ofFallback
    {s fallback : Text}
    (hs : ∀ c ∈ s, lx.isNameChar c = true)
    (hfallback : lx.IsName fallback) :
    lx.IsName (if s.isEmpty then fallback else s) := by
  split
  · exact hfallback
  · rename_i h
    exact ⟨by simpa using h, hs⟩

theorem natDigits
    (n : Nat) :
    lx.IsName (BotCanvas.natDigits n) :=
  ofPlain Nat.toDigits_ne_nil (isPlain_natDigits n)

/-- A row of digits. -/
theorem ofNumeral
    {s : Text}
    (h : isNumeral s = true) :
    lx.IsName s := by
  simp only [isNumeral, Bool.and_eq_true, List.all_eq_true] at h
  exact ⟨by simpa using h.1, fun c hc => isNameChar_of_class (.inr (h.2 c hc))⟩

/-- The name that a tally gives out. -/
theorem nextName
    {base : Text}
    (h : lx.IsName base)
    (tally : Tally) :
    lx.IsName (tally.nextName base) := by
  unfold Tally.nextName
  simp only
  split
  · exact h
  · exact h.append (natDigits _).2

/-- An identifier made from free text. -/
theorem identifier
    {fallback : Text}
    (h : lx.IsName fallback)
    (s : Text) :
    lx.IsName (Name.identifier fallback s) :=
  Name.forall_mem_identifier (fun _ hc => isNameChar_of_class (.inl hc)) h s

end IsName

/-- The words of a text in small letters hold letters, digits and low lines. -/
theorem isPlain_snake
    (s : Text) :
    ∀ c ∈ Name.snake s, isPlain c = true := by
  unfold Name.snake
  refine isPlain_lower fun c hc => ?_
  rcases mem_collapse (mem_of_mem_stripBy hc) with rfl | hc
  · decide
  · have halnum : isAsciiAlnum c = true := by simpa using hc
    simp [isPlain, halnum]

/-- A name made of the words of a text, or another if there are none. -/
theorem IsName.snakeOr
    {fallback : Text}
    (h : lx.IsName fallback)
    (s : Text) :
    lx.IsName (if (Name.snake s).isEmpty then fallback else Name.snake s) :=
  IsName.ofFallback (fun c hc => isNameChar_of_isPlain (isPlain_snake s c hc)) h

/-- What a filter for letters, digits and low lines keeps, or another name if it keeps nothing. -/
theorem IsName.filterOr
    {p : Char → Bool}
    (hp : ∀ c, p c = true → isPlain c = true)
    {fallback : Text}
    (h : lx.IsName fallback)
    (s : Text) :
    lx.IsName (if (s.filter p).isEmpty then fallback else s.filter p) :=
  IsName.ofFallback
    (fun c hc => isNameChar_of_isPlain (hp c (List.mem_filter.1 hc).2)) h

/-! ## Numbers and colours -/

/-- The text of an integer is a name. -/
theorem IsName.intText
    (n : Int) :
    lx.IsName (Value.intText n) := by
  unfold Value.intText
  split
  · have h := (IsName.natDigits n.natAbs : lx.IsName _).2
    exact ⟨by simp, by simpa [isNameChar_of_sign] using h⟩
  · exact IsName.natDigits _

/-- Digits with what may stand between them in a number. -/
def isNumberChar (c : Char) : Bool :=
  isPlain c || c == '-' || c == '+' || c == '.'

theorem isNameChar_of_isNumberChar
    {c : Char}
    (h : isNumberChar c = true) :
    lx.isNameChar c = true := by
  simp only [isNumberChar, Bool.or_eq_true, beq_iff_eq] at h
  rcases h with ((h | h) | h) | h
  · exact isNameChar_of_isPlain h
  · exact isNameChar_of_sign (.inl h)
  · exact isNameChar_of_sign (.inr (.inl h))
  · exact isNameChar_of_sign (.inr (.inr h))

theorem isNumberChar_natDigits
    (n : Nat) :
    ∀ c ∈ natDigits n, isNumberChar c = true := by
  intro c hc
  simp [isNumberChar, isPlain_natDigits n c hc]

theorem isNumberChar_positional
    {digits : Text}
    (h : ∀ c ∈ digits, isNumberChar c = true)
    (point : Int) :
    ∀ c ∈ Binary64.positional digits point, isNumberChar c = true := by
  have hzeros : ∀ n, ∀ c ∈ Binary64.zeros n, isNumberChar c = true := by
    intro n c hc
    rw [List.eq_of_mem_replicate hc]
    decide
  intro c hc
  unfold Binary64.positional at hc
  split at hc
  · simp only [List.mem_cons, List.mem_append] at hc
    rcases hc with rfl | rfl | hc | hc
    · decide
    · decide
    · exact hzeros _ c hc
    · exact h c hc
  · simp only at hc
    split at hc
    · simp only [List.mem_cons, List.mem_append, List.not_mem_nil, or_false] at hc
      rcases hc with (hc | hc) | rfl | rfl
      · exact h c hc
      · exact hzeros _ c hc
      · decide
      · decide
    · simp only [List.mem_cons, List.mem_append] at hc
      rcases hc with hc | rfl | hc
      · exact h c (List.mem_of_mem_take hc)
      · decide
      · exact h c (List.mem_of_mem_drop hc)

theorem positional_ne_nil
    (digits : Text)
    (point : Int) :
    Binary64.positional digits point ≠ [] := by
  unfold Binary64.positional
  split
  · simp
  · simp only
    split <;> simp

theorem scientific_ne_nil
    (digits : Text)
    (exponent : Int) :
    Binary64.scientific digits exponent ≠ [] := by
  simp [Binary64.scientific]

theorem isNumberChar_scientific
    {digits : Text}
    (h : ∀ c ∈ digits, isNumberChar c = true)
    (exponent : Int) :
    ∀ c ∈ Binary64.scientific digits exponent, isNumberChar c = true := by
  intro c hc
  unfold Binary64.scientific at hc
  simp only [List.mem_append, List.mem_cons] at hc
  rcases hc with hc | rfl | rfl | hc
  · split at hc
    · cases hc
    · exact h c hc
    · simp only [List.mem_cons] at hc
      rcases hc with rfl | rfl | hc
      · exact h _ (by simp)
      · decide
      · exact h c (by simp [hc])
  · decide
  · split <;> decide
  · split at hc
    · rcases List.mem_cons.1 hc with rfl | hc
      · decide
      · exact isNumberChar_natDigits _ c hc
    · exact isNumberChar_natDigits _ c hc

/-- The text of a binary64 number is a name. -/
theorem IsName.binary64
    (x : Binary64) :
    lx.IsName x.text := by
  have hunits : ∀ units, lx.IsName (Binary64.unitsText units) := by
    intro units
    refine ⟨?_, fun c hc => isNameChar_of_isNumberChar ?_⟩
    · unfold Binary64.unitsText
      split
      · simp
      · simp only
        split
        · exact positional_ne_nil _ _
        · exact scientific_ne_nil _ _
    · unfold Binary64.unitsText at hc
      have hdigits : ∀ n, ∀ c ∈ ((BotCanvas.natDigits n).reverse.dropWhile (· == '0')).reverse,
          isNumberChar c = true := by
        intro n c hc
        have hmem := (List.dropWhile_sublist _).subset (List.mem_reverse.1 hc)
        exact isNumberChar_natDigits n c (List.mem_reverse.1 hmem)
      split at hc
      · simp only [List.mem_cons, List.not_mem_nil, or_false] at hc
        rcases hc with rfl | rfl | rfl <;> decide
      · simp only at hc
        split at hc
        · exact isNumberChar_positional (hdigits _) _ c hc
        · exact isNumberChar_scientific (hdigits _) _ c hc
  have hword : ∀ s : Text, s ≠ [] → (∀ c ∈ s, isNumberChar c = true) → lx.IsName s :=
    fun s hne h => ⟨hne, fun c hc => isNameChar_of_isNumberChar (h c hc)⟩
  cases x with
  | nan => exact hword _ (by simp [Binary64.text]) (List.all_eq_true.1 (by decide))
  | infinite negative =>
      cases negative
      · exact hword _ (by simp [Binary64.text]) (List.all_eq_true.1 (by decide))
      · exact hword _ (by simp [Binary64.text]) (List.all_eq_true.1 (by decide))
  | finite negative units =>
      obtain ⟨hne, h⟩ := hunits units
      cases negative
      · exact ⟨hne, h⟩
      · exact ⟨by simp [Binary64.text], by
          simpa [Binary64.text, isNameChar_of_sign] using h⟩

/-- The text of a number is a name. -/
theorem IsName.number
    (n : Number) :
    lx.IsName n.text := by
  cases n with
  | int n => exact IsName.intText n
  | float x => exact IsName.binary64 x

/-- A colour is a hash and letters and digits. -/
theorem exists_asColour
    (v : Value) :
    ∃ digits, v.asColour = '#' :: digits ∧ digits ≠ [] ∧ ∀ c ∈ digits, isPlain c = true := by
  unfold Value.asColour
  simp only
  split
  · rename_i h
    refine ⟨_, rfl, lower_ne_nil ?_, isPlain_lower fun c hc => ?_⟩
    · intro hnil
      simp [hnil] at h
    · exact isPlain_of_isHexDigit (List.all_eq_true.1 h.2 c hc)
  · exact ⟨"3b82f6".toList, rfl, by decide, List.all_eq_true.1 (by decide)⟩

end Lexis

namespace Emit

/-- A local name made from letters, digits and low lines is a name. -/
theorem alike_fresh
    (lx : Lexis)
    (base : String)
    (h : (!base.toList.isEmpty && base.toList.all Text.isPlain) = true) :
    Alike (fun a b => a = b ∧ lx.IsName a) (fresh base) (fresh base) :=
  fun σ => ⟨rfl, rfl, (Lexis.IsName.ofString h).nextName σ.locals⟩

end Emit

end BotCanvas
