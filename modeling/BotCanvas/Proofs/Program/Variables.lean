import BotCanvas.Proofs.Program.Names

/-!
# Variables

A variable is named by word characters. So it is the first word of a text that goes on with another
character. The identifiers that are made from free text and the names that a tally gives out are
variables, and no identifier is a reserved word.
-/

namespace BotCanvas

namespace Name

/-- No reserved word ends in a low line. -/
theorem getLast?_of_isReserved
    {s : Text}
    (h : isReserved s = true) :
    s.getLast? ≠ some '_' := by
  have hwords : ∀ w ∈ offsideKeywords ++ bracedKeywords ++ programNames,
      w.toList.getLast? ≠ some '_' := by
    decide
  have hmem : String.ofList s ∈ offsideKeywords ++ bracedKeywords ++ programNames := by
    simpa [isReserved, or_assoc] using h
  simpa using hwords _ hmem

/-- An identifier is no reserved word, if the name in its place is none. -/
theorem isReserved_identifier
    {fallback : Text}
    (h : isReserved fallback = false)
    (s : Text) :
    isReserved (identifier fallback s) = false := by
  unfold identifier
  generalize Text.stripBy (· == '_') (Text.collapse (fun c => !Text.isWord c) '_' (Text.strip s)) =
    spelled
  simp only
  split
  · exact h
  · generalize (if spelled.head?.any Text.isDigit then '_' :: spelled else spelled) = name
    split
    · refine Bool.eq_false_iff.2 fun hreserved => getLast?_of_isReserved hreserved ?_
      exact List.getLast?_concat
    · rename_i hname
      exact Bool.eq_false_iff.2 hname

end Name

namespace Text

/-- Word characters in front of another character are the first word. -/
theorem takeWhile_isWord_append
    {w : Text}
    (hw : ∀ c ∈ w, isWord c = true)
    {c : Char}
    (hc : isWord c = false)
    (r : Text) :
    (w ++ c :: r).takeWhile isWord = w := by
  rw [List.takeWhile_append_of_pos hw, List.takeWhile_cons_of_neg (by simp [hc]), List.append_nil]

/-- The other character and what is behind it follow the first word. -/
theorem dropWhile_isWord_append
    {w : Text}
    (hw : ∀ c ∈ w, isWord c = true)
    {c : Char}
    (hc : isWord c = false)
    (r : Text) :
    (w ++ c :: r).dropWhile isWord = c :: r := by
  rw [List.dropWhile_append_of_pos hw, List.dropWhile_cons_of_neg (by simp [hc])]

/-- A name of a variable: word characters. -/
def IsVariable (s : Text) : Prop :=
  s ≠ [] ∧ ∀ c ∈ s, isWord c = true

namespace IsVariable

variable {s : Text}

/-- A variable goes on in word characters. -/
theorem append
    (hs : IsVariable s)
    {t : Text}
    (ht : ∀ c ∈ t, isWord c = true) :
    IsVariable (s ++ t) :=
  ⟨by simp [hs.1], List.forall_mem_append.2 ⟨hs.2, ht⟩⟩

/-- A variable in letters, digits and low lines that the program itself spells. -/
theorem ofString
    {s : String}
    (h : (!s.toList.isEmpty && s.toList.all isPlain) = true) :
    IsVariable s.toList := by
  rw [Bool.and_eq_true, List.all_eq_true] at h
  exact ⟨by simpa using h.1, fun c hc => isWord_of_isPlain (h.2 c hc)⟩

/-- An identifier made from free text is a variable. -/
theorem identifier
    (fallback : String)
    (h : (!fallback.toList.isEmpty && fallback.toList.all isPlain) = true)
    (s : Text) :
    IsVariable (Name.identifier fallback.toList s) :=
  Name.forall_mem_identifier (fun _ hc => hc) (ofString h) s

/-- The name that a tally gives out is a variable if the base is. -/
theorem nextName
    (hs : IsVariable s)
    (tally : Tally) :
    IsVariable (tally.nextName s) := by
  unfold Tally.nextName
  simp only
  split
  · exact hs
  · exact hs.append fun c hc => isWord_of_isPlain (isPlain_natDigits _ c hc)

/-- A variable stands in one row. -/
theorem lineFeed_not_mem
    (hs : IsVariable s) :
    '\n' ∉ s := by
  intro h
  exact absurd (hs.2 _ h) (by decide)

/-- A variable is the first word of what follows it. -/
theorem takeWhile_append
    (hs : IsVariable s)
    {c : Char}
    (hc : isWord c = false)
    (r : Text) :
    (s ++ c :: r).takeWhile isWord = s :=
  takeWhile_isWord_append hs.2 hc r

/-- What follows a variable is what follows the first word. -/
theorem dropWhile_append
    (hs : IsVariable s)
    {c : Char}
    (hc : isWord c = false)
    (r : Text) :
    (s ++ c :: r).dropWhile isWord = c :: r :=
  dropWhile_isWord_append hs.2 hc r

end IsVariable

end Text

end BotCanvas
