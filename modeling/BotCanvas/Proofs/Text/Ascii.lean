import BotCanvas.Text.Basic

/-!
# Texts in ASCII

The characters of a string are decoded from its bytes. For a string in ASCII the bytes are the
characters, which is quicker to decide about: the program's own texts are read in this way.
-/

namespace BotCanvas

namespace Text

/-- The characters of a text in ASCII, taken byte by byte. -/
def asciiChars (s : String) : Text :=
  s.toByteArray.data.toList.map fun b => Char.ofNat b.toNat

/-- Tests for a text in ASCII. -/
def isAscii (s : String) : Bool :=
  s.toByteArray.data.toList.all fun b => b < 128

/-- A character all of whose bytes are in ASCII is its only byte. -/
theorem map_utf8EncodeChar
    {c : Char}
    (h : (String.utf8EncodeChar c).all (fun b => b < 128) = true) :
    (String.utf8EncodeChar c).map (fun b => Char.ofNat b.toNat) = [c] := by
  have hlong : ∀ n : Nat, 192 ≤ n → n < 256 → ¬ UInt8.ofNat n < 128 := by
    intro n hlow hhigh hlt
    rw [UInt8.lt_iff_toNat_lt, UInt8.toNat_ofNat'] at hlt
    simp at hlt
    omega
  by_cases hc : c.val.toNat ≤ 0x7f
  · have hbyte : (UInt8.ofNat c.val.toNat).toNat = c.val.toNat := by
      rw [UInt8.toNat_ofNat']
      omega
    rw [String.utf8EncodeChar, if_pos hc, List.map_singleton, hbyte]
    exact congrArg (fun d => [d]) (Char.ofNat_toNat c)
  · exfalso
    have hv := c.val.toNat_lt
    rw [String.utf8EncodeChar, if_neg hc] at h
    split at h
    · simp only [List.all_cons, Bool.and_eq_true, decide_eq_true_eq] at h
      exact hlong _ (by omega) (by omega) h.1
    · split at h
      · simp only [List.all_cons, Bool.and_eq_true, decide_eq_true_eq] at h
        exact hlong _ (by omega) (by omega) h.1
      · simp only [List.all_cons, Bool.and_eq_true, decide_eq_true_eq] at h
        exact hlong _ (by omega) (by omega) h.1

/-- For a text in ASCII the bytes are the characters. -/
theorem asciiChars_eq
    {s : String}
    (h : isAscii s = true) :
    asciiChars s = s.toList := by
  obtain ⟨l, rfl⟩ := s.exists_eq_ofList
  have hbytes : (String.ofList l).toByteArray.data.toList = l.flatMap String.utf8EncodeChar := by
    simp [List.utf8Encode]
  rw [String.toList_ofList]
  unfold asciiChars
  unfold isAscii at h
  rw [hbytes] at h ⊢
  clear hbytes
  induction l with
  | nil => rfl
  | cons c r ih =>
      simp only [List.flatMap_cons, List.all_append, Bool.and_eq_true] at h
      rw [List.flatMap_cons, List.map_append, map_utf8EncodeChar h.1, ih h.2]
      rfl

end Text

end BotCanvas
