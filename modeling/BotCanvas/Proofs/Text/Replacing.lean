import BotCanvas.Text.Replace
import BotCanvas.Text.Trim

/-!
# Replacing part by part

A replacement does not look across a character that the old text does not have
(`replaceAll_append_cons`), and that of a word does not look across one that is no word character
(`replaceWord_append_cons`). So a text is replaced part by part between such characters, and a part
without the old text stays as it is.

Narrowing goes through what is not blank, and of several spaces it keeps one.
-/

namespace BotCanvas.Text

variable {old new : Text}

/-! ## Occurrences -/

/-- What starts a text starts it in front of a character that it does not have. -/
theorem isPrefixOf_append_cons
    {c : Char}
    (hc : c ∉ old)
    (a b : Text) :
    old.isPrefixOf (a ++ c :: b) = old.isPrefixOf a := by
  induction old generalizing a with
  | nil => simp
  | cons d old ih =>
      rw [List.mem_cons, not_or] at hc
      cases a with
      | nil => simp [List.isPrefixOf, Ne.symm hc.1]
      | cons e a => simp [List.isPrefixOf, ih hc.2]

/-- No text starts with a character that it does not have. -/
theorem isPrefixOf_cons_of_not_mem
    {c : Char}
    (hold : old ≠ [])
    (hc : c ∉ old)
    (b : Text) :
    old.isPrefixOf (c :: b) = false := by
  rw [← List.nil_append (c :: b), isPrefixOf_append_cons hc]
  cases old with
  | nil => exact absurd rfl hold
  | cons d old => rfl

/-- Passing over characters is dropping them. -/
theorem replaceAfter_eq
    (passing : Nat)
    (s : Text) :
    replaceAfter old new passing s = replaceAll old new (s.drop passing) := by
  induction passing generalizing s with
  | zero => rfl
  | succ passing ih =>
      cases s with
      | nil => rfl
      | cons c r => exact ih r

/-- An occurrence is replaced and passed over. -/
theorem replaceAll_found
    {c : Char}
    {r : Text}
    (h : old.isPrefixOf (c :: r) = true) :
    replaceAll old new (c :: r) = new ++ replaceAll old new (r.drop (old.length - 1)) := by
  rw [replaceAll, replaceAfter, if_pos h, replaceAfter_eq]

/-- What starts no occurrence stays. -/
theorem replaceAll_missed
    {c : Char}
    {r : Text}
    (h : old.isPrefixOf (c :: r) = false) :
    replaceAll old new (c :: r) = c :: replaceAll old new r := by
  rw [replaceAll, replaceAfter, if_neg (by simp [h])]
  rfl

/-- A single character is replaced wherever it stands. -/
theorem replaceAll_singleton
    (c : Char)
    (new s : Text) :
    replaceAll [c] new s = replaceChar c new s := by
  induction s with
  | nil => rfl
  | cons d r ih =>
      have hcons : replaceChar c new (d :: r) =
          (if d = c then new else [d]) ++ replaceChar c new r :=
        List.flatMap_cons
      by_cases hd : d = c
      · rw [replaceAll_found (by simp [List.isPrefixOf, hd]), hcons, if_pos hd, ← ih]
        rfl
      · rw [replaceAll_missed (by simp [List.isPrefixOf, Ne.symm hd]), hcons, if_neg hd,
          ← ih]
        rfl

/-- A text that misses a character of the old one stays as it is. -/
theorem replaceAll_of_not_mem
    {c : Char}
    (hc : c ∈ old)
    {s : Text}
    (hs : c ∉ s) :
    replaceAll old new s = s := by
  induction s with
  | nil => rfl
  | cons d r ih =>
      have hstart : old.isPrefixOf (d :: r) = false := by
        rw [Bool.eq_false_iff]
        exact fun h => hs ((List.isPrefixOf_iff_prefix.1 h).subset hc)
      rw [replaceAll_missed hstart, ih fun h => hs (List.mem_cons_of_mem d h)]

/-- No occurrence reaches across a character that the old text does not have. -/
theorem replaceAll_append_cons
    {c : Char}
    (hold : old ≠ [])
    (hc : c ∉ old)
    (a b : Text) :
    replaceAll old new (a ++ c :: b) = replaceAll old new a ++ c :: replaceAll old new b := by
  -- the statement is carried from every place in front of the character
  have hpass : ∀ passing ≤ a.length, replaceAfter old new passing (a ++ c :: b) =
      replaceAfter old new passing a ++ c :: replaceAll old new b := by
    induction a with
    | nil =>
        intro passing hpassing
        obtain rfl := Nat.le_zero.1 hpassing
        rw [List.nil_append, replaceAfter_eq, List.drop_zero,
          replaceAll_missed (isPrefixOf_cons_of_not_mem hold hc b)]
        rfl
    | cons d r ih =>
        intro passing hpassing
        cases passing with
        | succ passing => exact ih passing (Nat.le_of_succ_le_succ hpassing)
        | zero =>
            have hstart := isPrefixOf_append_cons hc (d :: r) b
            rw [List.cons_append] at hstart ⊢
            rw [replaceAfter, replaceAfter, hstart]
            split
            · rename_i hfound
              have hlength := (List.isPrefixOf_iff_prefix.1 hfound).length_le
              rw [List.length_cons] at hlength
              rw [ih _ (by omega), List.append_assoc]
            · rw [ih 0 (Nat.zero_le _), List.cons_append]
  exact hpass 0 (Nat.zero_le _)

/-! ## Replacing in turn -/

/-- Replaces the texts of a table one after another, each wherever it occurs by then. -/
def replaceInTurn (table : List (String × String)) (s : Text) : Text :=
  table.foldl (fun t p => replaceAll p.1.toList p.2.toList t) s

/-- A longer table goes on where a shorter one ends. -/
theorem replaceInTurn_append
    (table table' : List (String × String))
    (s : Text) :
    replaceInTurn (table ++ table') s = replaceInTurn table' (replaceInTurn table s) :=
  List.foldl_append

/-- A text that misses a character of every text in the table stays as it is. -/
theorem replaceInTurn_of_not_mem
    {table : List (String × String)}
    {s : Text}
    (h : ∀ p ∈ table, ∃ c ∈ p.1.toList, c ∉ s) :
    replaceInTurn table s = s := by
  induction table with
  | nil => rfl
  | cons p table ih =>
      rw [List.forall_mem_cons] at h
      obtain ⟨⟨c, hc, hs⟩, hrest⟩ := h
      have hcons : replaceInTurn (p :: table) s =
          replaceInTurn table (replaceAll p.1.toList p.2.toList s) :=
        rfl
      rw [hcons, replaceAll_of_not_mem hc hs, ih hrest]

/-- A table of single characters replaces a text character by character. -/
theorem replaceInTurn_eq_flatMap
    {table : List (String × String)}
    (h : ∀ p ∈ table, p.1.toList.length = 1)
    (s : Text) :
    replaceInTurn table s = s.flatMap fun c => replaceInTurn table [c] := by
  induction table generalizing s with
  | nil => exact (List.flatMap_singleton' s).symm
  | cons p table ih =>
      rw [List.forall_mem_cons] at h
      obtain ⟨hlength, hrest⟩ := h
      obtain ⟨c, hc⟩ := List.length_eq_one_iff.1 hlength
      have hcons : ∀ t, replaceInTurn (p :: table) t =
          replaceInTurn table (replaceChar c p.2.toList t) := by
        intro t
        rw [← replaceAll_singleton, ← hc]
        rfl
      have hsingle : ∀ d, replaceChar c p.2.toList [d] =
          if d = c then p.2.toList else [d] := by
        simp [replaceChar]
      simp only [hcons, hsingle]
      rw [ih hrest, replaceChar, List.flatMap_assoc]
      exact congrArg s.flatMap (funext fun d => (ih hrest _).symm)

/-! ## Words -/

/-- Of the character in front of a text only its class matters. -/
theorem replaceWordAfter_congr
    {previous previous' : Option Char}
    (h : previous.any isWord = previous'.any isWord)
    (passing : Nat)
    (s : Text) :
    replaceWordAfter old new passing previous s = replaceWordAfter old new passing previous' s := by
  cases s with
  | nil => cases passing <;> rfl
  | cons c r =>
      cases passing with
      | zero => rw [replaceWordAfter, replaceWordAfter, h]
      | succ passing => rfl

/-- Passing over a whole text leaves nothing. -/
theorem replaceWordAfter_of_length_le
    {passing : Nat}
    {s : Text}
    (h : s.length ≤ passing)
    (previous : Option Char) :
    replaceWordAfter old new passing previous s = [] := by
  induction s generalizing passing previous with
  | nil => cases passing <;> rfl
  | cons c r ih =>
      cases passing with
      | zero => simp at h
      | succ passing => exact ih (Nat.le_of_succ_le_succ h) (some c)

/-- No word is found inside of another. -/
theorem replaceWordAfter_of_inside
    {s : Text}
    (hs : ∀ c ∈ s, isWord c = true)
    {c : Char}
    (hc : isWord c = true) :
    replaceWordAfter old new 0 (some c) s = s := by
  induction s generalizing c with
  | nil => rfl
  | cons d r ih =>
      rw [List.forall_mem_cons] at hs
      rw [replaceWordAfter, ih hs.2 hs.1]
      simp [hc]

/-- Of a text of word characters, the word is replaced and any other stays. -/
theorem replaceWord_of_isWord
    (hold : old ≠ [])
    {s : Text}
    (hs : ∀ c ∈ s, isWord c = true) :
    replaceWord old new s = if s = old then new else s := by
  cases s with
  | nil => rw [if_neg hold.symm, replaceWord, replaceWordAfter]
  | cons c r =>
      have hr := (List.forall_mem_cons.1 hs).2
      rw [replaceWord, replaceWordAfter]
      by_cases heq : c :: r = old
      · have hend : replaceWordAfter old new (old.length - 1) (some c) r = [] :=
          replaceWordAfter_of_length_le (by simp [← heq]) _
        rw [if_pos heq, if_pos, hend, List.append_nil]
        simp [← heq, List.isPrefixOf_iff_prefix]
      · rw [if_neg heq, if_neg, replaceWordAfter_of_inside hr (hs c List.mem_cons_self)]
        -- behind the word there is a word character or the text ends, and then it is the word
        intro h
        simp only [Bool.and_eq_true, Option.any_none, Bool.not_false, true_and,
          Bool.not_eq_true'] at h
        obtain ⟨hstart, hend⟩ := h
        obtain ⟨rest, hrest⟩ := List.isPrefixOf_iff_prefix.1 hstart
        rw [← hrest, List.drop_left] at hend
        cases rest with
        | nil => exact heq (by rw [← hrest, List.append_nil])
        | cons d rest =>
            have hd := hs d (by rw [← hrest]; simp)
            simp [hd] at hend

/-- No word reaches across a character that is no word character. -/
theorem replaceWord_append_cons
    {c : Char}
    (hold : old ≠ [])
    (hword : ∀ d ∈ old, isWord d = true)
    (hc : isWord c = false)
    (a b : Text) :
    replaceWord old new (a ++ c :: b) = replaceWord old new a ++ c :: replaceWord old new b := by
  have hmem : c ∉ old := by
    intro h
    rw [hword c h] at hc
    cases hc
  have hpass : ∀ passing ≤ a.length, ∀ previous,
      replaceWordAfter old new passing previous (a ++ c :: b) =
        replaceWordAfter old new passing previous a ++ c :: replaceWord old new b := by
    induction a with
    | nil =>
        intro passing hpassing previous
        obtain rfl := Nat.le_zero.1 hpassing
        have hfresh : replaceWordAfter old new 0 (some c) b = replaceWord old new b :=
          replaceWordAfter_congr (by simp [hc]) 0 b
        rw [List.nil_append, replaceWordAfter, replaceWordAfter,
          isPrefixOf_cons_of_not_mem hold hmem, hfresh]
        simp
    | cons d r ih =>
        intro passing hpassing previous
        cases passing with
        | succ passing => exact ih passing (Nat.le_of_succ_le_succ hpassing) (some d)
        | zero =>
            have hstart := isPrefixOf_append_cons hmem (d :: r) b
            rw [List.cons_append] at hstart ⊢
            rw [replaceWordAfter, replaceWordAfter, hstart]
            cases hfound : old.isPrefixOf (d :: r) with
            | false =>
                simp only [Bool.and_false, Bool.false_and, Bool.false_eq_true, if_false]
                rw [ih 0 (Nat.zero_le _), List.cons_append]
            | true =>
                have hlength := (List.isPrefixOf_iff_prefix.1 hfound).length_le
                -- what is behind the word is in the part, or the part ends with the word
                have hbehind : (((d :: (r ++ c :: b)).drop old.length).head?.any isWord) =
                    (((d :: r).drop old.length).head?.any isWord) := by
                  rw [← List.cons_append, List.drop_append_of_le_length hlength]
                  cases (d :: r).drop old.length with
                  | nil => simp [hc]
                  | cons e rest => rfl
                rw [hbehind]
                rw [List.length_cons] at hlength
                split
                · rw [ih _ (by omega), List.append_assoc]
                · rw [ih 0 (Nat.zero_le _), List.cons_append]
  exact hpass 0 (Nat.zero_le _) none

/-! ## Narrowing -/

/-- What is not blank stays. -/
theorem narrow_append
    {w : Text}
    (hw : ∀ c ∈ w, isBlank c = false)
    (r : Text) :
    narrow (w ++ r) = w ++ narrow r := by
  induction w with
  | nil => rfl
  | cons c w ih =>
      rw [List.forall_mem_cons] at hw
      have hcons : narrow (c :: (w ++ r)) = c :: narrow (w ++ r) := by
        simp [narrow, narrowAfter, hw.1]
      rw [List.cons_append, hcons, ih hw.2, List.cons_append]

/-- A space in front of what is not blank stays. -/
theorem narrow_space
    {r : Text}
    (hr : r.head?.any isBlank = false) :
    narrow (' ' :: r) = ' ' :: narrow r := by
  simp [narrow, narrowAfter, hr, show isBlank ' ' = true by decide]

/-- Of two spaces one is kept. -/
theorem narrow_two_spaces
    (r : Text) :
    narrow (' ' :: ' ' :: r) = narrow (' ' :: r) := by
  have hspace : isBlank ' ' = true := by decide
  cases r with
  | nil => rfl
  | cons c r => cases hc : isBlank c <;> simp [narrow, narrowAfter, hspace, hc]

end BotCanvas.Text
