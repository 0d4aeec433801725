import BotCanvas.Proofs.Text.Rows

/-!
# Words of indented texts

A word ends at a blank, wherever it stands (`words_append_blank`). So a lead of blanks in front of
a line changes no word (`words_indent`), and a squeezed text has no line ends.
-/

namespace BotCanvas.Text

/-- A blank is not part of any word. -/
theorem words_cons_of_blank
    {c : Char}
    (hc : isBlank c = true)
    (r : Text) :
    words (c :: r) = words r := by
  simp [words, hc]

/-- A character in front of a blank is a word or the end of one. -/
theorem words_cons_blank
    {c d : Char}
    (hc : isBlank c = false)
    (hd : isBlank d = true)
    (r : Text) :
    words (c :: d :: r) = [c] :: words r := by
  simp [words, hc, hd]

/-- A character in front of a word belongs to it. -/
theorem words_cons_cons
    {c d : Char}
    (hc : isBlank c = false)
    (hd : isBlank d = false)
    (r : Text) :
    ∃ w ws, words (d :: r) = w :: ws ∧ words (c :: d :: r) = (c :: w) :: ws := by
  have hne : words (d :: r) ≠ [] := by
    cases r with
    | nil => simp [words, hd]
    | cons e r =>
        rw [words.eq_def]
        simp only [hd, Bool.false_eq_true, if_false]
        split
        · simp
        · split <;> simp
  obtain ⟨w, ws, hw⟩ := List.exists_cons_of_ne_nil hne
  refine ⟨w, ws, hw, ?_⟩
  rw [words.eq_def]
  simp only [hc, hd, hw, Bool.false_eq_true, if_false]

/-- Words in front of a blank and words behind it are read apart. -/
theorem words_append_blank
    (a : Text)
    {c : Char}
    (hc : isBlank c = true)
    (b : Text) :
    words (a ++ c :: b) = words a ++ words b := by
  induction a with
  | nil => exact words_cons_of_blank hc b
  | cons d r ih =>
      cases hd : isBlank d with
      | true => rw [List.cons_append, words_cons_of_blank hd, words_cons_of_blank hd, ih]
      | false =>
          cases r with
          | nil => simp [words, hc, hd]
          | cons e r =>
              rw [List.cons_append] at ih
              rw [List.cons_append, List.cons_append]
              cases he : isBlank e with
              | true =>
                  rw [words_cons_of_blank he, words_cons_of_blank he] at ih
                  rw [words_cons_blank hd he, words_cons_blank hd he, ih, List.cons_append]
              | false =>
                  obtain ⟨w, ws, hw, hdw⟩ := words_cons_cons hd he r
                  obtain ⟨v, vs, hv, hdv⟩ := words_cons_cons hd he (r ++ c :: b)
                  rw [hw, hv, List.cons_append] at ih
                  obtain ⟨rfl, rfl⟩ := List.cons.inj ih
                  rw [hdw, hdv, List.cons_append]

/-- Blanks behind a blank add no word. -/
theorem words_blank_append
    (a : Text)
    {c : Char}
    (hc : isBlank c = true)
    {lead : Text}
    (hlead : ∀ d ∈ lead, isBlank d = true)
    (b : Text) :
    words (a ++ c :: (lead ++ b)) = words (a ++ c :: b) := by
  have hdrop : words (lead ++ b) = words b := by
    induction lead with
    | nil => rfl
    | cons d r ih =>
        rw [List.cons_append, words_cons_of_blank (hlead d (by simp)),
          ih fun e he => hlead e (by simp [he])]
  rw [words_append_blank a hc, words_append_blank a hc, hdrop]

/-- Inside a line that has begun, indentation by blanks changes no word. -/
theorem words_inner
    {lead : Text}
    (hlead : ∀ c ∈ lead, isBlank c = true)
    (a s : Text) :
    words (a ++ inner lead s) = words (a ++ s) := by
  have hopening : ∀ t, ∀ c ∈ opening lead t, isBlank c = true := by
    intro t c hc
    unfold opening at hc
    split at hc
    · simp at hc
    · exact hlead c hc
  have hnext : ∀ (a : Text) (c : Char) (t : Text), a ++ c :: t = (a ++ [c]) ++ t := by
    simp
  fun_induction inner lead s generalizing a with
  | case1 => rfl
  | case2 r ih =>
      rw [hnext a '\r', words_blank_append _ (by decide) (hopening r), hnext _ '\n', ih,
        ← hnext, ← hnext]
  | case3 c r hcr hc ih =>
      rw [words_blank_append _ (isBlank_of_isLineBreak hc) (hopening r), hnext a c, ih, ← hnext]
  | case4 c r hcr hc ih => rw [hnext a c, ih, ← hnext]

/-- Indentation by blanks changes no word. -/
theorem words_indent
    {lead : Text}
    (hlead : ∀ c ∈ lead, isBlank c = true)
    (s : Text) :
    words (indent lead s) = words s := by
  have hstart : ∀ t : Text, words (' ' :: t) = words t :=
    words_cons_of_blank (by decide)
  rw [indent_eq, ← hstart]
  unfold opening
  split
  · rw [List.nil_append, hstart]
    simpa using words_inner hlead [] s
  · rw [← List.nil_append (' ' :: _), words_blank_append [] (by decide) hlead, List.nil_append,
      hstart]
    simpa using words_inner hlead [] s

/-- Words hold no blanks. -/
theorem not_isBlank_of_mem_words
    {s w : Text}
    (hw : w ∈ words s)
    {c : Char}
    (hc : c ∈ w) :
    isBlank c = false := by
  induction s generalizing w c with
  | nil => simp [words] at hw
  | cons d r ih =>
      cases hd : isBlank d with
      | true =>
          rw [words_cons_of_blank hd] at hw
          exact ih hw hc
      | false =>
          cases r with
          | nil =>
              simp only [words, hd, Bool.false_eq_true, if_false, List.mem_singleton] at hw
              simp only [hw, List.mem_singleton] at hc
              rw [hc, hd]
          | cons e r =>
              cases he : isBlank e with
              | true =>
                  rw [words_cons_blank hd he] at hw
                  rcases List.mem_cons.1 hw with rfl | hw
                  · rw [List.mem_singleton.1 hc, hd]
                  · exact ih (by rwa [words_cons_of_blank he]) hc
              | false =>
                  obtain ⟨v, vs, hv, hdv⟩ := words_cons_cons hd he r
                  rw [hdv] at hw
                  rcases List.mem_cons.1 hw with rfl | hw
                  · rcases List.mem_cons.1 hc with rfl | hc
                    · exact hd
                    · exact ih (by rw [hv]; simp) hc
                  · exact ih (by rw [hv]; simp [hw]) hc

/-- A character between texts that are joined is one of the separator or of a text. -/
theorem mem_join
    {separator : Text}
    {parts : List Text}
    {c : Char}
    (hc : c ∈ join separator parts) :
    c ∈ separator ∨ ∃ w ∈ parts, c ∈ w := by
  unfold join at hc
  induction parts with
  | nil => simp at hc
  | cons v rest ih =>
      cases rest with
      | nil => exact .inr ⟨v, by simp, by simpa [List.intercalate] using hc⟩
      | cons w rest =>
          rw [List.intercalate_cons_cons, List.mem_append, List.mem_append] at hc
          rcases hc with (hc | hc) | hc
          · exact .inr ⟨v, by simp, hc⟩
          · exact .inl hc
          · rcases ih hc with hc | ⟨u, hu, hc⟩
            · exact .inl hc
            · exact .inr ⟨u, by simp [List.mem_cons.1 hu], hc⟩

/-- A character of a text is one of the joined texts. -/
theorem mem_join_of_mem
    {separator part : Text}
    {parts : List Text}
    {c : Char}
    (hpart : part ∈ parts)
    (hc : c ∈ part) :
    c ∈ join separator parts := by
  unfold join
  induction parts with
  | nil => cases hpart
  | cons first rest ih =>
      cases rest with
      | nil =>
          obtain rfl := List.mem_singleton.1 hpart
          simpa using hc
      | cons next rest =>
          rw [List.intercalate_cons_cons]
          rcases List.mem_cons.1 hpart with rfl | hpart
          · simp [hc]
          · simp [ih hpart]

/-- The words of a text are the text without its blanks. -/
theorem flatten_words
    (s : Text) :
    (words s).flatten = s.filter fun c => !isBlank c := by
  induction s with
  | nil => rfl
  | cons c r ih =>
      cases hc : isBlank c with
      | true =>
          rw [words_cons_of_blank hc, ih, List.filter_cons_of_neg (by simp [hc])]
      | false =>
          rw [List.filter_cons_of_pos (by simp [hc]), ← ih]
          cases r with
          | nil => simp [words, hc]
          | cons d r =>
              cases hd : isBlank d with
              | true =>
                  rw [words_cons_blank hc hd, words_cons_of_blank hd]
                  rfl
              | false =>
                  obtain ⟨w, ws, hw, hcw⟩ := words_cons_cons hc hd r
                  rw [hcw, hw]
                  rfl

/-- Squeezing drops blanks only. -/
theorem mem_squeeze_of_mem
    {s : Text}
    {c : Char}
    (hc : isBlank c = false)
    (h : c ∈ s) :
    c ∈ squeeze s := by
  have hwords : c ∈ (words s).flatten := by
    rw [flatten_words]
    exact List.mem_filter.2 ⟨h, by simp [hc]⟩
  obtain ⟨w, hw, hcw⟩ := List.mem_flatten.1 hwords
  exact mem_join_of_mem hw hcw

/-- A squeezed text has no line ends. -/
theorem not_isLineBreak_of_mem_squeeze
    {s : Text}
    {c : Char}
    (hc : c ∈ squeeze s) :
    isLineBreak c = false := by
  rcases mem_join hc with hc | ⟨w, hw, hc⟩
  · rw [List.mem_singleton.1 hc]
    decide
  · cases h : isLineBreak c with
    | false => rfl
    | true =>
        have hblank := isBlank_of_isLineBreak h
        rw [not_isBlank_of_mem_words hw hc] at hblank
        cases hblank

end BotCanvas.Text
