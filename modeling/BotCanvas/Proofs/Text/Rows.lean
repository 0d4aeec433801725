import BotCanvas.Proofs.Text.Lines
import Mathlib.Data.List.TakeWhile

/-!
# Rows of indented texts

A row is what stands between two line feeds. Indentation works row by row (`splitOn_indent`), puts
the lead before a row that starts with a letter (`indent_of_head`) and leaves the end of a row
alone (`suffix_inner`). Indentation by spaces twice is indentation by all of the spaces
(`indent_indent`).
-/

namespace BotCanvas.Text

/-- Only repetitions of the character are dropped from the end. -/
theorem exists_stripEndChar_append
    (c : Char)
    (s : Text) :
    ∃ n, s = stripEndChar c s ++ List.replicate n c := by
  have hrun : s.reverse.takeWhile (· == c) =
      List.replicate (s.reverse.takeWhile (· == c)).length c := by
    rw [List.eq_replicate_iff]
    refine ⟨rfl, fun d hd => ?_⟩
    simpa using List.mem_takeWhile_imp hd
  have hparts := congrArg List.reverse
    (List.takeWhile_append_dropWhile (p := (· == c)) (l := s.reverse))
  rw [List.reverse_append, List.reverse_reverse, hrun, List.reverse_replicate] at hparts
  exact ⟨_, hparts.symm⟩

/-- A text that ends otherwise loses nothing at its end. -/
theorem stripEndChar_append
    (c : Char)
    (s : Text)
    {d : Char}
    (hd : d ≠ c) :
    stripEndChar c (s ++ [d]) = s ++ [d] := by
  simp [stripEndChar, hd]

/-- Splitting at an occurrence of the separator splits both sides. -/
theorem splitOn_append
    (separator : Char)
    (a b : Text) :
    splitOn separator (a ++ separator :: b) = splitOn separator a ++ splitOn separator b := by
  induction a with
  | nil => simp [splitOn]
  | cons c r ih =>
      by_cases h : c = separator
      · simp [splitOn, h, ih]
      · obtain ⟨w, ws, hw⟩ := List.exists_cons_of_ne_nil (splitOn_ne_nil separator r)
        simp [splitOn, h, ih, hw]

/-- All parts but the last one stay parts when a text goes on. -/
theorem dropLast_splitOn_prefix
    (separator : Char)
    (a b : Text) :
    (splitOn separator a).dropLast <+: splitOn separator (a ++ b) := by
  induction a with
  | nil => simp [splitOn]
  | cons c r ih =>
      obtain ⟨w, ws, hw⟩ := List.exists_cons_of_ne_nil (splitOn_ne_nil separator r)
      by_cases h : c = separator
      · simpa [splitOn, h, hw] using ih
      · obtain ⟨v, vs, hv⟩ := List.exists_cons_of_ne_nil (splitOn_ne_nil separator (r ++ b))
        rw [hw, hv] at ih
        cases ws with
        | nil => simp [splitOn, h, hw]
        | cons w' ws => simpa [splitOn, h, hw, hv] using ih

/-- A text without the separator is its only part. -/
theorem splitOn_of_not_mem
    {separator : Char}
    {s : Text}
    (h : separator ∉ s) :
    splitOn separator s = [s] := by
  induction s with
  | nil => rfl
  | cons c r ih =>
      simp only [List.mem_cons, not_or] at h
      simp [splitOn, Ne.symm h.1, ih h.2]

/-- What stands in front of the first separator is the first part. -/
theorem splitOn_append_of_not_mem
    {separator : Char}
    {s : Text}
    (h : separator ∉ s)
    (t : Text) :
    splitOn separator (s ++ t) = (splitOn separator t).modifyHead (s ++ ·) := by
  obtain ⟨w, ws, hw⟩ := List.exists_cons_of_ne_nil (splitOn_ne_nil separator t)
  rw [hw, List.modifyHead_cons]
  induction s with
  | nil => exact hw
  | cons c r ih =>
      simp only [List.mem_cons, not_or] at h
      rw [List.cons_append, splitOn, if_neg (Ne.symm h.1), ih h.2]
      rfl

/--
What holds of every row, and of a row in front of any text that it holds of, holds of every text.
-/
theorem row_induction
    {motive : Text → Prop}
    (row : ∀ a, '\n' ∉ a → motive a)
    (cons : ∀ a b, '\n' ∉ a → motive b → motive (a ++ '\n' :: b))
    (s : Text) :
    motive s := by
  obtain ⟨n, hn⟩ : ∃ n, s.length = n := ⟨_, rfl⟩
  induction n using Nat.strongRecOn generalizing s with
  | ind n ih =>
      by_cases h : '\n' ∈ s
      · obtain ⟨a, b, rfl, ha⟩ := List.eq_append_cons_of_mem h
        refine cons a b ha (ih b.length ?_ b rfl)
        subst hn
        simp only [List.length_append, List.length_cons]
        omega
      · exact row s h

/-- Indentation adds no line feed. -/
theorem lineFeed_mem_inner
    {lead : Text}
    (hlead : '\n' ∉ lead)
    {s : Text}
    (hs : '\n' ∉ s) :
    '\n' ∉ inner lead s := by
  have hopening : ∀ t, '\n' ∉ opening lead t := by
    intro t
    unfold opening
    split
    · simp
    · exact hlead
  fun_induction inner lead s with
  | case1 => simp
  | case2 r ih => simp at hs
  | case3 c r hcr hc ih =>
      simp only [List.mem_cons, not_or] at hs
      simp [hs.1, hopening r, ih hs.2]
  | case4 c r hcr hc ih =>
      simp only [List.mem_cons, not_or] at hs
      simp [hs.1, ih hs.2]

/-- The indentation of a row is a row. -/
theorem lineFeed_mem_indent
    {lead : Text}
    (hlead : '\n' ∉ lead)
    {s : Text}
    (hs : '\n' ∉ s) :
    '\n' ∉ indent lead s := by
  rw [indent_eq, List.mem_append, not_or]
  refine ⟨?_, lineFeed_mem_inner hlead hs⟩
  unfold opening
  split
  · simp
  · exact hlead

/-- Rows are indented one by one. -/
theorem splitOn_indent
    {lead : Text}
    (hlead : '\n' ∉ lead)
    (s : Text) :
    splitOn '\n' (indent lead s) = (splitOn '\n' s).map (indent lead) := by
  induction s using row_induction with
  | row a ha =>
      rw [splitOn_of_not_mem ha, splitOn_of_not_mem (lineFeed_mem_indent hlead ha)]
      rfl
  | cons a b ha ih =>
      rw [indent_append_lineFeed, splitOn_append, splitOn_append, ih, List.map_append]
      rw [splitOn_of_not_mem ha, splitOn_of_not_mem (lineFeed_mem_indent hlead ha)]
      rfl

/-- The first character of a text stands in its first line. -/
theorem lineBodies_cons
    {c : Char}
    (hc : isLineBreak c = false)
    (r : Text) :
    lineBodies (c :: r) = match lineBodies r with
      | [] => [[c]]
      | l :: ls => (c :: l) :: ls := by
  rw [lineBodies, lineBodies, lines_cons hc]
  cases lines r <;> rfl

/-- A text without line ends is one line, unless it is empty. -/
theorem lineBodies_of_unbroken
    {a : Text}
    (ha : ∀ c ∈ a, isLineBreak c = false) :
    lineBodies a = if a.isEmpty then [] else [a] := by
  cases a with
  | nil => rfl
  | cons c r =>
      rw [lineBodies, lines_of_unbroken (by simp) ha]
      rfl

/-- A text without line ends in front of a line feed is a line. -/
theorem lineBodies_append_of_unbroken
    {a : Text}
    (ha : ∀ c ∈ a, isLineBreak c = false)
    (b : Text) :
    lineBodies (a ++ '\n' :: b) = a :: lineBodies b := by
  have hfeed : lines ('\n' :: b) = ⟨[], ['\n']⟩ :: lines b :=
    lines_append_of_isLineEnd (.inr ⟨'\n', by decide, rfl⟩) (by simp)
  rw [lineBodies, lines_append_of_unbroken ha hfeed, List.append_nil]
  rfl

/-- Lines hold no line ends. -/
theorem not_isLineBreak_of_mem_lineBodies
    {s a : Text}
    (h : a ∈ lineBodies s) :
    ∀ c ∈ a, isLineBreak c = false := by
  obtain ⟨l, hl, rfl⟩ := List.mem_map.1 h
  exact (isCut_lines s).unbroken l hl

/-- At a line feed the lines of both sides meet; an empty one may stand between. -/
theorem lineBodies_append
    (a b : Text) :
    ∃ gap, (gap = [] ∨ gap = [[]]) ∧
      lineBodies (a ++ '\n' :: b) = lineBodies a ++ (gap ++ lineBodies b) := by
  induction a using inner.induct with
  | case1 => exact ⟨[[]], .inr rfl, by simp [lineBodies, lines, isLineBreak]⟩
  | case2 r ih =>
      obtain ⟨gap, hgap, h⟩ := ih
      refine ⟨gap, hgap, ?_⟩
      unfold lineBodies at h ⊢
      simpa [lines] using h
  | case3 c r hcr hc ih =>
      by_cases hpair : c = '\r' ∧ r = []
      · obtain ⟨rfl, rfl⟩ := hpair
        refine ⟨[], .inl rfl, ?_⟩
        simp [lineBodies, lines, isLineBreak]
      · obtain ⟨gap, hgap, h⟩ := ih
        refine ⟨gap, hgap, ?_⟩
        have hbreak : ∀ s : Text, (∀ t, c = '\r' → s = '\n' :: t → False) →
            lineBodies (c :: s) = [] :: lineBodies s := by
          intro s hs
          unfold lineBodies
          rw [lines, if_pos hc]
          · rfl
          · exact hs
        rw [List.cons_append, hbreak r hcr, hbreak _ ?_, h]
        · rfl
        · rintro t rfl ht
          cases r with
          | nil => exact hpair ⟨rfl, rfl⟩
          | cons d r =>
              simp only [List.cons_append, List.cons.injEq] at ht
              exact hcr r rfl (by rw [ht.1])
  | case4 c r hcr hc ih =>
      have hc : isLineBreak c = false := by simpa using hc
      rw [List.cons_append, lineBodies_cons hc, lineBodies_cons hc]
      cases hr : lineBodies r with
      | cons l ls =>
          obtain ⟨gap, hgap, h⟩ := ih
          exact ⟨gap, hgap, by rw [h, hr]; rfl⟩
      | nil =>
          have hnil : r = [] := by
            have hlines : lines r = [] := by simpa [lineBodies] using hr
            rw [← flatMap_full_lines r, hlines]
            rfl
          exact ⟨[], .inl rfl, by simp [hnil, lineBodies, lines, isLineBreak]⟩

/-- A text is looked through for line ends. -/
theorem unbroken_of_all
    {s : Text}
    (h : (s.all fun c => !isLineBreak c) = true) :
    ∀ c ∈ s, isLineBreak c = false := by
  simpa using h

/-- Spaces end no line. -/
theorem unbroken_spaces
    (n : Nat) :
    ∀ c ∈ List.replicate n ' ', isLineBreak c = false := by
  intro c hc
  rw [List.eq_of_mem_replicate hc]
  decide

/-- Indentation by spaces and by more spaces. -/
theorem indent_indent
    (m n : Nat)
    (s : Text) :
    indent (List.replicate m ' ') (indent (List.replicate n ' ') s) =
      indent (List.replicate (m + n) ' ') s := by
  rw [indent_indent_of_unbroken (unbroken_spaces n), List.replicate_append_replicate]

/-- Inside a text without line ends there is nothing to indent. -/
theorem inner_append_of_unbroken
    (lead : Text)
    {a : Text}
    (ha : ∀ c ∈ a, isLineBreak c = false)
    (b : Text) :
    inner lead (a ++ b) = a ++ inner lead b := by
  induction a with
  | nil => rfl
  | cons c r ih =>
      have hc : isLineBreak c = false := ha c (by simp)
      rw [List.cons_append, inner]
      · simp only [hc, Bool.false_eq_true, if_false]
        rw [ih fun d hd => ha d (by simp [hd])]
        rfl
      · rintro t rfl -
        simp [show isLineBreak '\r' = true by decide] at hc

/-- A text without line ends that is not blank gets the lead and nothing else. -/
theorem indent_of_unbroken
    (lead : Text)
    {a : Text}
    (ha : ∀ c ∈ a, isLineBreak c = false) :
    indent lead a = if a.all isBlank then a else lead ++ a := by
  have hfirst : firstLine a = a := by
    exact List.takeWhile_eq_self_iff.2 fun c hc => by simp [ha c hc]
  have hinner : inner lead a = a := by
    simpa [inner] using inner_append_of_unbroken lead ha []
  rw [indent_eq, hinner, opening, hfirst]
  split <;> rfl

/-- A text whose first line is not blank gets the lead. -/
theorem indent_of_head
    (lead : Text)
    {a : Text}
    (ha : ∀ c ∈ a, isLineBreak c = false)
    {c : Char}
    (hc : isBlank c = false)
    (r : Text) :
    indent lead (a ++ c :: r) = lead ++ a ++ c :: inner lead r := by
  have hbreak := isLineBreak_of_not_isBlank hc
  have hac : ∀ d ∈ a ++ [c], isLineBreak d = false := by
    simp only [List.mem_append, List.mem_singleton]
    rintro d (hd | rfl)
    · exact ha d hd
    · exact hbreak
  have hfirst : firstLine (a ++ c :: r) = a ++ c :: firstLine r := by
    clear hac
    induction a with
    | nil => simp [firstLine, hbreak]
    | cons d a ih =>
        have hd : isLineBreak d = false := ha d (by simp)
        have := ih fun e he => ha e (by simp [he])
        simp only [firstLine] at this
        simp [firstLine, hd, this]
  have hinner : inner lead (a ++ c :: r) = a ++ c :: inner lead r := by
    simpa using inner_append_of_unbroken lead hac r
  rw [indent_eq, hinner, opening, hfirst]
  simp [hc]

/-- An unbroken end of a text is the end of the indentation inside it. -/
theorem suffix_inner
    (lead a : Text)
    {b : Text}
    (hb : ∀ c ∈ b, isLineBreak c = false) :
    b <:+ inner lead (a ++ b) := by
  induction a using inner.induct with
  | case1 =>
      have := inner_append_of_unbroken lead hb []
      simp [inner] at this
      simp [this]
  | case2 r ih =>
      rw [List.cons_append, List.cons_append, inner]
      exact ((ih.trans (List.suffix_append _ _)).trans (List.suffix_cons _ _)).trans
        (List.suffix_cons _ _)
  | case3 c r hcr hc ih =>
      by_cases hpair : ∃ t, c = '\r' ∧ r ++ b = '\n' :: t
      · obtain ⟨t, rfl, ht⟩ := hpair
        cases r with
        | nil =>
            rw [List.nil_append] at ht
            have := hb '\n' (by simp [ht])
            simp [show isLineBreak '\n' = true by decide] at this
        | cons d r =>
            simp only [List.cons_append, List.cons.injEq] at ht
            exact absurd (by rw [ht.1]) (hcr r rfl)
      · rw [List.cons_append, inner, if_pos hc]
        · exact (ih.trans (List.suffix_append _ _)).trans (List.suffix_cons _ _)
        · intro t h h'
          exact hpair ⟨t, h, h'⟩
  | case4 c r hcr hc ih =>
      rw [List.cons_append, inner, if_neg hc]
      · exact ih.trans (List.suffix_cons _ _)
      · rintro t rfl -
        exact hc (by decide)

end BotCanvas.Text
