import BotCanvas.Proofs.Text.Ends

/-!
# Parts of texts

What stands in a part of a text stands in the text: nothing but spaces comes in by indentation, and
nothing but blanks is lost by trimming. Texts that are joined by empty rows have their rows one after
another (`splitOn_join`).
-/

namespace BotCanvas.Text

/-- What stands in an indented text stands in the lead or in the text. -/
theorem mem_of_mem_indent
    {lead s : Text}
    {c : Char}
    (h : c ∈ indent lead s) :
    c ∈ lead ∨ c ∈ s := by
  rw [indent_eq_flatMap] at h
  obtain ⟨l, hl, hc⟩ := List.mem_flatMap.1 h
  have hfull : c ∈ l.full → c ∈ s := fun hc => by
    rw [← flatMap_full_lines s]
    exact List.mem_flatMap.2 ⟨l, hl, hc⟩
  unfold indentLine at hc
  split at hc
  · exact .inr (hfull hc)
  · exact (List.mem_append.1 hc).imp_right hfull

/-- Trimming drops blanks only. -/
theorem mem_strip_of_mem
    {s : Text}
    {c : Char}
    (h : c ∈ s) :
    isBlank c = true ∨ c ∈ strip s := by
  have hdrop : ∀ t : Text, c ∈ t → isBlank c = true ∨ c ∈ t.dropWhile isBlank := by
    intro t ht
    rw [← List.takeWhile_append_dropWhile (p := isBlank) (l := t), List.mem_append] at ht
    exact ht.imp_left List.mem_takeWhile_imp
  refine (hdrop s h).elim .inl fun hfront => ?_
  refine (hdrop _ (List.mem_reverse.2 hfront)).imp_right fun hend => ?_
  exact List.mem_reverse.2 hend

/-- An unbroken start of an indented text that is not blank stands behind the lead. -/
theorem lead_append_of_prefix_indent
    {n : Nat}
    {p s : Text}
    (hp : ∀ c ∈ p, isLineBreak c = false)
    (hblank : p.all isBlank = false)
    (h : p <+: indent (List.replicate n ' ') s) :
    p <+: List.replicate n ' ' ++ firstLine s := by
  obtain ⟨t, ht⟩ := h
  have hfirst : p ++ firstLine t = opening (List.replicate n ' ') s ++ firstLine s := by
    rw [← firstLine_append_of_unbroken hp, ht, firstLine_indent (unbroken_spaces n)]
  unfold opening at hfirst
  split at hfirst
  · rename_i hall
    rw [List.nil_append] at hfirst
    rw [← hfirst, List.all_append, hblank] at hall
    cases hall
  · exact ⟨firstLine t, hfirst⟩

/-- What follows an unbroken start that is not blank is indented inside only. -/
theorem indent_append
    (lead : Text)
    {a : Text}
    (ha : ∀ c ∈ a, isLineBreak c = false)
    (hblank : a.all isBlank = false)
    (b : Text) :
    indent lead (a ++ b) = lead ++ a ++ inner lead b := by
  have hopening : opening lead (a ++ b) = lead := by
    rw [opening, firstLine_append_of_unbroken ha, List.all_append, hblank]
    rfl
  rw [indent_eq, hopening, inner_append_of_unbroken lead ha, List.append_assoc]

/-- Indentation keeps the last character of a text. -/
theorem getLast?_inner
    (lead t : Text) :
    (inner lead t).getLast? = t.getLast? := by
  have hkeep : ∀ r : Text, (inner lead r).getLast? = r.getLast? →
      ∀ c, (c :: (opening lead r ++ inner lead r)).getLast? = (c :: r).getLast? := by
    intro r ih c
    rw [List.getLast?_cons, List.getLast?_append, ih, List.getLast?_cons]
    cases hlast : r.getLast? with
    | none =>
        rw [List.getLast?_eq_none_iff.1 hlast]
        rfl
    | some d => rfl
  fun_induction inner lead t with
  | case1 => rfl
  | case2 r ih =>
      rw [List.getLast?_cons, hkeep r ih '\n', List.getLast?_cons (a := '\r')]
  | case3 c r hcr hc ih => exact hkeep r ih c
  | case4 c r hcr hc ih => rw [List.getLast?_cons, ih, List.getLast?_cons]

/-- What stands in a part stands in the text. -/
theorem mem_of_mem_splitOn
    {separator c : Char}
    {s part : Text}
    (hpart : part ∈ splitOn separator s)
    (hc : c ∈ part) :
    c ∈ s := by
  rw [← join_splitOn separator s]
  exact mem_join_of_mem hpart hc

/-- Texts joined by empty rows, with the last row ended: the rows of each, and an empty one behind
them. -/
theorem splitOn_join
    (parts : List Text)
    (hne : parts ≠ []) :
    splitOn '\n' (join "\n\n" parts ++ ['\n']) =
      parts.flatMap fun t => splitOn '\n' t ++ [[]] := by
  unfold join
  induction parts with
  | nil => exact absurd rfl hne
  | cons t rest ih =>
      cases rest with
      | nil =>
          rw [List.intercalate_singleton, splitOn_append, List.flatMap_singleton]
          rfl
      | cons u rest =>
          have hgap : t ++ "\n\n".toList ++ ("\n\n".toList.intercalate (u :: rest)) ++ ['\n'] =
              t ++ '\n' :: ([] ++ '\n' :: ("\n\n".toList.intercalate (u :: rest) ++ ['\n'])) := by
            simp
          rw [List.intercalate_cons_cons, hgap, splitOn_append, splitOn_append, ih (by simp),
            List.flatMap_cons, ← List.append_assoc]
          rfl

end BotCanvas.Text
