import BotCanvas.Proofs.Text.Rows
import Mathlib.Data.List.Infix

/-!
# Where a phrase occurs

A phrase is a text on one line that begins with more than a blank. Line feeds between parts, at the
end of a text, and indentation neither make it occur nor take it away: it occurs in the whole if and
only if it occurs in a part.
-/

namespace BotCanvas.Text

/-- A text occurs in another if it is a stretch of it. -/
theorem occursIn_iff
    {needle s : Text} :
    occursIn needle s = true ↔ needle <:+: s := by
  induction s with
  | nil => simp [occursIn]
  | cons c r ih =>
      rw [occursIn, Bool.or_eq_true, List.isPrefixOf_iff_prefix, ih, List.infix_cons_iff]

/-- A phrase: it stands on one line and begins with a character that is not blank. -/
structure IsPhrase (w : Text) : Prop where
  opens : ∃ c r, w = c :: r ∧ isBlank c = false
  unbroken : ∀ c ∈ w, isLineBreak c = false

/-- Tests for a phrase. -/
def isPhrase (w : Text) : Bool :=
  (w.head?.any fun c => !isBlank c) && w.all fun c => !isLineBreak c

/-- The test is right. -/
theorem IsPhrase.ofTest
    {w : Text}
    (h : isPhrase w = true) :
    IsPhrase w := by
  rw [isPhrase, Bool.and_eq_true] at h
  obtain ⟨hopens, hunbroken⟩ := h
  refine ⟨?_, unbroken_of_all hunbroken⟩
  cases w with
  | nil => cases hopens
  | cons c r => exact ⟨c, r, rfl, by simpa using hopens⟩

namespace IsPhrase

variable {w : Text}
variable {a b s lead : Text}

theorem ne_nil
    (h : IsPhrase w) :
    w ≠ [] := by
  obtain ⟨c, r, rfl, -⟩ := h.opens
  simp

/-- No phrase begins with a blank. -/
theorem not_prefix_cons
    (h : IsPhrase w)
    {c : Char}
    (hc : isBlank c = true) :
    ¬w <+: c :: s := by
  obtain ⟨d, r, rfl, hd⟩ := h.opens
  rw [List.cons_prefix_cons]
  rintro ⟨rfl, -⟩
  rw [hd] at hc
  cases hc

/-- A blank in front of a text begins no occurrence. -/
theorem infix_cons_iff
    (h : IsPhrase w)
    {c : Char}
    (hc : isBlank c = true) :
    w <:+: c :: s ↔ w <:+: s := by
  rw [List.infix_cons_iff]
  exact ⟨fun hor => hor.resolve_left (h.not_prefix_cons hc), .inr⟩

/-- Blanks in front of a text begin no occurrence. -/
theorem infix_blank_append_iff
    (h : IsPhrase w)
    (ha : ∀ c ∈ a, isBlank c = true) :
    w <:+: a ++ s ↔ w <:+: s := by
  induction a with
  | nil => rfl
  | cons c r ih =>
      rw [List.cons_append, h.infix_cons_iff (ha c (by simp)), ih fun d hd => ha d (by simp [hd])]

/-- A phrase reaches over no line feed. -/
theorem infix_append_lineFeed_iff
    (h : IsPhrase w) :
    w <:+: a ++ '\n' :: b ↔ w <:+: a ∨ w <:+: b := by
  rw [List.infix_append_iff, h.infix_cons_iff (by decide)]
  constructor
  · rintro (ha | hb | ⟨u, v, rfl, hu, hv⟩)
    · exact .inl ha
    · exact .inr hb
    · cases v with
      | nil =>
          rw [List.append_nil]
          exact .inl hu.isInfix
      | cons c v =>
          rw [List.cons_prefix_cons] at hv
          have hfeed := h.unbroken c (by simp)
          rw [hv.1] at hfeed
          exact absurd hfeed (by decide)
  · rintro (ha | hb)
    · exact .inl ha
    · exact .inr (.inl hb)

/-- Indentation inside a text keeps what a phrase begins. -/
theorem prefix_inner_iff
    {w : Text}
    (hw : ∀ c ∈ w, isLineBreak c = false)
    (lead s : Text) :
    w <+: inner lead s ↔ w <+: s := by
  fun_induction inner lead s generalizing w with
  | case1 => rfl
  | case2 r ih =>
      cases w with
      | nil => simp
      | cons c w =>
          have hc : c ≠ '\r' := by
            rintro rfl
            exact absurd (hw '\r' (by simp)) (by decide)
          simp [List.cons_prefix_cons, hc]
  | case3 c r hcr hbreak ih =>
      cases w with
      | nil => simp
      | cons d w =>
          have hd : d ≠ c := by
            rintro rfl
            rw [hw d (by simp)] at hbreak
            cases hbreak
          simp [List.cons_prefix_cons, hd]
  | case4 c r hcr hbreak ih =>
      cases w with
      | nil => simp
      | cons d w =>
          rw [List.cons_prefix_cons, List.cons_prefix_cons, ih fun e he => hw e (by simp [he])]

/-- The opening of an indented text by blanks begins no occurrence. -/
theorem infix_opening_append_iff
    (h : IsPhrase w)
    (hlead : ∀ c ∈ lead, isBlank c = true) :
    w <:+: opening lead a ++ s ↔ w <:+: s := by
  refine h.infix_blank_append_iff ?_
  unfold opening
  split
  · simp
  · exact hlead

/-- Indentation by blanks inside a text keeps the occurrences of a phrase. -/
theorem infix_inner_iff
    (h : IsPhrase w)
    (hlead : ∀ c ∈ lead, isBlank c = true)
    (s : Text) :
    w <:+: inner lead s ↔ w <:+: s := by
  fun_induction inner lead s with
  | case1 => rfl
  | case2 r ih =>
      rw [h.infix_cons_iff (by decide), h.infix_cons_iff (by decide),
        h.infix_opening_append_iff hlead, ih, h.infix_cons_iff (by decide),
        h.infix_cons_iff (by decide)]
  | case3 c r hcr hbreak ih =>
      have hblank := isBlank_of_isLineBreak hbreak
      rw [h.infix_cons_iff hblank, h.infix_opening_append_iff hlead, ih, h.infix_cons_iff hblank]
  | case4 c r hcr hbreak ih =>
      obtain ⟨d, u, rfl, -⟩ := h.opens
      rw [List.infix_cons_iff, List.infix_cons_iff, ih, List.cons_prefix_cons,
        List.cons_prefix_cons, prefix_inner_iff fun e he => h.unbroken e (by simp [he])]

/-- Indentation by blanks keeps the occurrences of a phrase. -/
theorem infix_indent_iff
    (h : IsPhrase w)
    (hlead : ∀ c ∈ lead, isBlank c = true)
    (s : Text) :
    w <:+: indent lead s ↔ w <:+: s := by
  rw [indent_eq, h.infix_opening_append_iff hlead, h.infix_inner_iff hlead]

/-- Line feeds at the end of a text begin no occurrence. -/
theorem infix_stripEndChar_iff
    (h : IsPhrase w)
    (s : Text) :
    w <:+: stripEndChar '\n' s ↔ w <:+: s := by
  obtain ⟨n, hn⟩ := exists_stripEndChar_append '\n' s
  have hfeeds : ∀ n, w <:+: stripEndChar '\n' s ++ List.replicate n '\n' ↔
      w <:+: stripEndChar '\n' s := by
    intro n
    induction n with
    | zero => simp
    | succ n ih =>
        rw [List.replicate_succ', ← List.append_assoc, h.infix_append_lineFeed_iff, ih]
        simp [h.ne_nil]
  conv_rhs => rw [hn]
  exact (hfeeds n).symm

/-- A phrase occurs in texts that are joined with line feeds if it occurs in one of them. -/
theorem infix_join_iff
    (h : IsPhrase w)
    (n : Nat)
    (parts : List Text) :
    w <:+: join (List.replicate (n + 1) '\n') parts ↔ ∃ part ∈ parts, w <:+: part := by
  induction parts with
  | nil => simp [join, h.ne_nil]
  | cons part rest ih =>
      cases rest with
      | nil => simp [join]
      | cons next rest =>
          have hfeeds : ∀ c ∈ List.replicate n '\n', isBlank c = true := by
            intro c hc
            rw [List.eq_of_mem_replicate hc]
            decide
          unfold join at ih ⊢
          rw [List.intercalate_cons_cons, List.replicate_succ, List.append_assoc,
            List.cons_append, h.infix_append_lineFeed_iff, h.infix_blank_append_iff hfeeds,
            ← List.replicate_succ, ih]
          simp

end IsPhrase

end BotCanvas.Text
