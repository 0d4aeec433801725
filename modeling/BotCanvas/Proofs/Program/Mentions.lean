import BotCanvas.Proofs.Program.Assembly
import BotCanvas.Proofs.Program.Shapes
import BotCanvas.Proofs.Text.Occurrence

/-!
# What a program mentions

A phrase occurs in a program because the program itself has it, because a user's text has it, or
because the end of one and the beginning of the other make it. Whether the program's own text can
have a share in an occurrence is read off the shapes of its lines, by an automaton that keeps what
may still be to come of the phrase (`pending`).

Code is quiet about a phrase if the automaton passes all its lines. Then the phrase occurs in the
code if and only if it occurs in one of the user's texts in it (`Code.Quiet.infix_write_iff`).
-/

namespace BotCanvas

/-! ## The automaton -/

/-- What may be to come of a phrase after one more character of the program; nothing if the phrase
is complete. It may also begin with that character. -/
def follow (w : Text) (pending : List Text) (c : Char) : Option (List Text) :=
  let next := (w :: pending).filterMap fun
    | [] => none
    | d :: rest => if d = c then some rest else none
  if next.any List.isEmpty then none else some next

/-- What may be to come of a phrase after one more cell. A user's text may end with any beginning of
the phrase; no beginning may lead into a user's text. -/
def followCell (w : Text) (pending : List Text) : Cell → Option (List Text)
  | .char c => follow w pending c
  | _ => if pending.isEmpty then some w.tails else none

/-- Tests for a line of a form that has no share in an occurrence of a phrase. -/
def isQuiet (w : Text) (form : List Slot) : Bool :=
  form.all Slot.isReadable && ((shape form).foldlM (followCell w) []).isSome

/-- What is to come of a phrase behind a text is pending. -/
def Tracks (w t : Text) (pending : List Text) : Prop :=
  ∀ u v, w = u ++ v → v ≠ [] → u <:+ t → v ∈ w :: pending

section Automaton

variable {w t u : Text}
variable {pending next : List Text}

/-- Nothing is pending behind the empty text. -/
theorem Tracks.nil :
    Tracks w [] [] := by
  rintro u v rfl - hu
  rw [List.suffix_nil.1 hu]
  exact List.mem_cons_self

/-- What follows a beginning is pending after its next character. -/
theorem mem_follow
    {c : Char}
    {v : Text}
    (h : follow w pending c = some next)
    (hv : c :: v ∈ w :: pending) :
    v ∈ next ∧ v ≠ [] := by
  unfold follow at h
  simp only at h
  split at h
  · cases h
  · rename_i hincomplete
    cases h
    have hmem : v ∈ (w :: pending).filterMap fun
        | [] => none
        | d :: rest => if d = c then some rest else none :=
      List.mem_filterMap.2 ⟨c :: v, hv, if_pos rfl⟩
    refine ⟨hmem, ?_⟩
    rintro rfl
    exact hincomplete (List.any_eq_true.2 ⟨[], hmem, rfl⟩)

/-- A character of the program after which the phrase is not complete completes no occurrence. -/
theorem Tracks.char
    {c : Char}
    (h : Tracks w t pending)
    (hnext : follow w pending c = some next) :
    Tracks w (t ++ [c]) next ∧ (w <:+: t ++ [c] → w <:+: t) := by
  constructor
  · rintro u v hw hv hu
    rcases List.suffix_concat_iff.1 hu with rfl | ⟨u', rfl, hu'⟩
    · rw [hw]
      exact List.mem_cons_self
    · have hmem := h u' (c :: v) (by rw [hw]; simp) (by simp) hu'
      exact List.mem_cons_of_mem _ (mem_follow hnext hmem).1
  · intro hin
    rcases List.infix_concat_iff.1 hin with hsuffix | hin
    · rcases List.suffix_concat_iff.1 hsuffix with rfl | ⟨u, rfl, hu⟩
      · exact List.nil_infix
      · have hmem := h u [c] rfl (by simp) hu
        exact absurd rfl (mem_follow hnext hmem).2
    · exact hin

/-- Where nothing is pending, a user's text has an occurrence to itself. -/
theorem Tracks.hole
    (h : Tracks w t [])
    (u : Text) :
    Tracks w (t ++ u) w.tails ∧ (w <:+: t ++ u → w <:+: t ∨ w <:+: u) := by
  constructor
  · rintro x v rfl - -
    exact List.mem_cons_of_mem _ ((List.mem_tails _ _).2 (List.suffix_append _ _))
  · intro hin
    rcases List.infix_append_iff.1 hin with ht | hu | ⟨x, v, rfl, hx, hv⟩
    · exact .inl ht
    · exact .inr hu
    · by_cases hnil : v = []
      · rw [hnil, List.append_nil]
        exact .inl hx.isInfix
      · have hmem := h x v rfl hnil hx
        rw [List.mem_singleton] at hmem
        rw [← hmem]
        exact .inr hv.isInfix

end Automaton

/-! ## User's texts in code -/

/-- The user's text in a piece, as it is written. -/
def Piece.text? (sp : Spelling) : Piece → Option Text
  | .code _ => none
  | p => some (p.write sp)

namespace Code

mutual

/-- The user's texts in code, as they are written. -/
def texts (sp : Spelling) : Code → List Text
  | line pieces => pieces.filterMap (Piece.text? sp)
  | written _ => []
  | stack parts => textsOf sp parts
  | nest _ body => texts sp body

/-- The user's texts in parts, as they are written. -/
def textsOf (sp : Spelling) : List Code → List Text
  | [] => []
  | c :: rest => texts sp c ++ textsOf sp rest

end

/-- Code whose own text has no share in an occurrence of a phrase. -/
inductive Quiet (w : Text) : Code → Prop
  | line
      {pieces : List Piece} :
      isQuiet w (pieces.map Piece.slot) = true →
      Quiet w (.line pieces)
  | written
      {t : Text} :
      ¬w <:+: t →
      Quiet w (.written t)
  | stack
      {parts : List Code} :
      (∀ c ∈ parts, Quiet w c) →
      Quiet w (.stack parts)
  | nest
      {levels : Nat}
      {body : Code} :
      Quiet w body →
      Quiet w (.nest levels body)

variable {sp : Spelling}
variable {w : Text}

/-- The user's texts in parts are those in one of them. -/
theorem mem_textsOf
    {parts : List Code}
    {t : Text} :
    t ∈ textsOf sp parts ↔ ∃ c ∈ parts, t ∈ texts sp c := by
  induction parts with
  | nil => simp [textsOf]
  | cons c rest ih => simp [textsOf, ih]

/-- The program's own characters complete no occurrence as long as they leave the phrase
incomplete. -/
theorem tracks_chars
    {chars t : Text}
    {pending next : List Text}
    (h : Tracks w t pending)
    (hnext : (chars.map Cell.char).foldlM (followCell w) pending = some next) :
    Tracks w (t ++ chars) next ∧ (w <:+: t ++ chars → w <:+: t) := by
  induction chars generalizing t pending with
  | nil =>
      cases hnext
      rw [List.append_nil]
      exact ⟨h, id⟩
  | cons c rest ih =>
      rw [List.map_cons, List.foldlM_cons] at hnext
      obtain ⟨middle, hmiddle, hrest⟩ := Option.bind_eq_some_iff.1 hnext
      obtain ⟨htracks, hin⟩ := h.char hmiddle
      obtain ⟨htracks', hin'⟩ := ih htracks hrest
      rw [List.append_assoc] at htracks' hin'
      exact ⟨htracks', fun h => hin (hin' h)⟩

/-- In a line that the automaton passes, the phrase occurs in a user's text if it occurs at all. -/
theorem exists_text_of_infix
    {pieces : List Piece}
    {t : Text}
    {pending next : List Text}
    (h : Tracks w t pending)
    (hreadable : (pieces.map Piece.slot).all Slot.isReadable = true)
    (hnext : (shape (pieces.map Piece.slot)).foldlM (followCell w) pending = some next)
    (hin : w <:+: t ++ pieces.flatMap (Piece.write sp)) :
    w <:+: t ∨ ∃ u ∈ pieces.filterMap (Piece.text? sp), w <:+: u := by
  induction pieces generalizing t pending with
  | nil =>
      rw [List.flatMap_nil, List.append_nil] at hin
      exact .inl hin
  | cons p rest ih =>
      rw [List.map_cons, List.all_cons, Bool.and_eq_true] at hreadable
      rw [List.map_cons, shape, List.flatMap_cons, List.foldlM_append] at hnext
      obtain ⟨middle, hmiddle, hrest⟩ := Option.bind_eq_some_iff.1 hnext
      rw [List.flatMap_cons, ← List.append_assoc] at hin
      -- a user's text stands where nothing is pending
      have hhole : p.text? sp = some (p.write sp) → p.slot.cells.foldlM (followCell w) pending =
          (if pending.isEmpty then some w.tails else none) →
          w <:+: t ∨ ∃ u ∈ (p :: rest).filterMap (Piece.text? sp), w <:+: u := by
        intro htext hcells
        rw [hcells] at hmiddle
        split at hmiddle
        · rename_i hempty
          cases hmiddle
          rw [List.isEmpty_iff.1 hempty] at h
          obtain ⟨htracks, hwhole⟩ := h.hole (p.write sp)
          rw [List.filterMap_cons_some htext]
          rcases ih htracks hreadable.2 hrest hin with hin | ⟨u, hu, hin⟩
          · rcases hwhole hin with hin | hin
            · exact .inl hin
            · exact .inr ⟨_, List.mem_cons_self, hin⟩
          · exact .inr ⟨u, List.mem_cons_of_mem _ hu, hin⟩
        · cases hmiddle
      cases p with
      | code s =>
          have hs : Text.asciiChars s = s.toList := Text.asciiChars_eq hreadable.1
          simp only [Piece.slot, Slot.cells, hs] at hmiddle
          obtain ⟨htracks, hwhole⟩ := tracks_chars h hmiddle
          rw [List.filterMap_cons_none rfl]
          exact (ih htracks hreadable.2 hrest hin).imp_left hwhole
      | literal u => exact hhole rfl (by simp [Slot.cells, followCell])
      | name u => exact hhole rfl (by simp [Slot.cells, followCell])
      | condition u => exact hhole rfl (by simp [Slot.cells, followCell])
      | remark u => exact hhole rfl (by simp [Slot.cells, followCell])

/-- A user's text is written as it is. -/
theorem infix_write_of_mem
    {pieces : List Piece}
    {u : Text}
    (hu : u ∈ pieces.filterMap (Piece.text? sp)) :
    u <:+: pieces.flatMap (Piece.write sp) := by
  obtain ⟨p, hp, htext⟩ := List.mem_filterMap.1 hu
  have hwrite : p.write sp = u := by
    cases p with
    | code s => cases htext
    | _ => exact Option.some.inj htext
  obtain ⟨front, rest, rfl⟩ := List.append_of_mem hp
  rw [← hwrite, List.flatMap_append, List.flatMap_cons]
  exact List.infix_append' _ _ _

/-- A phrase occurs in parts if it occurs in one of them. -/
theorem infix_writeParts_iff
    (hw : w.IsPhrase)
    (parts : List Code) :
    w <:+: writeParts sp parts ↔ ∃ c ∈ parts, w <:+: c.write sp := by
  induction parts with
  | nil => simp [writeParts, hw.ne_nil]
  | cons c rest ih =>
      cases rest with
      | nil => simp [writeParts]
      | cons d rest =>
          rw [writeParts, hw.infix_append_lineFeed_iff, ih]
          simp

/-- A phrase occurs in quiet code if and only if it occurs in a user's text. -/
theorem Quiet.infix_write_iff
    (hw : w.IsPhrase)
    (hsp : ∀ c ∈ sp.indentUnit, Text.isBlank c = true)
    {c : Code}
    (h : c.Quiet w) :
    w <:+: c.write sp ↔ ∃ t ∈ c.texts sp, w <:+: t := by
  induction h with
  | @line pieces hquiet =>
      rw [isQuiet, Bool.and_eq_true, Option.isSome_iff_exists] at hquiet
      obtain ⟨hreadable, next, hnext⟩ := hquiet
      rw [write, texts]
      constructor
      · intro hin
        rcases exists_text_of_infix .nil hreadable hnext hin with hnil | htext
        · exact absurd (List.infix_nil.1 hnil) hw.ne_nil
        · exact htext
      · rintro ⟨u, hu, hin⟩
        exact hin.trans (infix_write_of_mem hu)
  | written hin => simp [write, texts, hin]
  | @stack parts _ ih =>
      rw [write, texts, infix_writeParts_iff hw]
      simp only [mem_textsOf]
      constructor
      · rintro ⟨c, hc, hin⟩
        obtain ⟨t, ht, hin⟩ := (ih c hc).1 hin
        exact ⟨t, ⟨c, hc, ht⟩, hin⟩
      · rintro ⟨t, ⟨c, hc, ht⟩, hin⟩
        exact ⟨c, hc, (ih c hc).2 ⟨t, ht, hin⟩⟩
  | @nest levels body _ ih =>
      have hlead : ∀ c ∈ (List.replicate levels sp.indentUnit).flatten, Text.isBlank c = true := by
        intro c hc
        obtain ⟨unit, hunit, hc⟩ := List.mem_flatten.1 hc
        rw [List.eq_of_mem_replicate hunit] at hc
        exact hsp c hc
      rw [write, Spelling.indent, hw.infix_indent_iff hlead, texts, ih]

end Code

end BotCanvas
