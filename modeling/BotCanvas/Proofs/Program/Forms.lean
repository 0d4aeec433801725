import BotCanvas.Proofs.Program.Shapes

/-!
# Reading forms

What a reader does with a line depends on its shape alone, as long as texts are put where their
kind belongs (`read_fills`). So it is decided from the form of a line where the line leads
(`Leads.ofForm`).
-/

namespace BotCanvas.Lexis

/-- The quotes that the language has. -/
def hasQuote (lx : Lexis) (q : Quote) : Bool :=
  q != .backtick || lx.backticks

/-- A spelling whose escaped texts stay inside every literal of the language. -/
def Encloses (lx : Lexis) (sp : Spelling) : Prop :=
  ∀ q, lx.hasQuote q = true → ∀ (t : Text) (opened : List Char),
    lx.read (some (.literal q, opened)) (sp.escape t) = some (.literal q, opened)

/-- Reads a cell: a user's text must be where its kind belongs, and changes nothing there. -/
def readCell (lx : Lexis) (r : Reader) : Cell → Reader
  | .char c => lx.advance r c
  | .literal =>
      match r with
      | some (.literal q, opened) => if lx.hasQuote q then some (.literal q, opened) else none
      | _ => none
  | .name =>
      match r with
      | some (.code, opened) => some (.code, opened)
      | some (.literal q, opened) => if lx.hasQuote q then some (.literal q, opened) else none
      | _ => none
  | .condition =>
      match r with
      | some (.code, opened) => some (.code, opened)
      | _ => none
  | .remark =>
      match r with
      | some (.remark, opened) => some (.remark, opened)
      | _ => none

/-- Reads a shape. -/
def readCells (lx : Lexis) (r : Reader) (s : List Cell) : Reader :=
  s.foldl lx.readCell r

/-- Tests whether lines of a form lead from some open brackets to others. -/
def formLeads (lx : Lexis) (form : List Slot) (opened opened' : List Char) : Bool :=
  form.all Slot.isReadable &&
    lx.advance (lx.readCells (some (.code, opened)) (shape form)) '\n' == some (.code, opened')

variable {lx : Lexis}

/-- A character of a name leaves code as it is. -/
theorem IsInert.ofName
    {c : Char}
    (h : lx.isNameChar c = true) :
    lx.IsInert c := by
  simp only [isNameChar, nameBreakers, List.contains_cons, List.contains_nil, Bool.or_false,
    Bool.and_eq_true, Bool.not_eq_true', Bool.or_eq_false_iff, beq_eq_false_iff_ne] at h
  obtain ⟨⟨-, h1, h2, h3, h4, h5, h6, h7, h8, h9, h10, h11, -⟩, hhash⟩ := h
  constructor
  · simp only [enter, quote?, h1, h2, if_false]
    simp [h3, h5, hhash]
  · intro opened
    simp [track, Brackets.isOpening, Brackets.partner?, h6, h7, h8, h9, h10, h11]

/-- Inert characters are read in code without a trace. -/
theorem read_inert
    {t : Text}
    (h : ∀ c ∈ t, lx.IsInert c)
    (opened : List Char) :
    lx.read (some (.code, opened)) t = some (.code, opened) := by
  induction t with
  | nil => rfl
  | cons c r ih =>
      obtain ⟨henter, htrack⟩ := h c (by simp)
      have hstep : lx.advance (some (.code, opened)) c = some (.code, opened) := by
        simp [advance, trackAt, next, henter, htrack]
      rw [read_cons, hstep, ih fun d hd => h d (by simp [hd])]

/-- No line feed stands in a name. -/
theorem IsName.lineFeed_not_mem
    {t : Text}
    (h : lx.IsName t) :
    '\n' ∉ t := by
  intro hfeed
  exact absurd (h.2 '\n' hfeed) (by simp [isNameChar, show Text.isBlank '\n' = true by decide])

/-- A name is read in a literal without a trace. -/
theorem read_name_literal
    {t : Text}
    (h : lx.IsName t)
    (q : Quote)
    (opened : List Char) :
    lx.read (some (.literal q, opened)) t = some (.literal q, opened) := by
  have hfeeds := h.lineFeed_not_mem
  obtain ⟨-, h⟩ := h
  induction t with
  | nil => rfl
  | cons c r ih =>
      have hc := h c (by simp)
      simp only [List.mem_cons, not_or] at hfeeds
      simp only [isNameChar, nameBreakers, List.contains_cons, List.contains_nil, Bool.or_false,
        Bool.and_eq_true, Bool.not_eq_true', Bool.or_eq_false_iff, beq_eq_false_iff_ne] at hc
      obtain ⟨⟨-, h1, h2, h3, h4, -⟩, -⟩ := hc
      have hmark : c ≠ q.mark := by
        cases q
        · exact h1
        · exact h2
        · exact h3
      have hstep : lx.advance (some (.literal q, opened)) c = some (.literal q, opened) := by
        simp [advance, trackAt, next, Ne.symm hfeeds.1, h4, hmark]
      rw [read_cons, hstep, ih hfeeds.2 fun d hd => h d (by simp [hd])]

/-- A remark is read up to the end of its row without a trace. -/
theorem read_remark
    {t : Text}
    (h : ∀ c ∈ t, Text.isLineBreak c = false)
    (opened : List Char) :
    lx.read (some (.remark, opened)) t = some (.remark, opened) := by
  induction t with
  | nil => rfl
  | cons c r ih =>
      have hfeed : c ≠ '\n' := by
        rintro rfl
        exact absurd (h '\n' (by simp)) (by decide)
      have hstep : lx.advance (some (.remark, opened)) c = some (.remark, opened) := by
        simp [advance, trackAt, next, hfeed]
      rw [read_cons, hstep, ih fun d hd => h d (by simp [hd])]

/-- A failed reader reads no shape. -/
theorem readCells_none
    (s : List Cell) :
    lx.readCells none s = none := by
  induction s with
  | nil => rfl
  | cons x rest ih =>
      have hstep : lx.readCell none x = none := by
        cases x <;> rfl
      rw [readCells, List.foldl_cons, hstep]
      exact ih

section Fills

variable {w : Writing}

/-- What a text in the place of a cell does to a reader, the cell tells. -/
theorem read_mayFill
    (hsp : w.lexis.Encloses w.spelling)
    {x : Cell}
    {u : Text}
    (hu : w.MayFill x u)
    {r : Reader}
    {q : Spot × List Char}
    (h : w.lexis.readCell r x = some q) :
    w.lexis.read r u = some q := by
  cases x with
  | char c => exact hu.elim
  | literal =>
      obtain ⟨t, -, rfl⟩ := hu
      simp only [readCell] at h
      split at h
      · rename_i q opened
        split at h
        · rename_i hq
          rw [← h]
          exact hsp q hq t opened
        · cases h
      · cases h
  | name =>
      simp only [readCell] at h
      split at h
      · rw [← h]
        exact read_inert (fun c hc => IsInert.ofName (hu.2 c hc)) _
      · rename_i q opened
        split at h
        · rw [← h]
          exact read_name_literal hu q opened
        · cases h
      · cases h
  | condition =>
      simp only [readCell] at h
      split at h
      · rw [← h]
        exact read_inert hu _
      · cases h
  | remark =>
      simp only [readCell] at h
      split at h
      · rw [← h]
        exact read_remark hu _
      · cases h

/-- What a text does to a reader, the shape that it fills tells. -/
theorem read_fills
    (hsp : w.lexis.Encloses w.spelling)
    {s : List Cell}
    {t : Text}
    (ht : w.Fills s t)
    {r : Reader}
    {q : Spot × List Char}
    (h : w.lexis.readCells r s = some q) :
    w.lexis.read r t = some q := by
  induction ht generalizing r with
  | nil => exact h
  | char c _ ih => exact ih h
  | @hole x u s t hu _ ih =>
      rw [readCells, List.foldl_cons] at h
      rw [read_append]
      cases hstep : w.lexis.readCell r x with
      | none =>
          rw [hstep] at h
          exact absurd ((readCells_none _).symm.trans h) (by simp)
      | some q' =>
          rw [hstep] at h
          rw [read_mayFill hsp hu hstep]
          exact ih h

end Fills

/-- A character of code that needs no bracket from below leaves those below alone. -/
theorem track_under
    (below : List Char)
    {c : Char}
    {k l : List Char}
    (h : lx.track c k = some l) :
    lx.track c (k ++ below) = some (l ++ below) := by
  unfold track at h ⊢
  split at h
  · rename_i hcount
    rw [if_pos hcount]
    cases h
    rfl
  · rename_i hcount
    rw [if_neg hcount]
    split at h
    · rename_i hopen
      rw [if_pos hopen]
      cases h
      rfl
    · rename_i hopen
      rw [if_neg hopen]
      cases hpartner : Brackets.partner? c with
      | none =>
          rw [hpartner] at h
          cases h
          rfl
      | some partner =>
          rw [hpartner] at h
          cases k with
          | nil => cases h
          | cons top rest =>
              simp only [List.cons_append] at h ⊢
              split at h
              · rename_i htop
                rw [if_pos htop]
                cases h
                rfl
              · cases h

/-- The same at every place. -/
theorem trackAt_under
    (below : List Char)
    {p : Spot}
    {c : Char}
    {k l : List Char}
    (h : lx.trackAt p c k = some l) :
    lx.trackAt p c (k ++ below) = some (l ++ below) := by
  cases p with
  | code => exact track_under below h
  | slash => exact track_under below h
  | literal quote =>
      simp only [trackAt] at h ⊢
      split at h
      · cases h
      · rename_i hfeed
        rw [if_neg hfeed]
        cases h
        rfl
  | escaped quote =>
      simp only [trackAt] at h ⊢
      split at h
      · cases h
      · rename_i hfeed
        rw [if_neg hfeed]
        cases h
        rfl
  | _ =>
      cases h
      rfl

/-- More open brackets below do not disturb a reader that does not need them. -/
theorem read_under
    (below : List Char)
    {t : Text}
    {p p' : Spot}
    {opened opened' : List Char}
    (h : lx.read (some (p, opened)) t = some (p', opened')) :
    lx.read (some (p, opened ++ below)) t = some (p', opened' ++ below) := by
  induction t generalizing p opened with
  | nil =>
      cases h
      rfl
  | cons c r ih =>
      rw [read_cons] at h ⊢
      cases hstep : lx.advance (some (p, opened)) c with
      | none =>
          rw [hstep, read_none] at h
          cases h
      | some s =>
          obtain ⟨q, k⟩ := s
          obtain ⟨rfl, hk⟩ := advance_eq_some hstep
          have hstep' : lx.advance (some (p, opened ++ below)) c =
              some (lx.next p c, k ++ below) := by
            simp [advance, trackAt_under below hk]
          rw [hstep']
          rw [hstep] at h
          exact ih h

/-- Lines lead where their form leads. -/
theorem Leads.ofForm
    {w : Writing}
    (hsp : w.lexis.Encloses w.spelling)
    {pieces : List Piece}
    (hsuits : ∀ x ∈ pieces, x.Suits w.lexis w.isSpoken)
    {k l : List Char}
    (h : w.lexis.formLeads (pieces.map Piece.slot) k l = true) :
    Leads w.lexis ((Code.line pieces).write w.spelling) k l := by
  rw [formLeads, Bool.and_eq_true, beq_iff_eq] at h
  obtain ⟨hform, hleads⟩ := h
  intro below
  cases hread : w.lexis.readCells (some (.code, k)) (shape (pieces.map Piece.slot)) with
  | none =>
      rw [hread] at hleads
      cases hleads
  | some q =>
      rw [hread] at hleads
      have hwrite : w.lexis.read (some (.code, k)) ((Code.line pieces).write w.spelling ++ ['\n']) =
          some (.code, l) := by
        rw [read_append, Code.write, read_fills hsp (.write hform hsuits) hread]
        exact hleads
      exact read_under below hwrite

end BotCanvas.Lexis
