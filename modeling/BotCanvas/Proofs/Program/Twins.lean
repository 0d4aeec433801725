import BotCanvas.Proofs.Program.Skeleton
import BotCanvas.Proofs.Program.Statements

/-!
# Code of one skeleton

Lines of one form whose texts differ inside literals only have one skeleton (`TwinCode.line`), so
have statements that are the same up to such texts (`TwinCode.ofSame`), and so has everything that
is built from code of one skeleton by putting it under one another and deeper.

A condition that a user spells out may open brackets, so the brackets are left out here: what leads
from code to code under a count of brackets does so without the count (`Leads.unbracketed`).
-/

namespace BotCanvas

namespace Lexis

variable {lx : Lexis}

/-! ## Reading without brackets -/

/-- A reader that keeps no brackets. -/
def unbracketed (lx : Lexis) : Lexis :=
  { lx with countsBrackets := false }

section Unbracketed

variable {p q : Spot}
variable {k l : List Char}

/-- A reader without brackets fails at a line feed in a literal only. -/
theorem advance_unbracketed
    {c : Char}
    (h : lx.advance (some (p, k)) c = some (q, l))
    (m : List Char) :
    lx.unbracketed.advance (some (p, m)) c = some (q, m) := by
  obtain ⟨rfl, htrack⟩ := advance_eq_some h
  have hfree : lx.unbracketed.trackAt p c m = some m := by
    cases p with
    | literal q =>
        simp only [trackAt] at htrack ⊢
        split at htrack
        · cases htrack
        · rename_i hfeed
          rw [if_neg hfeed]
    | escaped q =>
        simp only [trackAt] at htrack ⊢
        split at htrack
        · cases htrack
        · rename_i hfeed
          rw [if_neg hfeed]
    | _ => rfl
  rw [advance, hfree]
  rfl

theorem read_unbracketed
    {t : Text}
    (h : lx.read (some (p, k)) t = some (q, l))
    (m : List Char) :
    lx.unbracketed.read (some (p, m)) t = some (q, m) := by
  induction t generalizing p k with
  | nil =>
      cases h
      rfl
  | cons c r ih =>
      rw [read_cons] at h ⊢
      cases hstep : lx.advance (some (p, k)) c with
      | none =>
          rw [hstep, read_none] at h
          cases h
      | some s =>
          obtain ⟨p', k'⟩ := s
          rw [hstep] at h
          rw [advance_unbracketed hstep m]
          exact ih h

theorem readCell_unbracketed
    {x : Cell}
    (h : lx.readCell (some (p, k)) x = some (q, l))
    (m : List Char) :
    lx.unbracketed.readCell (some (p, m)) x = some (q, m) := by
  cases x with
  | char c => exact advance_unbracketed h m
  | literal =>
      cases p with
      | literal quote =>
          simp only [readCell] at h ⊢
          split at h
          · rename_i hquote
            cases h
            exact if_pos hquote
          · cases h
      | _ => cases h
  | name =>
      cases p with
      | code =>
          cases h
          rfl
      | literal quote =>
          simp only [readCell] at h ⊢
          split at h
          · rename_i hquote
            cases h
            exact if_pos hquote
          · cases h
      | _ => cases h
  | condition =>
      cases p with
      | code =>
          cases h
          rfl
      | _ => cases h
  | remark =>
      cases p with
      | remark =>
          cases h
          rfl
      | _ => cases h

theorem readCells_unbracketed
    {s : List Cell}
    (h : lx.readCells (some (p, k)) s = some (q, l))
    (m : List Char) :
    lx.unbracketed.readCells (some (p, m)) s = some (q, m) := by
  induction s generalizing p k with
  | nil =>
      cases h
      rfl
  | cons x rest ih =>
      rw [readCells, List.foldl_cons] at h ⊢
      cases hstep : lx.readCell (some (p, k)) x with
      | none =>
          rw [hstep] at h
          exact absurd ((readCells_none _).symm.trans h) (by simp)
      | some r =>
          obtain ⟨p', k'⟩ := r
          rw [hstep] at h
          rw [readCell_unbracketed hstep m]
          exact ih h

/-- A form that leads from code to code does so without brackets. -/
theorem formLeads_unbracketed
    {form : List Slot}
    (h : lx.formLeads form k l = true) :
    lx.unbracketed.formLeads form [] [] = true := by
  rw [formLeads, Bool.and_eq_true, beq_iff_eq] at h ⊢
  obtain ⟨hform, hleads⟩ := h
  refine ⟨hform, ?_⟩
  cases hread : lx.readCells (some (.code, k)) (shape form) with
  | none =>
      rw [hread] at hleads
      cases hleads
  | some s =>
      obtain ⟨p, m⟩ := s
      rw [hread] at hleads
      rw [readCells_unbracketed hread []]
      exact advance_unbracketed hleads []

/-- A fragment that leads from code to code does so without brackets. -/
theorem Leads.unbracketed
    {t : Text}
    (h : Leads lx t k l) :
    Leads lx.unbracketed t [] [] :=
  fun below => read_unbracketed (h []) below

theorem suits_unbracketed
    {isSpoken : Char → Bool}
    {x : Piece}
    (h : x.Suits lx isSpoken) :
    x.Suits lx.unbracketed isSpoken := by
  cases x with
  | condition t => exact fun c hc => ⟨(h c hc).1, fun _ => rfl⟩
  | _ => exact h

end Unbracketed

/-! ## Lines -/

/-- A spelling whose escaped texts do not show in the literals of the language. -/
def Conceals (lx : Lexis) (sp : Spelling) : Prop :=
  ∀ q, lx.hasQuote q = true → ∀ t : Text, lx.skeletonFrom (.literal q) (sp.escape t) = []

section Lines

variable {sp : Spelling}

/-- A piece of any text suits its slot if one does that differs in a literal only. -/
theorem suits_of_blank
    {x x' : Piece}
    (hblank : x'.blank = x.blank)
    (h : x.Suits lx fun _ => true) :
    x'.Suits lx fun _ => true := by
  cases x' with
  | literal t => exact fun _ _ => rfl
  | _ =>
      cases x <;> cases hblank
      exact h

/-- A piece leads a reader where its slot tells. -/
theorem read_piece
    (hsp : lx.Encloses sp)
    {x : Piece}
    (hform : x.slot.isReadable = true)
    (hsuits : x.Suits lx fun _ => true)
    {r : Reader}
    {q : Spot × List Char}
    (h : lx.readCells r x.slot.cells = some q) :
    lx.read r (x.write sp) = some q := by
  have hfills : Writing.Fills ⟨lx, sp, fun _ => true⟩ (shape ([x].map Piece.slot))
      ([x].flatMap (Piece.write sp)) :=
    .write (by simpa using hform) (by simpa using hsuits)
  simp only [shape, List.map_cons, List.map_nil, List.flatMap_cons, List.flatMap_nil,
    List.append_nil] at hfills
  exact read_fills hsp hfills h

/-- Pieces that differ in a literal only have one skeleton. -/
theorem skeletonFrom_piece
    (hconceals : lx.Conceals sp)
    {x x' : Piece}
    (hblank : x'.blank = x.blank)
    {p : Spot}
    {k : List Char}
    {q : Spot × List Char}
    (h : lx.readCells (some (p, k)) x.slot.cells = some q) :
    lx.skeletonFrom p (x'.write sp) = lx.skeletonFrom p (x.write sp) := by
  cases x with
  | literal t =>
      cases x' with
      | literal t' =>
          cases p with
          | literal quote =>
              simp only [Piece.slot, Slot.cells, readCells, List.foldl_cons, List.foldl_nil,
                readCell] at h
              split at h
              · rename_i hquote
                exact (hconceals quote hquote t').trans (hconceals quote hquote t).symm
              · cases h
          | _ => cases h
      | _ => cases hblank
  | _ =>
      cases x' <;> cases hblank
      rfl

/-- So have lines that differ in literals only. -/
theorem skeletonFrom_pieces
    (hsp : lx.Encloses sp)
    (hconceals : lx.Conceals sp)
    {pieces pieces' : List Piece}
    (hblank : pieces'.map Piece.blank = pieces.map Piece.blank)
    (hform : (pieces.map Piece.slot).all Slot.isReadable = true)
    (hsuits : ∀ x ∈ pieces, x.Suits lx fun _ => true)
    {p : Spot}
    {k : List Char}
    {q : Spot × List Char}
    (h : lx.readCells (some (p, k)) (shape (pieces.map Piece.slot)) = some q) :
    lx.skeletonFrom p (pieces'.flatMap (Piece.write sp)) =
      lx.skeletonFrom p (pieces.flatMap (Piece.write sp)) := by
  induction pieces generalizing pieces' p k with
  | nil =>
      obtain rfl := List.map_eq_nil_iff.1 hblank
      rfl
  | cons x rest ih =>
      obtain ⟨x', rest', rfl, hx, hrest⟩ := List.map_eq_cons_iff.1 hblank
      rw [List.map_cons, List.all_cons, Bool.and_eq_true] at hform
      obtain ⟨hreadable, hform⟩ := hform
      obtain ⟨hsuit, hsuits⟩ := List.forall_mem_cons.1 hsuits
      rw [List.map_cons, shape, List.flatMap_cons, readCells, List.foldl_append] at h
      cases hread : lx.readCells (some (p, k)) x.slot.cells with
      | none =>
          rw [readCells] at hread
          rw [hread] at h
          exact absurd ((readCells_none _).symm.trans h) (by simp)
      | some s =>
          obtain ⟨p', k'⟩ := s
          have hslot : x'.slot = x.slot := by
            rw [← Piece.slot_blank, hx, Piece.slot_blank]
          -- both pieces lead to one place, from which the rest is compared
          have hplace := placeFrom_of_read (read_piece hsp hreadable hsuit hread)
          rw [← hslot] at hreadable hread
          have hplace' := placeFrom_of_read
            (read_piece hsp hreadable (suits_of_blank hx hsuit) hread)
          rw [hslot] at hread
          have hfirst := skeletonFrom_piece hconceals hx hread
          rw [readCells] at hread
          rw [hread] at h
          rw [List.flatMap_cons, List.flatMap_cons, skeletonFrom_append, skeletonFrom_append,
            hplace, hplace', hfirst, ih hrest hform hsuits h]

end Lines

end Lexis

/-- Parts that differ in literals only are related if all that differ so are. -/
theorem Code.forall₂_of_blankParts
    {R : Code → Code → Prop}
    {parts parts' : List Code}
    (h : blankParts parts' = blankParts parts)
    (hR : ∀ c ∈ parts, ∀ c', c'.blank = c.blank → R c c') :
    List.Forall₂ R parts parts' := by
  induction parts generalizing parts' with
  | nil =>
      cases parts' with
      | nil => exact .nil
      | cons c' rest' => cases h
  | cons c rest ih =>
      cases parts' with
      | nil => cases h
      | cons c' rest' =>
          obtain ⟨hc, hrest⟩ := List.cons.inj h
          exact .cons (hR c (by simp) c' hc) (ih hrest fun d hd => hR d (by simp [hd]))

namespace Lexis

variable {lx : Lexis}

/-! ## Code -/

/-- Code that is written as twins. -/
def TwinCode (lx : Lexis) (sp : Spelling) (c c' : Code) : Prop :=
  Twins lx (c.write sp) (c'.write sp)

namespace TwinCode

variable {sp : Spelling}
variable {c c' : Code}

theorem empty :
    TwinCode lx sp (.written []) (.written []) :=
  Twins.refl (Leads.empty [])

/-- Lines of one form whose texts differ in literals only. -/
theorem line
    (hsp : lx.Encloses sp)
    (hconceals : lx.Conceals sp)
    {pieces pieces' : List Piece}
    (hblank : pieces'.map Piece.blank = pieces.map Piece.blank)
    (hsuits : ∀ x ∈ pieces, x.Suits lx fun _ => true)
    (hform : lx.formLeads (pieces.map Piece.slot) [] [] = true) :
    TwinCode lx sp (.line pieces) (.line pieces') := by
  have hsuits' : ∀ x ∈ pieces', x.Suits lx fun _ => true := by
    intro x' hx'
    have hmem := List.mem_map_of_mem (f := Piece.blank) hx'
    rw [hblank] at hmem
    obtain ⟨x, hx, hblankx⟩ := List.mem_map.1 hmem
    exact suits_of_blank hblankx.symm (hsuits x hx)
  have hslots : pieces'.map Piece.slot = pieces.map Piece.slot := by
    have hslot : Piece.slot ∘ Piece.blank = Piece.slot := funext Piece.slot_blank
    rw [← hslot, ← List.map_map, hblank, List.map_map]
  refine ⟨Leads.ofForm (w := ⟨lx, sp, fun _ => true⟩) hsp hsuits hform,
    Leads.ofForm (w := ⟨lx, sp, fun _ => true⟩) hsp hsuits' (by rw [hslots]; exact hform), ?_⟩
  rw [formLeads, Bool.and_eq_true, beq_iff_eq] at hform
  obtain ⟨hreadable, hleads⟩ := hform
  cases hread : lx.readCells (some (.code, [])) (shape (pieces.map Piece.slot)) with
  | none =>
      rw [hread] at hleads
      cases hleads
  | some s =>
      rw [Code.write, Code.write]
      exact skeletonFrom_pieces hsp hconceals hblank hreadable hsuits hread

theorem stack
    {parts parts' : List Code}
    (hne : parts ≠ [])
    (h : List.Forall₂ (TwinCode lx sp) parts parts') :
    TwinCode lx sp (.stack parts) (.stack parts') := by
  unfold TwinCode
  rw [Code.write, Code.write]
  induction h with
  | nil => exact absurd rfl hne
  | @cons c c' rest rest' hc hrest ih =>
      cases hrest with
      | nil => exact hc
      | cons hd hrest => exact Twins.append hc (ih (by simp))

theorem nest
    (hsp : IsSpaced sp)
    (levels : Nat)
    (h : TwinCode lx sp c c') :
    TwinCode lx sp (.nest levels c) (.nest levels c') := by
  obtain ⟨n, hn⟩ := hsp
  unfold TwinCode
  rw [Code.write, Code.write, Spelling.indent, Spelling.indent, hn,
    List.flatten_replicate_replicate]
  exact Twins.indent _ h

/-- Twins are nothing but a given line together, if the line has no quotes. -/
theorem amountsTo
    (h : TwinCode lx sp c c')
    {t : Text}
    (ht : (t.all fun c => (lx.quote? c).isNone) = true) :
    c'.amountsTo sp t = c.amountsTo sp t := by
  unfold Code.amountsTo
  rw [Bool.eq_iff_iff, beq_iff_eq, beq_iff_eq]
  exact Twins.strip_eq_iff h fun c hc => Option.isNone_iff_eq_none.1 (List.all_eq_true.1 ht c hc)

/-- Statements that are the same up to texts in literals are twins, if each of their lines leads
from code to code. -/
theorem ofSame
    (hsp : lx.Encloses sp)
    (hconceals : lx.Conceals sp)
    {P : List Piece → Prop}
    (hleads : ∀ pieces, P pieces → (∀ x ∈ pieces, x.Suits lx fun _ => true) ∧
      lx.formLeads (pieces.map Piece.slot) [] [] = true)
    (h : Code.Same P c c') :
    TwinCode lx sp c c' := by
  obtain ⟨hblank, hevery⟩ := h
  induction hevery generalizing c' with
  | @line pieces hpieces =>
      obtain ⟨hsuits, hform⟩ := hleads pieces hpieces
      cases c' with
      | line pieces' => exact line hsp hconceals (Code.line.inj hblank) hsuits hform
      | _ => cases hblank
  | stack hne _ ih =>
      cases c' with
      | stack parts' =>
          exact stack hne (Code.forall₂_of_blankParts (Code.stack.inj hblank)
            fun c hc _ hc' => ih c hc hc')
      | _ => cases hblank

end TwinCode

end Lexis

end BotCanvas
