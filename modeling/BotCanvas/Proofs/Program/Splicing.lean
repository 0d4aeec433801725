import BotCanvas.Proofs.Program.Assembly
import BotCanvas.Proofs.Program.Twins

/-!
# Texts that are spliced into statements

A target language says which properties of each block type it splices into literals. Replacing one
of them relates the blocks of two canvases (`Splicing.Respliced`), and nothing else about the
canvases differs. If the language makes twins of related blocks, branches and handlers
(`Splicing.Sound`), then the programs of the two canvases have one skeleton, or fail alike
(`Splicing.Sound.skeleton_program`).
-/

namespace BotCanvas

/-- The block with another value of a property. -/
def Block.withProperty (b : Block) (key : String) (v : Value) : Block :=
  { b with properties := setField key v b.properties }

theorem Subject.Alike.withProperty
    {keys : List String}
    {key : String}
    (hkey : key ∈ keys)
    (catalog : Catalog)
    (b : Block)
    (v : Value) :
    Subject.Alike keys ⟨catalog, b⟩ ⟨catalog, b.withProperty key v⟩ := by
  have hfield : ∀ other, other ∉ keys →
      getField? other (setField key v b.properties) = getField? other b.properties := by
    intro other hother
    refine getField?_setField_of_ne ?_ v b.properties
    rintro rfl
    exact hother hkey
  refine ⟨rfl, rfl, fun other fallback hother => ?_, fun other hother => ?_⟩
  · show catalog.resolve b.type (setField key v b.properties) other fallback =
      catalog.resolve b.type b.properties other fallback
    unfold Catalog.resolve
    rw [hfield other hother]
  · exact congrArg (·.getD Value.null) (hfield other hother)

/-- A fallback takes effect as a whole or not at all. -/
theorem Subject.valueOr_eq
    (s : Subject)
    (key : String)
    (fallback : Value) :
    s.valueOr key fallback = s.value key ∨ s.valueOr key fallback = fallback := by
  unfold Subject.value Subject.valueOr Catalog.resolve
  simp only
  split
  · exact .inl rfl
  · split
    · exact .inl rfl
    · split
      · exact .inr rfl
      · exact .inl rfl

/-- The characters that could begin or end a literal or a remark. -/
def literalMarks : List Char :=
  ['\x27', '\x22', '\x60', '\\', '/', '#']

/-- A block whose condition, if it spells one out, has no such character. -/
def HasUnmarkedCondition (catalog : Catalog) (b : Block) : Prop :=
  b.type = "if_condition" →
    ∀ c ∈ ((Subject.mk catalog b).value "condition").display, c ∉ literalMarks

/-- With a fallback that has no such character either, nothing changes. -/
theorem HasUnmarkedCondition.valueOr
    {catalog : Catalog}
    {b : Block}
    (h : HasUnmarkedCondition catalog b)
    (htype : b.type = "if_condition")
    (fallback : Value)
    (hfallback : fallback.display.all (fun c => c ∉ literalMarks) = true) :
    ∀ c ∈ ((Subject.mk catalog b).valueOr "condition" fallback).display, c ∉ literalMarks := by
  rcases (Subject.mk catalog b).valueOr_eq "condition" fallback with hvalue | hvalue
  · rw [hvalue]
    exact h htype
  · rw [hvalue]
    intro c hc
    exact of_decide_eq_true (List.all_eq_true.1 hfallback c hc)

/-- A condition without such characters is code in every language. -/
theorem suits_of_unmarked
    {lx : Lexis}
    {t : Text}
    (h : ∀ c ∈ t, c ∉ literalMarks) :
    (Piece.condition t).Suits lx.unbracketed fun _ => true := by
  intro c hc
  have hmark := h c hc
  simp only [literalMarks, List.mem_cons, List.not_mem_nil, or_false, not_or] at hmark
  obtain ⟨hsingle, hdouble, hbacktick, -, hslash, hhash⟩ := hmark
  refine ⟨?_, fun _ => rfl⟩
  simp [Lexis.enter, Lexis.quote?, hsingle, hdouble, hbacktick, hslash, hhash]

/-- A target language with the texts that it splices in. -/
structure Splicing where
  dialect : Dialect
  /-- How the language tells literals from code. -/
  lexis : Lexis
  /-- The properties that the statements of each block type splice in. -/
  actionKeys : List (String × List String)

namespace Splicing

/-- The properties that tests and reports of branching blocks splice in. -/
def branchKeys : List (String × List String) :=
  [("condition_has_role", ["roleId"]), ("error_handler", ["errorMessage"])]

/-- The properties that the code of a block type splices in. -/
def keysOf (s : Splicing) (type : String) : List String :=
  ((s.actionKeys ++ branchKeys).lookup type).getD []

variable {s : Splicing}

/-- For a block that does not branch, these are the properties that its statements splice in. -/
theorem keysOf_of_action
    {type : String}
    (h : Flow.branching? type = none) :
    s.keysOf type = (s.actionKeys.lookup type).getD [] := by
  have hrole : type ≠ "condition_has_role" := by
    rintro rfl
    cases h
  have herror : type ≠ "error_handler" := by
    rintro rfl
    cases h
  have hbranch : branchKeys.lookup type = none := by
    simp only [branchKeys, List.lookup_cons, beq_false_of_ne hrole, beq_false_of_ne herror,
      List.lookup_nil]
  rw [keysOf, List.lookup_append, hbranch, Option.or_none]

/-- A property that no block type splices in. -/
theorem not_mem_keysOf
    {key : String}
    (h : ((s.actionKeys ++ branchKeys).all fun row => !row.2.contains key) = true)
    (type : String) :
    key ∉ s.keysOf type := by
  unfold keysOf
  cases hlookup : (s.actionKeys ++ branchKeys).lookup type with
  | none => simp
  | some keys =>
      have hrow := List.all_eq_true.1 h _ (mem_of_lookup hlookup)
      simpa using hrow

/-- A block that splices nothing in, or the same with another value of a property that it splices
in. -/
def Respliced (s : Splicing) (b b' : Block) : Prop :=
  b' = b ∨ ∃ key ∈ s.keysOf b.type, ∃ v, b' = b.withProperty key v

namespace Respliced

variable {b b' : Block}

theorem alike
    (h : s.Respliced b b')
    (catalog : Catalog) :
    Subject.Alike (s.keysOf b.type) ⟨catalog, b⟩ ⟨catalog, b'⟩ := by
  rcases h with rfl | ⟨key, hkey, v, rfl⟩
  · exact .refl _ _
  · exact .withProperty hkey catalog b v

/-- The statements of a block that does not branch may depend on what they splice in only. -/
theorem alike_of_action
    (h : s.Respliced b b')
    (hway : Flow.branching? b.type = none)
    (catalog : Catalog) :
    Subject.Alike ((s.actionKeys.lookup b.type).getD []) ⟨catalog, b⟩ ⟨catalog, b'⟩ := by
  rw [← keysOf_of_action hway]
  exact h.alike catalog

theorem type_eq
    (h : s.Respliced b b') :
    b'.type = b.type := by
  rcases h with rfl | ⟨key, -, v, rfl⟩ <;> rfl

end Respliced

theorem keepsOrder_respliced
    (P : Block → Prop) :
    KeepsOrder id fun b b' => s.Respliced b b' ∧ P b := by
  refine ⟨fun _ _ h => h, ?_, ?_, ?_, ?_⟩ <;>
    · rintro b b' ⟨rfl | ⟨key, -, v, rfl⟩, -⟩ <;> rfl

/-- The types of blocks that become handlers, or subcommands of one. -/
def handlerTypes : List String :=
  Flow.subcommandType :: TriggerKind.table.map Prod.fst

theorem mem_handlerTypes
    {b : Block}
    (h : Dialect.BecomesHandler b) :
    b.type ∈ handlerTypes := by
  rcases h with hkind | hsub
  · obtain ⟨kind, hkind⟩ := Option.isSome_iff_exists.1 hkind
    exact List.mem_cons_of_mem _ (List.mem_map_of_mem (mem_of_lookup hkind))
  · rw [hsub]
    exact List.mem_cons_self

/-- What a target language does with texts that it splices in. -/
structure Sound (s : Splicing) : Prop where
  agree : ∀ catalog, (s.dialect.codeMeaning catalog).Agree (s.dialect.codeMeaning catalog)
    (fun b b' => s.Respliced b b' ∧ HasUnmarkedCondition catalog b)
    (s.lexis.TwinCode s.dialect.spelling) (s.lexis.TwinCode s.dialect.spelling)
  handler : ∀ catalog u u', UnitsAlike Eq (s.lexis.TwinCode s.dialect.spelling) u u' →
    ∀ tally : Tally,
      s.lexis.TwinCode s.dialect.spelling
          (s.dialect.handler catalog (some u.trigger) u.kind u.guard u.body u.subcommands tally).1
          (s.dialect.handler catalog (some u.trigger) u.kind u.guard u'.body u'.subcommands
            tally).1 ∧
        (s.dialect.handler catalog (some u.trigger) u.kind u.guard u'.body u'.subcommands tally).2 =
          (s.dialect.handler catalog (some u.trigger) u.kind u.guard u.body u.subcommands tally).2
  header : ∀ types,
    Lexis.Leads s.lexis (s.dialect.write (s.dialect.header types)) [] []
  footer : ∀ commands,
    Lexis.Leads s.lexis (s.dialect.write (s.dialect.footer commands)) [] []
  separator : ∃ n, s.dialect.sectionSeparator = List.replicate (n + 1) '\n'
  handlerKeys : ∀ type ∈ handlerTypes, s.keysOf type = []

end Splicing

theorem UnitsAlike.isEmpty_subcommands
    {S : Block → Block → Prop}
    {R : Code → Code → Prop}
    {u u' : HandlerUnit}
    (h : UnitsAlike S R u u') :
    u'.subcommands.isEmpty = u.subcommands.isEmpty := by
  rw [Bool.eq_iff_iff, List.isEmpty_iff_length_eq_zero, List.isEmpty_iff_length_eq_zero,
    h.subcommands.length_eq]

theorem CanvasesAlike.types_eq
    {ρ : String → String}
    {T : Block → Block → Prop}
    {c c' : Canvas}
    (hT : KeepsOrder ρ T)
    (hc : CanvasesAlike ρ T c c') :
    c'.types = c.types :=
  hT.nodes.types_eq hc.blocks

namespace Splicing.Sound

open Lexis

variable {s : Splicing}
variable {catalog : Catalog}

/-- Handlers that are alike are twins, whatever names were given out before. -/
theorem handlers
    (h : s.Sound)
    {units units' : List HandlerUnit}
    (hunits : List.Forall₂ (UnitsAlike Eq (s.lexis.TwinCode s.dialect.spelling)) units units')
    (tally : Tally) :
    List.Forall₂ (s.lexis.TwinCode s.dialect.spelling)
      (s.dialect.handlers catalog units tally).1 (s.dialect.handlers catalog units' tally).1 := by
  induction hunits generalizing tally with
  | nil => exact .nil
  | @cons u u' rest rest' hu _ ih =>
      obtain ⟨htwin, htally⟩ := h.handler catalog u u' hu tally
      rw [Dialect.handlers_cons, Dialect.handlers_cons, ← hu.trigger, hu.kind, hu.guard, htally]
      exact .cons htwin (ih _)

/-- Sections of handlers that are alike have one skeleton. -/
theorem skeleton_sections
    (h : s.Sound)
    {T : Block → Block → Prop}
    (hT : KeepsOrder id T)
    {c c' : Canvas}
    (hc : CanvasesAlike id T c c')
    {units units' : List HandlerUnit}
    (hunits : List.Forall₂ (UnitsAlike Eq (s.lexis.TwinCode s.dialect.spelling)) units units') :
    s.lexis.skeleton (Text.join s.dialect.sectionSeparator
        ((s.dialect.sections catalog c' units').map fun code =>
          Text.stripEndChar '\n' (s.dialect.write code)) ++ ['\n']) =
      s.lexis.skeleton (Text.join s.dialect.sectionSeparator
        ((s.dialect.sections catalog c units).map fun code =>
          Text.stripEndChar '\n' (s.dialect.write code)) ++ ['\n']) := by
  have hsections : List.Forall₂ (s.lexis.TwinCode s.dialect.spelling)
      (s.dialect.sections catalog c units) (s.dialect.sections catalog c' units') := by
    unfold Dialect.sections
    rw [hc.types_eq hT, Dialect.commands_eq (fun _ _ => Block.SameContents.of_eq) hunits]
    refine .cons (Twins.refl (h.header _)) (List.rel_append (h.handlers hunits []) ?_)
    exact .cons (Twins.refl (h.footer _)) .nil
  obtain ⟨n, hseparator⟩ := h.separator
  rw [hseparator]
  have htrimmed : List.Forall₂ (Twins s.lexis)
      ((s.dialect.sections catalog c units).map fun code =>
        Text.stripEndChar '\n' (s.dialect.write code))
      ((s.dialect.sections catalog c' units').map fun code =>
        Text.stripEndChar '\n' (s.dialect.write code)) := by
    rw [List.forall₂_map_left_iff, List.forall₂_map_right_iff]
    exact hsections.imp fun _ _ hcode => Twins.stripEndChar hcode
  have hjoin := Twins.join n htrimmed
  rw [skeleton_append_lineFeed hjoin.left, skeleton_append_lineFeed hjoin.right, hjoin.skeleton]

/-- Programs of canvases that differ in a spliced-in text have one skeleton, or fail alike. -/
theorem skeleton_program
    (h : s.Sound)
    {c c' : Canvas}
    (hc : CanvasesAlike id (fun b b' => s.Respliced b b' ∧ HasUnmarkedCondition catalog b) c c')
    (mode : Traversal) :
    (s.dialect.program catalog mode c').map s.lexis.skeleton =
      (s.dialect.program catalog mode c).map s.lexis.skeleton := by
  have hT := keepsOrder_respliced (s := s) (HasUnmarkedCondition catalog)
  -- triggers and subcommands splice nothing in, so their names are given out as before
  have hsame : ∀ b b', s.Respliced b b' ∧ HasUnmarkedCondition catalog b →
      Dialect.BecomesHandler b → b = b' := by
    rintro b b' ⟨rfl | ⟨key, hkey, -⟩, -⟩ hb
    · rfl
    · rw [h.handlerKeys b.type (mem_handlerTypes hb)] at hkey
      cases hkey
  have hunits := Dialect.handlerUnits_alike
    (Dialect.handlersAlike_of_canvasesAlike hT hc hsame (fun _ _ => Block.SameContents.of_eq) mode)
    (h.agree catalog)
  have hprograms : Emit.Matches
      (fun program program' => s.lexis.skeleton program' = s.lexis.skeleton program)
      (s.dialect.program catalog mode c) (s.dialect.program catalog mode c') :=
    matches_map hunits fun _ _ hunits => h.skeleton_sections hT hc hunits
  exact map_eq_of_matches hprograms fun _ _ hprogram => hprogram

end Splicing.Sound

end BotCanvas
