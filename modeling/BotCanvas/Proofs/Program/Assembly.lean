import BotCanvas.Program.Assembly
import BotCanvas.Proofs.Fallible
import BotCanvas.Proofs.Flow.Alike

/-!
# Handlers of canvases that look alike

If two canvases look alike, and the flows of related triggers give related code, then their
handlers come in the same order, have the same names and hold related code. A statement about all
handlers of one canvas compares it with itself.
-/

namespace BotCanvas

open Emit (Matches)

section Results

variable {α β γ δ : Type}
variable {Q : α → β → Prop}
variable {R : γ → δ → Prop}

theorem matches_mono
    {Q' : α → β → Prop}
    {m : Except NumberError α}
    {m' : Except NumberError β}
    (hm : Matches Q m m')
    (hQ : ∀ a b, Q a b → Q' a b) :
    Matches Q' m m' := by
  cases m with
  | error e =>
      cases m' with
      | error e' => exact hm
      | ok b => exact hm.elim
  | ok a =>
      cases m' with
      | error e' => exact hm.elim
      | ok b => exact hQ a b hm

theorem matches_bind
    {m : Except NumberError α}
    {m' : Except NumberError β}
    {f : α → Except NumberError γ}
    {f' : β → Except NumberError δ}
    (hm : Matches Q m m')
    (hf : ∀ a b, Q a b → Matches R (f a) (f' b)) :
    Matches R (m >>= f) (m' >>= f') := by
  cases m with
  | error e =>
      cases m' with
      | error e' => exact hm
      | ok b => exact hm.elim
  | ok a =>
      cases m' with
      | error e' => exact hm.elim
      | ok b => exact hf a b hm

theorem matches_map
    {m : Except NumberError α}
    {m' : Except NumberError β}
    {f : α → γ}
    {f' : β → δ}
    (hm : Matches Q m m')
    (hf : ∀ a b, Q a b → R (f a) (f' b)) :
    Matches R (m.map f) (m'.map f') := by
  cases m with
  | error e =>
      cases m' with
      | error e' => exact hm
      | ok b => exact hm.elim
  | ok a =>
      cases m' with
      | error e' => exact hm.elim
      | ok b => exact hf a b hm

/-- Matching results are equal once what tells them apart is dropped. -/
theorem map_eq_of_matches
    {m : Except NumberError α}
    {m' : Except NumberError β}
    {f : α → γ}
    {f' : β → γ}
    (hm : Matches Q m m')
    (hf : ∀ a b, Q a b → f' b = f a) :
    m'.map f' = m.map f := by
  cases m with
  | error e =>
      cases m' with
      | error e' => exact congrArg Except.error (Eq.symm hm)
      | ok b => exact hm.elim
  | ok a =>
      cases m' with
      | error e' => exact hm.elim
      | ok b => exact congrArg Except.ok (hf a b hm)

/-- Related lists give related lists of results. -/
theorem matches_mapM
    {f : α → Except NumberError γ}
    {f' : β → Except NumberError δ}
    (hf : ∀ a b, Q a b → Matches R (f a) (f' b))
    {l : List α}
    {l' : List β}
    (h : List.Forall₂ Q l l') :
    Matches (List.Forall₂ R) (l.mapM f) (l'.mapM f') := by
  induction h with
  | nil => exact .nil
  | cons hab _ ih =>
      rw [List.mapM_cons, List.mapM_cons]
      refine matches_bind (hf _ _ hab) fun c d hcd => ?_
      exact matches_bind ih fun cs ds hcds => .cons hcd hcds

end Results

/-- Subcommands that differ in their bodies only. -/
structure SubcommandsAlike (R : Code → Code → Prop) (s s' : Subcommand) : Prop where
  name : s'.name = s.name
  description : s'.description = s.description
  body : R s.body s'.body

/-- A block without its names and its place: its type and its properties remain. -/
def Block.contents (b : Block) : Block :=
  ⟨"", b.type, .nan, .nan, b.properties, "", ""⟩

/-- Blocks of the same contents. -/
def Block.SameContents (b b' : Block) : Prop :=
  b'.contents = b.contents

/-- Equal blocks have the same contents. -/
theorem Block.SameContents.of_eq
    {b b' : Block}
    (h : b = b') :
    b.SameContents b' :=
  h ▸ rfl

theorem Block.SameContents.contents
    {b b' : Block}
    (h : b.SameContents b') :
    b'.contents = b.contents :=
  h

/-- Blocks of the same contents have the same type. -/
theorem Block.SameContents.type
    {b b' : Block}
    (h : b.SameContents b') :
    b'.type = b.type := by
  show b'.contents.type = b.contents.type
  rw [h.contents]

/-- Handlers of the same name and kind with related triggers and related code. One with subcommands
has no code of its own. -/
structure UnitsAlike (S : Block → Block → Prop) (R : Code → Code → Prop) (u u' : HandlerUnit) :
    Prop where
  trigger : S u.trigger u'.trigger
  kind : u'.kind = u.kind
  guard : u'.guard = u.guard
  type : TriggerKind.ofType? u.trigger.type = some u.kind
  subcommands : List.Forall₂ (SubcommandsAlike R) u.subcommands u'.subcommands
  slash : u.kind ≠ .slash → u.subcommands = []
  body : u.subcommands = [] → R u.body u'.body
  bodiless : u.subcommands ≠ [] → u'.body = u.body

namespace Dialect

variable {d : Dialect}
variable {ρ : String → String}
variable {T S : Block → Block → Prop}
variable {R Q : Code → Code → Prop}
variable {catalog : Catalog}
variable {mode : Traversal}
variable {c c' : Canvas}

/-- A block of a type that becomes a handler, or the subcommand of one. -/
def BecomesHandler (b : Block) : Prop :=
  (TriggerKind.ofType? b.type).isSome = true ∨ b.type = Flow.subcommandType

/-- Canvases with the same handlers up to the code of related flows: their triggers and wired
subcommands are related one by one, and so are the flows of those. Blocks that become handlers are
related more closely and share their contents. -/
structure HandlersAlike (catalog : Catalog) (mode : Traversal) (T S : Block → Block → Prop)
    (c c' : Canvas) : Prop where
  triggers : List.Forall₂ T (Flow.triggers catalog c) (Flow.triggers catalog c')
  subcommands : ∀ t t', t ∈ Flow.triggers catalog c → TriggerKind.ofType? t.type = some .slash →
    T t t' → List.Forall₂ T (Flow.subcommands c t) (Flow.subcommands c' t')
  flows : ∀ t t', T t t' → StepsAlike T (Flow.linearize catalog mode c (some t))
    (Flow.linearize catalog mode c' (some t'))
  type : ∀ b b', T b b' → b'.type = b.type
  closer : ∀ b b', T b b' → BecomesHandler b → S b b'
  contents : ∀ b b', S b b' → b.SameContents b'

/-- Canvases that look alike have the same handlers up to their code. -/
theorem handlersAlike_of_canvasesAlike
    (hT : KeepsOrder ρ T)
    (hc : CanvasesAlike ρ T c c')
    (hcloser : ∀ b b', T b b' → BecomesHandler b → S b b')
    (hS : ∀ b b', S b b' → b.SameContents b')
    (mode : Traversal) :
    HandlersAlike catalog mode T S c c' where
  triggers := hc.triggers hT
  subcommands := fun _ _ _ _ ht => hc.subcommands hT ht
  flows := fun _ _ ht => hc.linearize hT mode ht
  type := hT.type
  closer := hcloser
  contents := hS

/-- Triggers of the same contents are told apart by the same. -/
theorem guardOf_eq
    {t t' : Block}
    (h : t.SameContents t')
    (kind : TriggerKind) :
    guardOf catalog t' kind = guardOf catalog t kind := by
  have hcontents : ∀ b : Block, guardOf catalog b kind = guardOf catalog b.contents kind := by
    intro b
    cases kind <;> rfl
  rw [hcontents t', h.contents, ← hcontents t]

/-- Subcommands of the same contents have the same name. -/
theorem subcommandName_eq
    {b b' : Block}
    (h : b.SameContents b')
    (index : Nat) :
    subcommandName catalog index b' = subcommandName catalog index b := by
  show subcommandName catalog index b'.contents = subcommandName catalog index b.contents
  rw [h.contents]

/-- Blocks of the same contents have the same values. -/
theorem value_eq
    {b b' : Block}
    (h : b.SameContents b')
    (key : String) :
    (Subject.mk catalog b').value key = (Subject.mk catalog b).value key := by
  show (Subject.mk catalog b'.contents).value key = (Subject.mk catalog b.contents).value key
  rw [h.contents]

/-- The flows of related triggers give related code. -/
theorem flowCode_alike
    (hc : HandlersAlike catalog mode T S c c')
    (hd : (d.codeMeaning catalog).Agree (d.codeMeaning catalog) T R Q)
    {t t' : Block}
    (ht : T t t') :
    Matches Q (d.flowCode catalog mode c t) (d.flowCode catalog mode c' t') := by
  unfold flowCode
  rw [emitFlow_eq, emitFlow_eq]
  exact (hd.flow_alike (hc.flows t t' ht) .empty).2

/-- The subcommands of related commands have related code. -/
theorem subcommandsFrom_alike
    (hc : HandlersAlike catalog mode T S c c')
    (hd : (d.codeMeaning catalog).Agree (d.codeMeaning catalog) T R Q)
    (index : Nat)
    (taken : List Text)
    {l l' : List Block}
    (h : List.Forall₂ (fun b b' => T b b' ∧ b.type = Flow.subcommandType) l l') :
    Matches (List.Forall₂ (SubcommandsAlike Q))
      (d.subcommandsFrom catalog mode c index taken l)
      (d.subcommandsFrom catalog mode c' index taken l') := by
  induction h generalizing index taken with
  | nil => exact .nil
  | @cons b b' l l' hb _ ih =>
      obtain ⟨hb, htype⟩ := hb
      have hcontents := hc.contents b b' (hc.closer b b' hb (.inr htype))
      rw [subcommandsFrom, subcommandsFrom]
      simp only [subcommandName_eq hcontents, value_eq hcontents]
      split
      · exact ih _ _
      · refine matches_bind (flowCode_alike hc hd hb) fun body body' hbody => ?_
        refine matches_bind (ih _ _) fun subs subs' hsubs => ?_
        exact .cons ⟨rfl, rfl, hbody⟩ hsubs

/-- The subcommands on the way from a command are subcommands. -/
theorem type_of_mem_subcommands
    {command b : Block}
    (h : b ∈ Flow.subcommands c command) :
    b.type = Flow.subcommandType := by
  revert b
  refine List.foldlRecOn (motive := fun found : List Block =>
    ∀ {b : Block}, b ∈ found → b.type = Flow.subcommandType) _ _ (by simp) ?_
  intro found hfound e _ b hb
  cases hblock : c.block? e.target with
  | none =>
      rw [hblock] at hb
      exact hfound hb
  | some f =>
      rw [hblock] at hb
      simp only at hb
      split at hb
      · rename_i hf
        rw [Bool.and_eq_true, beq_iff_eq] at hf
        rcases List.mem_append.1 hb with hb | hb
        · exact hfound hb
        · rw [List.mem_singleton.1 hb]
          exact hf.1
      · exact hfound hb

/-- A related pair of lists, one side of which has a property, with the property. -/
theorem forall₂_and_left
    {α β : Type}
    {P : α → Prop}
    {Q : α → β → Prop}
    {l : List α}
    {l' : List β}
    (h : List.Forall₂ Q l l')
    (hP : ∀ a ∈ l, P a) :
    List.Forall₂ (fun a b => Q a b ∧ P a) l l' := by
  induction h with
  | nil => exact .nil
  | cons hab _ ih =>
      exact .cons ⟨hab, hP _ (by simp)⟩ (ih fun a ha => hP a (by simp [ha]))

/-- The subcommands of a trigger of a kind: only slash commands have some. -/
def ownSubcommands (d : Dialect) (catalog : Catalog) (mode : Traversal) (canvas : Canvas)
    (kind : TriggerKind) (trigger : Block) : Except NumberError (List Subcommand) :=
  if kind = .slash then d.subcommandsOf catalog mode canvas trigger else .ok []

/-- The code of a trigger with the given subcommands. -/
def ownBody (d : Dialect) (catalog : Catalog) (mode : Traversal) (canvas : Canvas)
    (trigger : Block) (subcommands : List Subcommand) : Except NumberError Code :=
  if subcommands.isEmpty then d.flowCode catalog mode canvas trigger else .ok (.written [])

theorem handlerUnit_eq
    (mode : Traversal)
    (kind : TriggerKind)
    (t : Block) :
    d.handlerUnit catalog mode c kind t =
      (d.ownSubcommands catalog mode c kind t).bind fun subcommands =>
        (d.ownBody catalog mode c t subcommands).map fun body =>
          ⟨t, kind, guardOf catalog t kind, subcommands, body⟩ := by
  have hbody : ∀ subcommands : List Subcommand,
      (if subcommands.isEmpty then
          (d.flowCode catalog mode c t).bind fun body =>
            .ok (⟨t, kind, guardOf catalog t kind, subcommands, body⟩ : HandlerUnit)
        else .ok ⟨t, kind, guardOf catalog t kind, subcommands, .written []⟩) =
      (d.ownBody catalog mode c t subcommands).map fun body =>
        ⟨t, kind, guardOf catalog t kind, subcommands, body⟩ := by
    intro subcommands
    unfold ownBody
    split
    · cases d.flowCode catalog mode c t <;> rfl
    · rfl
  simp only [← hbody]
  cases kind <;> rfl

/-- The unit of a trigger is that of the related trigger with related code. -/
theorem handlerUnit_alike
    (hc : HandlersAlike catalog mode T S c c')
    (hd : (d.codeMeaning catalog).Agree (d.codeMeaning catalog) T R Q)
    {kind : TriggerKind}
    {t t' : Block}
    (hmem : t ∈ Flow.triggers catalog c)
    (ht : T t t')
    (hkind : TriggerKind.ofType? t.type = some kind) :
    Matches (UnitsAlike S Q) (d.handlerUnit catalog mode c kind t)
      (d.handlerUnit catalog mode c' kind t') := by
  have hcloser : S t t' := hc.closer t t' ht (.inl (by rw [hkind]; rfl))
  have hsubs : Matches
      (fun subs subs' => List.Forall₂ (SubcommandsAlike Q) subs subs' ∧
        (kind ≠ .slash → subs = []))
      (d.ownSubcommands catalog mode c kind t) (d.ownSubcommands catalog mode c' kind t') := by
    unfold ownSubcommands
    split
    · rename_i hslash
      have hblocks := forall₂_and_left (P := fun b => b.type = Flow.subcommandType)
        (hc.subcommands t t' hmem (hslash ▸ hkind) ht) fun b hb => type_of_mem_subcommands hb
      have hsubs := subcommandsFrom_alike hc hd 0 [] hblocks
      exact matches_mono hsubs fun subs subs' h => ⟨h, fun hne => absurd hslash hne⟩
    · exact ⟨.nil, fun _ => rfl⟩
  rw [handlerUnit_eq, handlerUnit_eq, guardOf_eq (hc.contents t t' hcloser)]
  refine matches_bind hsubs fun subs subs' hsubs => ?_
  obtain ⟨hsubs, hslash⟩ := hsubs
  unfold ownBody
  cases hsubs with
  | nil =>
      refine matches_map (flowCode_alike hc hd ht) fun body body' hbody => ?_
      exact ⟨hcloser, rfl, rfl, hkind, .nil, fun _ => rfl, fun _ => hbody, fun h => absurd rfl h⟩
  | cons hsub hrest =>
      exact ⟨hcloser, rfl, rfl, hkind, .cons hsub hrest, hslash, (fun h => by cases h), fun _ => rfl⟩

/-- The units of canvases with the same handlers are alike. -/
theorem handlerUnits_alike
    (hc : HandlersAlike catalog mode T S c c')
    (hd : (d.codeMeaning catalog).Agree (d.codeMeaning catalog) T R Q) :
    Matches (List.Forall₂ (UnitsAlike S Q)) (d.handlerUnits catalog mode c)
      (d.handlerUnits catalog mode c') := by
  unfold handlerUnits
  have htriggers : ∀ kind, List.Forall₂
      (fun b b' => T b b' ∧ b ∈ triggersOf catalog c kind)
      (triggersOf catalog c kind) (triggersOf catalog c' kind) := by
    intro kind
    refine forall₂_and_left (List.rel_filter (fun b b' hb => ?_) hc.triggers) fun _ h => h
    show (TriggerKind.ofType? b.type == some kind) = true ↔
      (TriggerKind.ofType? b'.type == some kind) = true
    rw [hc.type b b' hb]
  have hpairs : List.Forall₂
      (fun p p' : TriggerKind × Block => p'.1 = p.1 ∧ T p.2 p'.2 ∧
        p.2 ∈ triggersOf catalog c p.1)
      (TriggerKind.all.flatMap fun kind => (triggersOf catalog c kind).map fun t => (kind, t))
      (TriggerKind.all.flatMap fun kind => (triggersOf catalog c' kind).map fun t => (kind, t)) := by
    refine List.rel_flatMap (List.forall₂_same.2 fun _ _ => rfl) ?_
    rintro kind _ rfl
    rw [List.forall₂_map_left_iff, List.forall₂_map_right_iff]
    exact (htriggers kind).imp fun b b' hb => ⟨rfl, hb⟩
  refine matches_mapM ?_ hpairs
  rintro ⟨kind, t⟩ ⟨kind', t'⟩ ⟨rfl, ht, hmem⟩
  obtain ⟨hmem, hkind⟩ := List.mem_filter.1 hmem
  exact handlerUnit_alike hc hd hmem ht (by simpa using hkind)

/-- If the reading of flows as code keeps to results of a kind, all handlers hold such code. -/
theorem units_of_keeps
    {P : Block → Prop}
    {R Q : Code → Prop}
    (hd : (d.codeMeaning catalog).Keeps P R Q)
    (hblocks : ∀ b ∈ c.blocks, P b)
    {mode : Traversal}
    {units : List HandlerUnit}
    (h : d.handlerUnits catalog mode c = .ok units) :
    ∀ u ∈ units, UnitsAlike Eq (fun c c' => c = c' ∧ Q c) u u := by
  have hunits := handlerUnits_alike (handlersAlike_of_canvasesAlike (keepsOrder_self P)
    (.self hblocks) (fun _ _ hb _ => hb.1) (fun _ _ => .of_eq) mode) hd.agree
  rw [h] at hunits
  exact List.forall₂_same.1 hunits

/-- Names for the handlers of later units are given out after those for the first. -/
theorem handlers_cons
    (d : Dialect)
    (catalog : Catalog)
    (u : HandlerUnit)
    (rest : List HandlerUnit)
    (tally : Tally) :
    (d.handlers catalog (u :: rest) tally).1 =
      (d.handler catalog (some u.trigger) u.kind u.guard u.body u.subcommands tally).1 ::
        (d.handlers catalog rest
          (d.handler catalog (some u.trigger) u.kind u.guard u.body u.subcommands tally).2).1 := by
  unfold handlers
  rw [List.mapM_cons]
  rfl

/-- All handlers have a property if each has it whatever names were given out before. -/
theorem forall_handlers
    {P : Code → Prop}
    {units : List HandlerUnit}
    (h : ∀ u ∈ units, ∀ tally,
      P (d.handler catalog (some u.trigger) u.kind u.guard u.body u.subcommands tally).1)
    (tally : Tally) :
    ∀ code ∈ (d.handlers catalog units tally).1, P code := by
  induction units generalizing tally with
  | nil => exact fun code (hcode : code ∈ []) => absurd hcode List.not_mem_nil
  | cons u rest ih =>
      rw [handlers_cons]
      exact List.forall_mem_cons.2 ⟨h u (by simp) tally, ih (fun v hv => h v (by simp [hv])) _⟩

/-- Handlers that are alike are registered alike. -/
theorem commands_eq
    (hS : ∀ b b', S b b' → b.SameContents b')
    {units units' : List HandlerUnit}
    (h : List.Forall₂ (UnitsAlike S R) units units')
    (catalog : Catalog) :
    commands catalog units' = commands catalog units := by
  have hfilter : List.Forall₂ (UnitsAlike S R) (units.filter fun u => u.kind == .slash)
      (units'.filter fun u => u.kind == .slash) := by
    refine List.rel_filter (fun u u' hu => ?_) h
    show (u.kind == .slash) = true ↔ (u'.kind == .slash) = true
    rw [hu.kind]
  refine (List.rel_foldl (P := Eq) ?_ rfl hfilter).symm
  rintro specs _ rfl u u' hu
  have hsubs : u'.subcommands.map (fun sub => (sub.name, sub.description)) =
      u.subcommands.map fun sub => (sub.name, sub.description) := by
    refine List.forall₂_eq_eq_eq ▸ ?_
    rw [List.forall₂_map_left_iff, List.forall₂_map_right_iff]
    exact hu.subcommands.flip.imp fun sub' sub hsub => by rw [hsub.name, hsub.description]
  simp only [commandSpec, hu.guard, value_eq (hS _ _ hu.trigger), hsubs]

/-- A program is its units in sections. -/
theorem exists_units
    {mode : Traversal}
    {program : Text}
    (h : d.program catalog mode c = .ok program) :
    ∃ units, d.handlerUnits catalog mode c = .ok units ∧
      program = Text.join d.sectionSeparator ((d.sections catalog c units).map fun code =>
        Text.stripEndChar '\n' (d.write code)) ++ ['\n'] := by
  unfold Dialect.program at h
  cases hunits : d.handlerUnits catalog mode c with
  | error e =>
      rw [hunits] at h
      cases h
  | ok units =>
      rw [hunits] at h
      exact ⟨units, rfl, (Except.ok.inj h).symm⟩

end Dialect

end BotCanvas
