import BotCanvas.Program.Target
import BotCanvas.Proofs.Program.Assembly
import BotCanvas.Proofs.Program.Statements

/-!
# What a program takes from its blocks

A target language writes code from the types and the properties of blocks (`ReadsContents`), and
both languages do no more (`readsContents`). So the same code is written for two blocks of the same
contents, and two canvases with the same handlers up to related flows give the same program
(`program_eq`), however different the names, places and connections are that led to those handlers.
-/

namespace BotCanvas

/-- A target language that takes nothing from a block but its contents. -/
structure Dialect.ReadsContents (d : Dialect) : Prop where
  action : ∀ row ∈ d.actions, ∀ catalog b, row.2 ⟨catalog, b⟩ = row.2 ⟨catalog, b.contents⟩
  choice : ∀ catalog b, d.choice ⟨catalog, b⟩ = d.choice ⟨catalog, b.contents⟩
  gate : ∀ catalog b, d.gate ⟨catalog, b⟩ = d.gate ⟨catalog, b.contents⟩
  recovery : ∀ catalog b, d.recovery ⟨catalog, b⟩ = d.recovery ⟨catalog, b.contents⟩
  handler : ∀ catalog b, d.handler catalog (some b) = d.handler catalog (some b.contents)

/-- The language with braces does. -/
theorem Braced.readsContents :
    Braced.dialect.ReadsContents where
  action := by
    have hrows : (Braced.actions.map fun row => fun catalog b => row.2 ⟨catalog, b⟩) =
        Braced.actions.map fun row => fun catalog b => row.2 ⟨catalog, b.contents⟩ := rfl
    intro row hrow catalog b
    exact congrFun (congrFun (List.map_inj_left.1 hrows row hrow) catalog) b
  choice := fun _ _ => rfl
  gate := fun _ _ => rfl
  recovery := fun _ _ => rfl
  handler := fun _ _ => rfl

/-- The language with suites does. -/
theorem Offside.readsContents :
    Offside.dialect.ReadsContents where
  action := by
    have hrows : (Offside.actions.map fun row => fun catalog b => row.2 ⟨catalog, b⟩) =
        Offside.actions.map fun row => fun catalog b => row.2 ⟨catalog, b.contents⟩ := rfl
    intro row hrow catalog b
    exact congrFun (congrFun (List.map_inj_left.1 hrows row hrow) catalog) b
  choice := fun _ _ => rfl
  gate := fun _ _ => rfl
  recovery := fun _ _ => rfl
  handler := fun _ _ => rfl

/-- Subcommands with the same code are the same. -/
theorem UnitsAlike.subcommands_eq
    {S : Block → Block → Prop}
    {u u' : HandlerUnit}
    (hu : UnitsAlike S Eq u u') :
    u'.subcommands = u.subcommands := by
  refine List.forall₂_eq_eq_eq ▸ hu.subcommands.flip.imp fun sub' sub hsub => ?_
  obtain ⟨hname, hdescription, hbody⟩ := hsub
  cases sub
  cases sub'
  simp_all

/-- Optional values that are equal if they are there are equal. -/
theorem eq_of_rel
    {α : Type}
    {a a' : Option α}
    (h : Option.Rel Eq a a') :
    a = a' := by
  cases h with
  | none => rfl
  | some h => rw [h]

namespace Dialect

variable {d : Dialect}
variable {T : Block → Block → Prop}
variable {catalog : Catalog}
variable {mode : Traversal}
variable {c c' : Canvas}

/-- All target languages do. -/
theorem readsContents
    (hd : d ∈ all) :
    d.ReadsContents := by
  rcases mem_all.1 hd with rfl | rfl
  · exact Braced.readsContents
  · exact Offside.readsContents

namespace ReadsContents

/-- Blocks of the same contents have the same statements. -/
theorem emitAction_eq
    (h : d.ReadsContents)
    {b b' : Block}
    (hb : b.SameContents b') :
    d.emitAction ⟨catalog, b'⟩ = d.emitAction ⟨catalog, b⟩ := by
  unfold emitAction
  simp only [hb.type]
  cases hlookup : d.actions.lookup b.type with
  | none => rfl
  | some action =>
      have haction := h.action _ (mem_of_lookup hlookup) catalog
      show action ⟨catalog, b'⟩ = action ⟨catalog, b⟩
      calc action ⟨catalog, b'⟩
          = action ⟨catalog, b'.contents⟩ := haction b'
        _ = action ⟨catalog, b.contents⟩ := by rw [hb.contents]
        _ = action ⟨catalog, b⟩ := (haction b).symm

/-- Reading flows as code gives the same for blocks of the same contents. -/
theorem agree
    (h : d.ReadsContents)
    (hT : ∀ b b', T b b' → b.SameContents b') :
    (d.codeMeaning catalog).Agree (d.codeMeaning catalog) T Eq Eq where
  type := fun b b' hb => (hT b b' hb).type
  action := fun b b' hb _ => by
    show Emit.Alike Eq (d.emitAction ⟨catalog, b⟩) (d.emitAction ⟨catalog, b'⟩)
    rw [h.emitAction_eq (hT b b' hb)]
    exact .refl _
  choice := fun b b' hb _ yes _ no _ hyes hno => by
    subst hyes hno
    show d.choice ⟨catalog, b⟩ yes no = d.choice ⟨catalog, b'⟩ yes no
    rw [h.choice catalog b', (hT b b' hb).contents, ← h.choice]
  gate := fun b b' hb _ denied _ allowed _ hdenied hallowed => by
    obtain rfl := eq_of_rel hdenied
    obtain rfl := eq_of_rel hallowed
    show d.gate ⟨catalog, b⟩ denied allowed = d.gate ⟨catalog, b'⟩ denied allowed
    rw [h.gate catalog b', (hT b b' hb).contents, ← h.gate]
  recovery := fun b b' hb _ body _ hbody => by
    subst hbody
    show d.recovery ⟨catalog, b⟩ body = d.recovery ⟨catalog, b'⟩ body
    rw [h.recovery catalog b', (hT b b' hb).contents, ← h.recovery]
  idle := rfl
  sequence := fun cs cs' _ hcs => by
    rw [List.forall₂_eq_eq_eq] at hcs
    rw [hcs]

/-- Handlers that are alike become the same code. -/
theorem handlers_eq
    (h : d.ReadsContents)
    {units units' : List HandlerUnit}
    (hunits : List.Forall₂ (UnitsAlike Block.SameContents Eq) units units')
    (tally : Tally) :
    (d.handlers catalog units' tally).1 = (d.handlers catalog units tally).1 := by
  induction hunits generalizing tally with
  | nil => rfl
  | @cons u u' rest rest' hu _ ih =>
      have hhandler : d.handler catalog (some u'.trigger) = d.handler catalog (some u.trigger) := by
        rw [h.handler catalog u'.trigger, hu.trigger.contents, ← h.handler]
      have hbody : u'.body = u.body := by
        by_cases hsubs : u.subcommands = []
        · exact (hu.body hsubs).symm
        · exact hu.bodiless hsubs
      rw [handlers_cons, handlers_cons, hhandler, hu.kind, hu.guard, hu.subcommands_eq, hbody, ih]

/-- Canvases with the same handlers up to flows of the same contents have the same program, or
fail alike. -/
theorem program_eq
    (h : d.ReadsContents)
    (hT : ∀ b b', T b b' → b.SameContents b')
    (hc : HandlersAlike catalog mode T Block.SameContents c c')
    (htypes : c'.types = c.types) :
    d.program catalog mode c' = d.program catalog mode c := by
  refine map_eq_of_matches (handlerUnits_alike hc (h.agree hT)) fun units units' hunits => ?_
  have hsections : d.sections catalog c' units' = d.sections catalog c units := by
    unfold sections
    rw [htypes, commands_eq (fun _ _ hb => hb) hunits]
    exact congrArg (fun codes => _ :: codes ++ _) (h.handlers_eq hunits [])
  rw [hsections]

end ReadsContents

end Dialect

end BotCanvas
