import BotCanvas.Program.Target
import BotCanvas.Proofs.Braced.Balance
import BotCanvas.Proofs.Lint.Brackets
import BotCanvas.Proofs.Program.Assembly

/-!
# Whole programs in the language with braces

The statements of every flow are balanced, by induction over the flow: one case for each kind of
step. So are all handlers, and the program reads from its first to its last character with no
bracket, literal or remark left open.
-/

namespace BotCanvas.Braced

open Lexis

/-- Statements of an action are balanced. -/
theorem gives_balanced
    (s : Subject) :
    Emit.Gives Balanced (dialect.emitAction s) := by
  refine Emit.Gives.of_alike (emitAction_alike (.refl _ s) (.any s)) fun c hc => ?_
  refine Leads.ofEvery (hc.2.mono fun ps hps => ?_)
  obtain ⟨hsuits, hform⟩ := hps
  rw [isStatement, Bool.and_eq_true] at hform
  exact leads_line hsuits hform.1

/-- Emission gives balanced code, step by step. -/
theorem keeps_balanced
    (catalog : Catalog) :
    (dialect.codeMeaning catalog).Keeps (HasPlainCondition catalog) Balanced Balanced where
  action b _ _ := gives_balanced ⟨catalog, b⟩
  choice _ hb htype _ _ hyes hno := balanced_choice htype hb hyes hno
  gate _ _ _ _ _ hdenied hallowed := balanced_gate _ hdenied hallowed
  recovery _ _ _ _ hbody := balanced_recovery _ hbody
  idle := balanced_noop
  sequence _ hne hparts := Chain.stack hne (.ofNeutral hparts [])

/-- The code of every handler is balanced. -/
theorem balanced_units
    {catalog : Catalog}
    {mode : Traversal}
    {canvas : Canvas}
    (hcanvas : ∀ b ∈ canvas.blocks, HasPlainCondition catalog b)
    {units : List HandlerUnit}
    (h : dialect.handlerUnits catalog mode canvas = .ok units) :
    ∀ u ∈ units, Balanced (handler u.kind u.guard u.body u.subcommands) := by
  intro u hu
  have hu := Dialect.units_of_keeps (keeps_balanced catalog) hcanvas h u hu
  refine balanced_handler _ _ (fun hempty => (hu.body hempty).2) (fun sub hsub => ?_) hu.slash
  exact (List.forall₂_same.1 hu.subcommands sub hsub).body.2

/-- The handlers of a program with braces; function names play no part. -/
theorem handlers_eq
    (catalog : Catalog)
    (units : List HandlerUnit) :
    ((dialect.handlers catalog units).run []).1 =
      units.map fun u => handler u.kind u.guard u.body u.subcommands := by
  have hrun : ∀ tally, ((dialect.handlers catalog units).run tally).1 =
      units.map fun u => handler u.kind u.guard u.body u.subcommands := by
    induction units with
    | nil => exact fun _ => rfl
    | cons u rest ih =>
        intro tally
        exact (Dialect.handlers_cons dialect catalog u rest tally).trans (congrArg _ (ih _))
  exact hrun []

/-- The sections of a program are balanced. -/
theorem balanced_sections
    {catalog : Catalog}
    {mode : Traversal}
    {canvas : Canvas}
    (hcanvas : ∀ b ∈ canvas.blocks, HasPlainCondition catalog b)
    {units : List HandlerUnit}
    (h : dialect.handlerUnits catalog mode canvas = .ok units) :
    ∀ c ∈ dialect.sections catalog canvas units, Balanced c := by
  unfold Dialect.sections
  rw [handlers_eq]
  intro c hc
  rw [List.mem_append, List.mem_cons, List.mem_map, List.mem_singleton] at hc
  rcases hc with (rfl | ⟨u, hu, rfl⟩) | rfl
  · exact balanced_header _
  · exact balanced_units hcanvas h u hu
  · exact balanced_footer _

/-- The reader comes through a program with nothing left open. -/
theorem read_program
    {catalog : Catalog}
    {mode : Traversal}
    {canvas : Canvas}
    (hcanvas : ∀ b ∈ canvas.blocks, HasPlainCondition catalog b)
    {program : Text}
    (h : dialect.program catalog mode canvas = .ok program) :
    (lexis true).read (some (.code, [])) program = some (.code, []) := by
  obtain ⟨units, hunits, rfl⟩ := Dialect.exists_units h
  have hleads : Leads (lexis true)
      (Text.join ['\n', '\n'] ((dialect.sections catalog canvas units).map fun c =>
        Text.stripEndChar '\n' (c.write spelling))) [] [] := by
    refine Leads.join 1 fun t ht => ?_
    obtain ⟨c, hc, rfl⟩ := List.mem_map.1 ht
    exact Leads.stripEndChar (balanced_sections hcanvas hunits c hc)
  exact hleads []

end BotCanvas.Braced
