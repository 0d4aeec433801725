import BotCanvas.Proofs.Offside.Edge

/-!
# What handlers declare

A handler declares what its plan says under the names that it gets (`declared`), whatever statements
it holds. Hence a program declares what the plans of its canvas say, one after another, with the
names of one tally (`declarations_program`).
-/

namespace BotCanvas.Offside

open Text (IsVariable)

/-- What a handler declares under the names that it got. -/
def declared (p : HandlerPlan) (names : List Text) : List Declaration :=
  match p.kind with
  | .slash =>
      if p.subcommands.isEmpty then .command p.guard :: names.map .function
      else
        match names with
        | [] => []
        | group :: functions =>
            .group group p.guard :: (functions.map .function ++ [.addition group])
  | _ => names.map .function

/-- What handlers declare, given the names that were given out before. -/
def declaredAfter (t : Tally) : List HandlerPlan → List Declaration
  | [] => []
  | p :: rest => declared p (t.names (requests p)) ++ declaredAfter (t.after (requests p)) rest

/-- The rows of functions declare them. -/
theorem filterMap_functionRow
    {names : List Text}
    (hnames : ∀ name ∈ names, IsVariable name)
    (parameters : String) :
    (names.map (functionRow · parameters)).filterMap declaration? = names.map .function := by
  rw [List.filterMap_map, ← List.filterMap_eq_map]
  refine List.filterMap_congr fun name hname => ?_
  exact declaration?_function (hnames name hname) parameters.toList

/-- The rows of subcommands declare the functions under them. -/
theorem filterMap_subcommandRow
    {group : Text}
    (hgroup : IsVariable group)
    (subcommands : List (Text × Text))
    {functions : List Text}
    (hfunctions : ∀ name ∈ functions, IsVariable name)
    (hlength : functions.length ≤ subcommands.length) :
    ((subcommands.zip functions).flatMap fun p =>
        [subcommandRow group p.1.1 p.1.2, functionRow p.2 ": discord.Interaction):"]).filterMap
      declaration? = functions.map .function := by
  have hpart : ∀ p ∈ subcommands.zip functions,
      [subcommandRow group p.1.1 p.1.2, functionRow p.2 ": discord.Interaction):"].filterMap
        declaration? = [.function p.2] := by
    intro p hp
    have hdecorator : declaration? (subcommandRow group p.1.1 p.1.2) = none :=
      declaration?_decorator hgroup (by decide) rfl
    have hfunction : declaration? (functionRow p.2 ": discord.Interaction):") =
        some (.function p.2) :=
      declaration?_function (hfunctions p.2 (List.of_mem_zip hp).2) _
    rw [List.filterMap_cons_none hdecorator, List.filterMap_cons_some hfunction, List.filterMap_nil]
  have hsnd : (subcommands.zip functions).map Prod.snd = functions := List.map_snd_zip hlength
  rw [List.filterMap_flatMap, List.flatMap_congr hpart, ← hsnd, List.map_map, hsnd,
    List.map_eq_flatMap]
  rfl

/-- The edge of a handler declares what its plan says. -/
theorem filterMap_edgeRows
    (catalog : Catalog)
    {u : HandlerUnit}
    (htype : TriggerKind.ofType? u.trigger.type = some u.kind)
    (t : Tally) :
    (edgeRows catalog u (t.names (requests u.plan))).filterMap declaration? =
      declared u.plan (t.names (requests u.plan)) := by
  have hnames : ∀ name ∈ t.names (requests u.plan), IsVariable name := fun name hname =>
    isVariable_of_mem_names (fun base => isVariable_of_mem_requests htype) hname
  have hlength := length_names t (requests u.plan)
  generalize t.names (requests u.plan) = names at hnames hlength
  obtain ⟨trigger, kind, guard, subcommands, body⟩ := u
  cases kind with
  | slash =>
      cases subcommands with
      | nil =>
          have hcommand : ∀ summary, declaration? (commandRow guard summary) =
              some (.command guard) := fun summary => declaration?_command guard _
          exact (List.filterMap_cons_some (hcommand _)).trans
            (congrArg (_ :: ·) (filterMap_functionRow hnames _))
      | cons sub rest =>
          have hcount : names.length = (sub :: rest).length + 1 :=
            hlength.trans (congrArg (· + 1) ((List.length_map _).trans (List.length_map _)))
          obtain ⟨group, functions, rfl⟩ := List.exists_cons_of_length_eq_add_one hcount
          have hfunctions : functions.length =
              ((sub :: rest).map fun sub => (sub.name, sub.description)).length :=
            (Nat.succ.inj hcount).trans (List.length_map _).symm
          rw [List.forall_mem_cons] at hnames
          obtain ⟨hgroup, hvariables⟩ := hnames
          have hcommand : ∀ summary, declaration? (groupRow group guard summary) =
              some (.group group guard) := fun summary => declaration?_group hgroup guard _
          have haddition : declaration? (additionRow group) = some (.addition group) :=
            declaration?_addition hgroup
          have hparts := filterMap_subcommandRow hgroup
            ((sub :: rest).map fun sub => (sub.name, sub.description)) hvariables hfunctions.le
          refine (List.filterMap_cons_some (hcommand _)).trans (congrArg (_ :: ·) ?_)
          refine List.filterMap_append.trans (congrArg₂ (· ++ ·) hparts ?_)
          exact List.filterMap_cons_some haddition
  | component =>
      have hlisten : declaration? "@bot.listen('on_interaction')".toList = none := by decide
      exact (List.filterMap_cons_none hlisten).trans (filterMap_functionRow hnames _)
  | event =>
      have hlisten : declaration?
          ("@bot.listen('on_".toList ++ (eventName guard ++ "')".toList)) = none :=
        declaration?_decorator (.ofString (s := "bot") (by decide)) (c := '.') (by decide)
          (r := "listen('on_".toList ++ (eventName guard ++ "')".toList)) rfl
      exact (List.filterMap_cons_none hlisten).trans (filterMap_functionRow hnames _)

/-- The edges of handlers declare what their plans say, one after another. -/
theorem filterMap_edgeAfter
    (catalog : Catalog)
    {units : List HandlerUnit}
    (htype : ∀ u ∈ units, TriggerKind.ofType? u.trigger.type = some u.kind)
    (t : Tally) :
    (edgeAfter catalog t units).filterMap declaration? =
      declaredAfter t (units.map HandlerUnit.plan) := by
  induction units generalizing t with
  | nil => rfl
  | cons u rest ih =>
      rw [List.forall_mem_cons] at htype
      rw [edgeAfter, List.filterMap_append, filterMap_edgeRows catalog htype.1, ih htype.2]
      rfl

/-- A program declares what the plans of its canvas say, with names given out from the start. -/
theorem declarations_program
    {catalog : Catalog}
    {mode : Traversal}
    {canvas : Canvas}
    {program : Text}
    (h : dialect.program catalog mode canvas = .ok program) :
    declarations program = declaredAfter [] (Dialect.plans catalog canvas) := by
  obtain ⟨units, hunits, htype, hedge⟩ :=
    filterMap_edge_program declaration? (by decide) (by decide) h
  rw [declarations_eq, hedge, filterMap_edgeAfter catalog htype,
    Dialect.map_plan_handlerUnits hunits]

end BotCanvas.Offside
