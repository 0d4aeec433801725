import BotCanvas.Proofs.Offside.Declarations
import BotCanvas.Proofs.Offside.Frames
import BotCanvas.Proofs.Program.Plan
import BotCanvas.Proofs.Program.Tally
import Mathlib.Data.List.Flatten

/-!
# The left edge of handlers

A handler asks for base names (`requests`). Under the names that it gets, a few rows of it stand at
the left edge (`edgeRows`): decorators, first lines of functions, and the rows of a group. They are
settled by what the handler is registered as, whatever statements it holds (`edge_handler`).

**Programs.** Who reads a program at its edge reads the rows of its handlers, one after another, if
there is nothing to read in the header and the footer (`filterMap_edge_program`).
-/

namespace BotCanvas.Offside

open Text (IsVariable)

/-- The base names that a handler asks for, in order. -/
def requests (p : HandlerPlan) : List Text :=
  match p.kind with
  | .slash =>
      let base := Name.identifier "command" p.guard
      if p.subcommands.isEmpty then [base ++ "_command".toList]
      else (base ++ "_group".toList) :: p.subcommands.map fun name =>
        base ++ '_' :: (Name.identifier "sub" name ++ "_command".toList)
  | .component => [p.type.toList ++ '_' :: Name.identifier "component" p.guard]
  | .event => [Name.identifier "value" (eventName p.guard ++ "_listener".toList)]

/-! ## Variables -/

/-- The function of a subcommand is a variable. -/
theorem isVariable_subcommand
    {base : Text}
    (hbase : IsVariable base)
    (name : Text) :
    IsVariable (base ++ '_' :: (Name.identifier "sub" name ++ "_command".toList)) := by
  have hown : IsVariable (Name.identifier "sub" name) := .identifier "sub" (by decide) name
  refine hbase.append (List.forall_mem_cons.2 ⟨by decide, ?_⟩)
  exact (hown.append (IsVariable.ofString (s := "_command") (by decide)).2).2

/-- The function of a component is a variable. -/
theorem isVariable_component
    {type : String}
    {kind : TriggerKind}
    (htype : TriggerKind.ofType? type = some kind)
    (guard : Text) :
    IsVariable (type.toList ++ '_' :: Name.identifier "component" guard) := by
  have hplain : ∀ p ∈ TriggerKind.table,
      (!p.1.toList.isEmpty && p.1.toList.all Text.isPlain) = true :=
    List.all_eq_true.1 (by decide)
  have hname : IsVariable (Name.identifier "component" guard) :=
    .identifier "component" (by decide) guard
  refine (IsVariable.ofString (hplain _ (mem_of_lookup htype))).append ?_
  exact List.forall_mem_cons.2 ⟨by decide, hname.2⟩

/-- Handlers ask for variables. -/
theorem isVariable_of_mem_requests
    {p : HandlerPlan}
    (htype : TriggerKind.ofType? p.type = some p.kind)
    {base : Text}
    (h : base ∈ requests p) :
    IsVariable base := by
  obtain ⟨type, kind, guard, subcommands⟩ := p
  have hcommand : IsVariable (Name.identifier "command" guard) :=
    .identifier "command" (by decide) guard
  cases kind with
  | slash =>
      cases subcommands with
      | nil =>
          rw [List.mem_singleton.1 h]
          exact hcommand.append (IsVariable.ofString (s := "_command") (by decide)).2
      | cons name names =>
          rcases List.mem_cons.1 h with rfl | h
          · exact hcommand.append (IsVariable.ofString (s := "_group") (by decide)).2
          · obtain ⟨own, -, rfl⟩ := List.mem_map.1 h
            exact isVariable_subcommand hcommand own
  | component =>
      rw [List.mem_singleton.1 h]
      exact isVariable_component htype guard
  | event =>
      rw [List.mem_singleton.1 h]
      exact .identifier "value" (by decide) _

/-- Names given out for variables are variables. -/
theorem isVariable_of_mem_names
    {bases : List Text}
    (hbases : ∀ base ∈ bases, IsVariable base)
    {t : Tally}
    {name : Text}
    (h : name ∈ t.names bases) :
    IsVariable name := by
  induction bases generalizing t with
  | nil => cases h
  | cons base rest ih =>
      rw [List.forall_mem_cons] at hbases
      rcases List.mem_cons.1 h with rfl | h
      · exact hbases.1.nextName t
      · exact ih hbases.2 h

/-- Every request gets a name. -/
theorem length_names
    (t : Tally)
    (bases : List Text) :
    (t.names bases).length = bases.length := by
  induction bases generalizing t with
  | nil => rfl
  | cons base rest ih => exact congrArg (· + 1) (ih (t.bump base))

/-! ## Rows at the left edge -/

/-- A name and a description as the arguments of a call, from the first literal to the end of the
row. -/
def arguments (name description : Text) : Text :=
  escape name ++ ("\", description=\"".toList ++ (escape description ++ "\")".toList))

/-- The decorator of a command. -/
def commandRow (name description : Text) : Text :=
  "@bot.tree.command(name=\"".toList ++ arguments name description

/-- The assignment of a group to a variable. -/
def groupRow (group name description : Text) : Text :=
  group ++ (" = discord.app_commands.Group(name=\"".toList ++ arguments name description)

/-- The decorator of a subcommand. -/
def subcommandRow (group name description : Text) : Text :=
  '@' :: (group ++ (".command(name=\"".toList ++ arguments name description))

/-- The registration of a group. -/
def additionRow (group : Text) : Text :=
  "bot.tree.add_command(".toList ++ (group ++ ")".toList)

/-- The first line of a function. -/
def functionRow (name : Text) (parameters : String) : Text :=
  "async def ".toList ++ (name ++ ("(interaction".toList ++ parameters.toList))

/-- The rows of a command at the edge, under the names that it got. -/
def commandRows (spec : CommandSpec) (names : List Text) : List Text :=
  if spec.subcommands.isEmpty then
    commandRow spec.name spec.description ::
      names.map (functionRow · ": discord.Interaction):")
  else
    match names with
    | [] => []
    | group :: functions =>
        groupRow group spec.name spec.description ::
          ((spec.subcommands.zip functions).flatMap (fun p =>
            [subcommandRow group p.1.1 p.1.2, functionRow p.2 ": discord.Interaction):"]) ++
              [additionRow group])

/-- The rows of a handler at the edge, under the names that it got. -/
def edgeRows (catalog : Catalog) (u : HandlerUnit) (names : List Text) : List Text :=
  match u.kind with
  | .slash => commandRows (Dialect.commandSpec catalog u) names
  | .component =>
      "@bot.listen('on_interaction')".toList ::
        names.map (functionRow · ": discord.Interaction):")
  | .event =>
      ("@bot.listen('on_".toList ++ (eventName u.guard ++ "')".toList)) ::
        names.map (functionRow · "=None, *args):")

/-- The rows of handlers at the edge, given the names that were given out before. -/
def edgeAfter (catalog : Catalog) (t : Tally) : List HandlerUnit → List Text
  | [] => []
  | u :: rest =>
      edgeRows catalog u (t.names (requests u.plan)) ++
        edgeAfter catalog (t.after (requests u.plan)) rest

/-- A user's text in a literal adds no row. -/
theorem lineFeed_not_mem_literal
    (t : Text) :
    '\n' ∉ (Piece.literal t).write spelling :=
  quoted_spells.lineFeed_not_mem t

/-- A variable is at the edge. -/
theorem isAtEdge_append
    {s : Text}
    (hs : IsVariable s)
    (r : Text) :
    Text.isAtEdge (s ++ r) = true := by
  obtain ⟨hne, hword⟩ := hs
  obtain ⟨c, s, rfl⟩ := List.exists_cons_of_ne_nil hne
  have hc : Text.isBlank c = false := Text.not_isBlank_of_class (.inl (hword c (by simp)))
  rw [List.cons_append, Text.isAtEdge, hc]
  rfl

theorem edge_commandLine
    (name summary : Text) :
    Code.edge spelling (.line ["@bot.tree.command(name=\"", .literal name, "\", description=\"",
      .literal summary, "\")"]) = [commandRow name summary] := by
  rw [Code.edge_line]
  · rfl
  · simp only [List.forall_mem_cons]
    exact ⟨by decide, lineFeed_not_mem_literal name, by decide, lineFeed_not_mem_literal summary,
      by decide, by simp⟩

theorem edge_groupLine
    {group : Text}
    (hgroup : IsVariable group)
    (name summary : Text) :
    Code.edge spelling (.line [.name group, " = discord.app_commands.Group(name=\"",
      .literal name, "\", description=\"", .literal summary, "\")"]) =
      [groupRow group name summary] := by
  have hrow : [Piece.name group, " = discord.app_commands.Group(name=\"", .literal name,
      "\", description=\"", .literal summary, "\")"].flatMap (Piece.write spelling) =
      groupRow group name summary := rfl
  rw [Code.edge_line, hrow, groupRow, if_pos (isAtEdge_append hgroup _)]
  · simp only [List.forall_mem_cons]
    exact ⟨hgroup.lineFeed_not_mem, by decide, lineFeed_not_mem_literal name, by decide,
      lineFeed_not_mem_literal summary, by decide, by simp⟩

theorem edge_subcommandLine
    {group : Text}
    (hgroup : IsVariable group)
    (name summary : Text) :
    Code.edge spelling (.line ["@", .name group, ".command(name=\"", .literal name,
      "\", description=\"", .literal summary, "\")"]) = [subcommandRow group name summary] := by
  rw [Code.edge_line]
  · rfl
  · simp only [List.forall_mem_cons]
    exact ⟨by decide, hgroup.lineFeed_not_mem, by decide, lineFeed_not_mem_literal name,
      by decide, lineFeed_not_mem_literal summary, by decide, by simp⟩

theorem edge_additionLine
    {group : Text}
    (hgroup : IsVariable group) :
    Code.edge spelling (.line ["bot.tree.add_command(", .name group, ")"]) =
      [additionRow group] := by
  rw [Code.edge_line]
  · rfl
  · simp only [List.forall_mem_cons]
    exact ⟨by decide, hgroup.lineFeed_not_mem, by decide, by simp⟩

theorem edge_functionLine
    {name : Text}
    (hname : IsVariable name) :
    Code.edge spelling (functionLine name) = [functionRow name ": discord.Interaction):"] := by
  rw [functionLine, Code.edge_line]
  · rfl
  · simp only [List.forall_mem_cons]
    exact ⟨by decide, hname.lineFeed_not_mem, by decide, by simp⟩

theorem edge_deeper
    (c : Code) :
    Code.edge spelling c.deeper = [] :=
  Code.edge_nest (n := 3) rfl 0 c

/-! ## Handlers -/

/-- Empty rows between parts are not at the edge. -/
theorem edge_spaced
    (parts : List Code) :
    Code.edge spelling (spaced parts) = parts.flatMap (Code.edge spelling) := by
  have hparts : (spacedParts parts).flatMap (Code.edge spelling) =
      parts.flatMap (Code.edge spelling) := by
    induction parts with
    | nil => rfl
    | cons c rest ih =>
        cases rest with
        | nil => rfl
        | cons d rest =>
            have hcons : spacedParts (c :: d :: rest) =
                c :: .written [] :: .written [] :: spacedParts (d :: rest) := rfl
            rw [hcons, List.flatMap_cons, List.flatMap_cons, List.flatMap_cons, ih,
              List.flatMap_cons]
            rfl
  exact (Code.edge_stack (spacedParts parts)).trans hparts

/-- The parts of a group have their decorators and the first lines of their functions at the
edge. -/
theorem edge_groupParts
    {group base : Text}
    (hgroup : IsVariable group)
    (hbase : IsVariable base)
    (guard : Text)
    (subcommands : List Subcommand)
    (t : Tally) :
    let bases := (subcommands.map Subcommand.name).map fun name =>
      base ++ '_' :: (Name.identifier "sub" name ++ "_command".toList)
    (groupParts group base guard subcommands t).1.flatMap (Code.edge spelling) =
        ((subcommands.map fun sub => (sub.name, sub.description)).zip (t.names bases)).flatMap
          (fun p => [subcommandRow group p.1.1 p.1.2,
            functionRow p.2 ": discord.Interaction):"]) ∧
      (groupParts group base guard subcommands t).2 = t.after bases := by
  induction subcommands generalizing t with
  | nil => exact ⟨rfl, rfl⟩
  | cons sub rest ih =>
      obtain ⟨hparts, htally⟩ := ih
        (t.bump (base ++ '_' :: (Name.identifier "sub" sub.name ++ "_command".toList)))
      have hfunction := (isVariable_subcommand hbase sub.name).nextName t
      have hpart : Code.edge spelling (.stack
          [.line ["@", .name group, ".command(name=\"", .literal sub.name, "\", description=\"",
            .literal sub.description, "\")"],
           functionLine (t.nextName
            (base ++ '_' :: (Name.identifier "sub" sub.name ++ "_command".toList))),
           (handlerBody (guard ++ ' ' :: sub.name) sub.body true).deeper]) =
          [subcommandRow group sub.name sub.description, functionRow (t.nextName
            (base ++ '_' :: (Name.identifier "sub" sub.name ++ "_command".toList)))
            ": discord.Interaction):"] := by
        simp only [Code.edge_stack, List.flatMap_cons, List.flatMap_nil,
          edge_subcommandLine hgroup, edge_functionLine hfunction, edge_deeper,
          List.singleton_append, List.append_nil]
      exact ⟨congrArg₂ (· ++ ·) hpart hparts, htally⟩

/-- A command with subcommands has its group, its parts and its registration at the edge. -/
theorem edge_commandGroup
    (guard summary : Text)
    {base : Text}
    (hbase : IsVariable base)
    {subcommands : List Subcommand}
    (hne : subcommands ≠ [])
    (t : Tally) :
    let bases := (base ++ "_group".toList) :: (subcommands.map Subcommand.name).map fun name =>
      base ++ '_' :: (Name.identifier "sub" name ++ "_command".toList)
    Code.edge spelling (commandGroup guard summary base subcommands t).1 =
        commandRows ⟨guard, summary, subcommands.map fun sub => (sub.name, sub.description)⟩
          (t.names bases) ∧
      (commandGroup guard summary base subcommands t).2 = t.after bases := by
  have hgroup : IsVariable (t.nextName (base ++ "_group".toList)) :=
    (hbase.append (IsVariable.ofString (s := "_group") (by decide)).2).nextName t
  obtain ⟨hparts, htally⟩ := edge_groupParts hgroup hbase guard subcommands
    (t.bump (base ++ "_group".toList))
  refine ⟨?_, htally⟩
  refine (edge_spaced _).trans ?_
  rw [List.flatMap_cons, List.flatMap_append, edge_groupLine hgroup, hparts,
    List.flatMap_singleton, edge_additionLine hgroup]
  obtain ⟨sub, rest, rfl⟩ := List.exists_cons_of_ne_nil hne
  rfl

/-- The edge of a handler under the names that it gets; it asks for just these. -/
theorem edge_handler
    (catalog : Catalog)
    (u : HandlerUnit)
    (htype : TriggerKind.ofType? u.trigger.type = some u.kind)
    (t : Tally) :
    let result := handler catalog (some u.trigger) u.kind u.guard u.body u.subcommands t
    Code.edge spelling result.1 = edgeRows catalog u (t.names (requests u.plan)) ∧
      result.2 = t.after (requests u.plan) := by
  have hnames : ∀ name ∈ t.names (requests u.plan), IsVariable name := fun name hname =>
    isVariable_of_mem_names (fun base => isVariable_of_mem_requests htype) hname
  obtain ⟨trigger, kind, guard, subcommands, body⟩ := u
  cases kind with
  | slash =>
      cases subcommands with
      | nil =>
          have hfunction : IsVariable (t.nextName
              (Name.identifier "command" guard ++ "_command".toList)) :=
            hnames _ List.mem_cons_self
          refine ⟨?_, rfl⟩
          refine (Code.edge_stack _).trans ?_
          rw [List.flatMap_cons, List.flatMap_cons, List.flatMap_singleton, edge_commandLine,
            edge_functionLine hfunction, edge_deeper]
          rfl
      | cons sub rest =>
          have hbase : IsVariable (Name.identifier "command" guard) :=
            .identifier "command" (by decide) guard
          exact edge_commandGroup guard
            ((summaryOf catalog (some trigger)).asDescription "A bot command") hbase (by simp) t
  | component =>
      have hfunction : IsVariable (t.nextName
          (trigger.type.toList ++ '_' :: Name.identifier "component" guard)) :=
        hnames _ List.mem_cons_self
      have hlisten : Code.edge spelling "@bot.listen('on_interaction')" =
          ["@bot.listen('on_interaction')".toList] := by decide
      have htest : Code.edge spelling (.line
          ["    if interaction.data and interaction.data.get('custom_id') == \"",
            .literal guard, "\":"]) = [] := by
        rw [Code.edge_line]
        · rfl
        · simp only [List.forall_mem_cons]
          exact ⟨by decide, lineFeed_not_mem_literal guard, by decide, by simp⟩
      refine ⟨?_, rfl⟩
      refine (Code.edge_stack _).trans ?_
      rw [List.flatMap_cons, List.flatMap_cons, List.flatMap_cons, List.flatMap_singleton, htest,
        Code.edge_nest (n := 3) rfl 1]
      exact congrArg₂ (· ++ ·) hlisten (congrArg (· ++ []) (edge_functionLine hfunction))
  | event =>
      have hfunction : IsVariable (t.nextName
          (Name.identifier "value" (eventName guard ++ "_listener".toList))) :=
        hnames _ List.mem_cons_self
      have hlisten : Code.edge spelling
          (.line ["@bot.listen('on_", .name (eventName guard), "')"]) =
          ["@bot.listen('on_".toList ++ (eventName guard ++ "')".toList)] := by
        rw [Code.edge_line]
        · rfl
        · simp only [List.forall_mem_cons]
          exact ⟨by decide, (isName_eventName guard).lineFeed_not_mem, by decide, by simp⟩
      have hline : ∀ name : Text, IsVariable name → Code.edge spelling
          (.line ["async def ", .name name, "(interaction=None, *args):"]) =
            [functionRow name "=None, *args):"] := by
        intro name hname
        rw [Code.edge_line]
        · rfl
        · simp only [List.forall_mem_cons]
          exact ⟨by decide, hname.lineFeed_not_mem, by decide, by simp⟩
      refine ⟨?_, rfl⟩
      refine (Code.edge_stack _).trans ?_
      rw [List.flatMap_cons, List.flatMap_cons, List.flatMap_singleton, hlisten,
        hline _ hfunction, edge_deeper]
      rfl

/-! ## Programs -/

/-- Handlers have their edges one after another. -/
theorem edge_handlers
    (catalog : Catalog)
    {units : List HandlerUnit}
    (htype : ∀ u ∈ units, TriggerKind.ofType? u.trigger.type = some u.kind)
    (t : Tally) :
    (dialect.handlers catalog units t).1.flatMap (Code.edge spelling) =
      edgeAfter catalog t units := by
  induction units generalizing t with
  | nil => rfl
  | cons u rest ih =>
      rw [List.forall_mem_cons] at htype
      obtain ⟨hhandler, htally⟩ := edge_handler catalog u htype.1 t
      rw [Dialect.handlers_cons, List.flatMap_cons]
      refine congrArg₂ (· ++ ·) hhandler ((ih htype.2 _).trans ?_)
      exact congrArg (edgeAfter catalog · rest) htally

/-- The header with all imports. -/
def fullHeader : Code :=
  header ["math_advanced", "http_request"]

/-- Every header has some rows of the one with all imports. -/
theorem edge_header_sublist
    (types : List String) :
    (Code.edge spelling (header types)).Sublist (Code.edge spelling fullHeader) := by
  have hchoice : ∀ (test : Bool) (parts : List Code),
      (if test then parts else []).Sublist parts := by
    intro test parts
    cases test with
    | true => exact .refl parts
    | false => exact List.nil_sublist parts
  rw [header, Code.edge_stack, fullHeader, header, Code.edge_stack]
  refine List.Sublist.flatMap ?_ _
  exact ((((List.Sublist.refl _).append (hchoice _ _)).append (.refl _)).append
    (hchoice _ _)).append (.refl _)

/-- What is read from the edge of a program is read from its handlers, if the header and the footer
hold nothing to read. -/
theorem filterMap_edge_program
    {α : Type}
    (read : Text → Option α)
    (hheader : (Code.edge spelling fullHeader).filterMap read = [])
    (hfooter : (Code.edge spelling (footer [])).filterMap read = [])
    {catalog : Catalog}
    {mode : Traversal}
    {canvas : Canvas}
    {program : Text}
    (h : dialect.program catalog mode canvas = .ok program) :
    ∃ units, dialect.handlerUnits catalog mode canvas = .ok units ∧
      (∀ u ∈ units, TriggerKind.ofType? u.trigger.type = some u.kind) ∧
      (Text.edge program).filterMap read = (edgeAfter catalog [] units).filterMap read := by
  obtain ⟨units, hunits, hedge⟩ := Dialect.edge_program (d := dialect) 2 rfl h
  have htype : ∀ u ∈ units, TriggerKind.ofType? u.trigger.type = some u.kind := fun u hu =>
    Dialect.ofType?_of_mem_plans
      (Dialect.map_plan_handlerUnits hunits ▸ List.mem_map_of_mem hu)
  have hstart : (Code.edge spelling (header canvas.types)).filterMap read = [] := by
    rw [← List.sublist_nil, ← hheader]
    exact (edge_header_sublist canvas.types).filterMap read
  have hhandlers : ((dialect.handlers catalog units).run []).1.flatMap (Code.edge spelling) =
      edgeAfter catalog [] units := edge_handlers catalog htype []
  have hparts : Text.edge program = Code.edge spelling (header canvas.types) ++
      (((dialect.handlers catalog units).run []).1.flatMap (Code.edge spelling) ++
        Code.edge spelling (footer [])) := by
    rw [hedge, Dialect.sections, List.flatMap_append, List.flatMap_cons, List.flatMap_singleton,
      List.append_assoc]
    rfl
  refine ⟨units, hunits, htype, ?_⟩
  rw [hparts, hhandlers, List.filterMap_append, List.filterMap_append, hstart, hfooter,
    List.nil_append, List.append_nil]

end BotCanvas.Offside
