import BotCanvas.Proofs.Offside.Registration

/-!
# The tree of commands

Besides the names of commands, the rows at the left edge of a program hold their descriptions, and
the decorators of subcommands (`signature?`). Read from top to bottom they build a tree: a group
collects the subcommands that are declared while a variable holds it, until it is added
(`commandTree?`).

So a program has all slash commands of its canvas in its tree, in document order and with all their
subcommands: a function never takes the variable of a group before the group is added
(`commandTree_program`).
-/

namespace BotCanvas.Offside

open Text (IsVariable)

/-! ## Reading rows -/

/-- What a row at the left edge does to the tree of commands. -/
inductive Signature
  /-- The function below is added as a command. -/
  | command (name description : Text)
  /-- A variable holds a new group. -/
  | group (holder name description : Text)
  /-- The function below is added to the group in a variable. -/
  | subcommand (holder name description : Text)
  /-- A variable holds a function. -/
  | function (holder : Text)
  /-- The group in a variable is added. -/
  | addition (holder : Text)
  deriving DecidableEq

/-- The name and the description in a call, from the first literal to the end of the row. -/
def arguments? (t : Text) : Option (Text × Text) :=
  (quoted.read t).bind fun (name, r) =>
    (r.dropPrefix? ", description=\"".toList).bind fun r =>
      (quoted.read r).bind fun (description, r) =>
        if r = [')'] then some (name, description) else none

/-- What a decorator does, given its first word and what follows it. -/
def decorated? (word rest : Text) : Option Signature :=
  match rest.dropPrefix? ".command(name=\"".toList with
  | some r => (arguments? r).map fun (name, description) => .subcommand word name description
  | none =>
      if word = "bot".toList then
        ((rest.dropPrefix? ".tree.command(name=\"".toList).bind arguments?).map
          fun (name, description) => .command name description
      else none

/-- What a statement does that declares something. -/
def stated? (row : Text) : Declaration → Option Signature
  | .command _ => none
  | .function holder => some (.function holder)
  | .group holder _ =>
      (((row.dropWhile Text.isWord).dropPrefix?
        " = discord.app_commands.Group(name=\"".toList).bind arguments?).map
          fun (name, description) => .group holder name description
  | .addition holder => some (.addition holder)

/-- What a row does. -/
def signature? : Text → Option Signature
  | [] => none
  | c :: r =>
      if c = '@' then decorated? (r.takeWhile Text.isWord) (r.dropWhile Text.isWord)
      else (declaration? (c :: r)).bind (stated? (c :: r))

/-- The commands that rows add to the tree, given the group that each variable holds; nothing if a
variable is used for a group and holds none. -/
def commandsFrom? (held : Text → Option CommandSpec) :
    List Signature → Option (List CommandSpec)
  | [] => some []
  | .command name description :: rest =>
      (commandsFrom? held rest).map (⟨name, description, []⟩ :: ·)
  | .group holder name description :: rest =>
      commandsFrom? (Function.update held holder (some ⟨name, description, []⟩)) rest
  | .subcommand holder name description :: rest =>
      (held holder).bind fun group =>
        commandsFrom? (Function.update held holder
          (some { group with subcommands := group.subcommands ++ [(name, description)] })) rest
  | .function holder :: rest => commandsFrom? (Function.update held holder none) rest
  | .addition holder :: rest =>
      (held holder).bind fun group => (commandsFrom? held rest).map (group :: ·)

/-- The commands that a program adds to its tree, in order. -/
def commandTree? (program : Text) : Option (List CommandSpec) :=
  commandsFrom? (fun _ => none) ((Text.edge program).filterMap signature?)

/-! ## Rows of handlers -/

/-- Arguments are read back. -/
theorem arguments?_arguments
    (name description : Text) :
    arguments? (arguments name description) = some (name, description) := by
  have hname : quoted.read (arguments name description) =
      some (name, ", description=\"".toList ++ (escape description ++ "\")".toList)) :=
    quoted_spells.read_append name _
  have hdescription : quoted.read (escape description ++ "\")".toList) =
      some (description, [')']) := quoted_spells.read_append description [')']
  have hrest := Text.dropPrefix?_append ", description=\"".toList
    (escape description ++ "\")".toList)
  simp only [arguments?, hname, Option.bind_some, hrest, hdescription, if_true]

theorem signature?_commandRow
    (name description : Text) :
    signature? (commandRow name description) = some (.command name description) := by
  have hbot : IsVariable "bot".toList := .ofString (by decide)
  have hrow : commandRow name description = '@' :: ("bot".toList ++ '.' ::
      ("tree.command(name=\"".toList ++ arguments name description)) := rfl
  have hown : ('.' :: ("tree.command(name=\"".toList ++ arguments name description)).dropPrefix?
      ".command(name=\"".toList = none := rfl
  have hrest : ('.' :: ("tree.command(name=\"".toList ++ arguments name description)).dropPrefix?
      ".tree.command(name=\"".toList = some (arguments name description) :=
    Text.dropPrefix?_append _ _
  rw [hrow, signature?, if_pos rfl, hbot.takeWhile_append (by decide),
    hbot.dropWhile_append (by decide), decorated?, hown]
  simp only [if_true, hrest, Option.bind_some, arguments?_arguments, Option.map_some]

theorem signature?_subcommandRow
    {group : Text}
    (hgroup : IsVariable group)
    (name description : Text) :
    signature? (subcommandRow group name description) =
      some (.subcommand group name description) := by
  have hrow : subcommandRow group name description = '@' :: (group ++ '.' ::
      ("command(name=\"".toList ++ arguments name description)) := rfl
  have hrest : ('.' :: ("command(name=\"".toList ++ arguments name description)).dropPrefix?
      ".command(name=\"".toList = some (arguments name description) :=
    Text.dropPrefix?_append _ _
  rw [hrow, signature?, if_pos rfl, hgroup.takeWhile_append (by decide),
    hgroup.dropWhile_append (by decide), decorated?, hrest]
  simp only [arguments?_arguments, Option.map_some]

/-- A row that begins with a variable is a statement. -/
theorem signature?_append
    {word : Text}
    (hword : IsVariable word)
    (r : Text) :
    signature? (word ++ r) = (declaration? (word ++ r)).bind (stated? (word ++ r)) := by
  obtain ⟨hne, hchars⟩ := hword
  obtain ⟨c, s, rfl⟩ := List.exists_cons_of_ne_nil hne
  have hmark : c ≠ '@' := by
    rintro rfl
    exact absurd (hchars '@' (by simp)) (by decide)
  rw [List.cons_append, signature?, if_neg hmark]

theorem signature?_groupRow
    {group : Text}
    (hgroup : IsVariable group)
    (name description : Text) :
    signature? (groupRow group name description) = some (.group group name description) := by
  have hdeclaration : declaration? (groupRow group name description) = some (.group group name) :=
    declaration?_group hgroup name _
  have hdrop : (groupRow group name description).dropWhile Text.isWord =
      " = discord.app_commands.Group(name=\"".toList ++ arguments name description :=
    hgroup.dropWhile_append (by decide) _
  have hrow : signature? (groupRow group name description) =
      (declaration? (groupRow group name description)).bind
        (stated? (groupRow group name description)) := signature?_append hgroup _
  rw [hrow, hdeclaration, Option.bind_some, stated?, hdrop, Text.dropPrefix?_append,
    Option.bind_some, arguments?_arguments]
  rfl

theorem signature?_functionRow
    {name : Text}
    (hname : IsVariable name)
    (parameters : String) :
    signature? (functionRow name parameters) = some (.function name) := by
  have hasync : IsVariable "async".toList := .ofString (by decide)
  have hdeclaration : declaration? (functionRow name parameters) = some (.function name) :=
    declaration?_function hname _
  have hrow : signature? (functionRow name parameters) =
      (declaration? (functionRow name parameters)).bind (stated? (functionRow name parameters)) :=
    signature?_append hasync _
  rw [hrow, hdeclaration]
  rfl

theorem signature?_additionRow
    {group : Text}
    (hgroup : IsVariable group) :
    signature? (additionRow group) = some (.addition group) := by
  have hbot : IsVariable "bot".toList := .ofString (by decide)
  have hdeclaration : declaration? (additionRow group) = some (.addition group) :=
    declaration?_addition hgroup
  have hrow : signature? (additionRow group) =
      (declaration? (additionRow group)).bind (stated? (additionRow group)) :=
    signature?_append hbot _
  rw [hrow, hdeclaration]
  rfl

/-! ## Building the tree -/

/-- Functions add nothing. -/
theorem commandsFrom?_functions
    (held : Text → Option CommandSpec)
    (functions : List Text)
    (rest : List Signature) :
    ∃ held', commandsFrom? held (functions.map .function ++ rest) = commandsFrom? held' rest := by
  induction functions generalizing held with
  | nil => exact ⟨held, rfl⟩
  | cons f functions ih => exact ih (Function.update held f none)

/-- A group collects subcommands whose functions do not take its variable. -/
theorem commandsFrom?_subcommands
    {held : Text → Option CommandSpec}
    {group : Text}
    {spec : CommandSpec}
    (hheld : held group = some spec)
    {parts : List ((Text × Text) × Text)}
    (hparts : ∀ p ∈ parts, p.2 ≠ group)
    (rest : List Signature) :
    ∃ held', commandsFrom? held (parts.flatMap (fun p =>
        [.subcommand group p.1.1 p.1.2, .function p.2]) ++ rest) = commandsFrom? held' rest ∧
      held' group =
        some { spec with subcommands := spec.subcommands ++ parts.map Prod.fst } := by
  induction parts generalizing held spec with
  | nil => exact ⟨held, rfl, by simpa using hheld⟩
  | cons p parts ih =>
      rw [List.forall_mem_cons] at hparts
      obtain ⟨hfunction, hparts⟩ := hparts
      obtain ⟨⟨name, description⟩, function⟩ := p
      have hnext : Function.update (Function.update held group
          (some { spec with subcommands := spec.subcommands ++ [(name, description)] }))
            function none group =
          some { spec with subcommands := spec.subcommands ++ [(name, description)] } := by
        rw [Function.update_of_ne (Ne.symm hfunction), Function.update_self]
      obtain ⟨held', hrest, hgroup⟩ := ih hnext hparts
      refine ⟨held', ?_, by simpa using hgroup⟩
      rw [List.flatMap_cons, List.append_assoc, List.cons_append, commandsFrom?, hheld,
        Option.bind_some]
      exact hrest

/-- A command with subcommands is added with all of them, if no function takes its variable. -/
theorem commandsFrom?_group
    (held : Text → Option CommandSpec)
    (spec : CommandSpec)
    {group : Text}
    {functions : List Text}
    (hgroup : group ∉ functions)
    (hlength : spec.subcommands.length ≤ functions.length)
    (rest : List Signature) :
    ∃ held', commandsFrom? held
        (.group group spec.name spec.description ::
          ((spec.subcommands.zip functions).flatMap (fun p =>
            [.subcommand group p.1.1 p.1.2, .function p.2]) ++ [.addition group]) ++ rest) =
      (commandsFrom? held' rest).map (spec :: ·) := by
  have hparts : ∀ p ∈ spec.subcommands.zip functions, p.2 ≠ group := fun p hp heq =>
    hgroup (heq ▸ (List.of_mem_zip hp).2)
  obtain ⟨held', hrest, hheld⟩ := commandsFrom?_subcommands
    (Function.update_self group (some ⟨spec.name, spec.description, []⟩) held) hparts
    (.addition group :: rest)
  have hall : (spec.subcommands.zip functions).map Prod.fst = spec.subcommands :=
    List.map_fst_zip hlength
  refine ⟨held', ?_⟩
  rw [List.cons_append, commandsFrom?, List.append_assoc, List.singleton_append, hrest,
    commandsFrom?, hheld, hall]
  rfl

/-! ## Handlers -/

/-- The rows of functions say that variables hold them. -/
theorem filterMap_signature_functions
    {names : List Text}
    (hnames : ∀ name ∈ names, IsVariable name)
    (parameters : String) :
    (names.map (functionRow · parameters)).filterMap signature? = names.map .function := by
  rw [List.filterMap_map, ← List.filterMap_eq_map]
  exact List.filterMap_congr fun name hname => signature?_functionRow (hnames name hname) parameters

/-- The rows of subcommands say what is added to the group. -/
theorem filterMap_signature_subcommands
    {group : Text}
    (hgroup : IsVariable group)
    {parts : List ((Text × Text) × Text)}
    (hparts : ∀ p ∈ parts, IsVariable p.2) :
    (parts.flatMap fun p =>
        [subcommandRow group p.1.1 p.1.2, functionRow p.2 ": discord.Interaction):"]).filterMap
      signature? = parts.flatMap fun p => [.subcommand group p.1.1 p.1.2, .function p.2] := by
  rw [List.filterMap_flatMap]
  refine List.flatMap_congr fun p hp => ?_
  rw [List.filterMap_cons_some (signature?_subcommandRow hgroup p.1.1 p.1.2),
    List.filterMap_cons_some (signature?_functionRow (hparts p hp) _), List.filterMap_nil]

/-- The rows of a command with subcommands put a group together and add it. -/
theorem filterMap_signature_group
    (spec : CommandSpec)
    (hne : spec.subcommands ≠ [])
    {group : Text}
    {functions : List Text}
    (hgroup : IsVariable group)
    (hfunctions : ∀ name ∈ functions, IsVariable name) :
    (commandRows spec (group :: functions)).filterMap signature? =
      .group group spec.name spec.description ::
        ((spec.subcommands.zip functions).flatMap (fun p =>
          [.subcommand group p.1.1 p.1.2, .function p.2]) ++ [.addition group]) := by
  have hvariables : ∀ p ∈ spec.subcommands.zip functions, IsVariable p.2 := fun p hp =>
    hfunctions p.2 (List.of_mem_zip hp).2
  rw [commandRows.eq_def, if_neg (by simpa using hne)]
  simp only
  rw [List.filterMap_cons_some (signature?_groupRow hgroup spec.name spec.description),
    List.filterMap_append, filterMap_signature_subcommands hgroup hvariables,
    List.filterMap_cons_some (signature?_additionRow hgroup), List.filterMap_nil]

/-- A handler adds the command that it is registered as, if it is one. -/
theorem commandsFrom?_edgeRows
    (held : Text → Option CommandSpec)
    (catalog : Catalog)
    {u : HandlerUnit}
    (htype : TriggerKind.ofType? u.trigger.type = some u.kind)
    (t : Tally)
    (rest : List Signature) :
    ∃ held', commandsFrom? held
        ((edgeRows catalog u (t.names (requests u.plan))).filterMap signature? ++ rest) =
      (commandsFrom? held' rest).map
        ((if u.kind = .slash then [Dialect.commandSpec catalog u] else []) ++ ·) := by
  have hnames : ∀ name ∈ t.names (requests u.plan), IsVariable name := fun name hname =>
    isVariable_of_mem_names (fun base => isVariable_of_mem_requests htype) hname
  have hfunctions : ∀ names : List Text, (∀ name ∈ names, IsVariable name) →
      ∀ parameters, ∃ held', commandsFrom? held
        ((names.map (functionRow · parameters)).filterMap signature? ++ rest) =
          commandsFrom? held' rest := by
    intro names hnames parameters
    rw [filterMap_signature_functions hnames parameters]
    exact commandsFrom?_functions held names rest
  obtain ⟨trigger, kind, guard, subcommands, body⟩ := u
  cases kind with
  | slash =>
      cases subcommands with
      | nil =>
          obtain ⟨held', hrest⟩ := hfunctions _ hnames ": discord.Interaction):"
          refine ⟨held', ?_⟩
          refine (congrArg (fun l => commandsFrom? held (l ++ rest))
            (List.filterMap_cons_some (signature?_commandRow _ _))).trans ?_
          exact congrArg (Option.map _) hrest
      | cons sub subs =>
          let base := Name.identifier "command" guard
          let group := t.nextName (base ++ "_group".toList)
          let bases := ((sub :: subs).map Subcommand.name).map fun name =>
            base ++ '_' :: (Name.identifier "sub" name ++ "_command".toList)
          let functions := (t.bump (base ++ "_group".toList)).names bases
          let spec : CommandSpec :=
            Dialect.commandSpec catalog ⟨trigger, .slash, guard, sub :: subs, body⟩
          have hfree : group ∉ functions := group_not_mem_functions base _ t _
          have hlength : spec.subcommands.length ≤ functions.length := by
            rw [length_names, List.length_map, List.length_map]
            exact (List.length_map _).le
          have hvariables : ∀ name ∈ functions, IsVariable name := fun name hname =>
            hnames name (List.mem_cons_of_mem _ hname)
          have hsignatures := filterMap_signature_group spec (List.cons_ne_nil _ _)
            (hnames group List.mem_cons_self) hvariables
          obtain ⟨held', hrest⟩ := commandsFrom?_group held spec hfree hlength rest
          refine ⟨held', ?_⟩
          exact (congrArg (fun l => commandsFrom? held (l ++ rest)) hsignatures).trans hrest
  | component =>
      obtain ⟨held', hrest⟩ := hfunctions _ hnames ": discord.Interaction):"
      have hlisten : signature? "@bot.listen('on_interaction')".toList = none := by decide
      refine ⟨held', ?_⟩
      refine (congrArg (fun l => commandsFrom? held (l ++ rest))
        (List.filterMap_cons_none hlisten)).trans ?_
      exact hrest.trans Option.map_id'.symm
  | event =>
      obtain ⟨held', hrest⟩ := hfunctions _ hnames "=None, *args):"
      have hlisten : signature?
          ("@bot.listen('on_".toList ++ (eventName guard ++ "')".toList)) = none := rfl
      refine ⟨held', ?_⟩
      refine (congrArg (fun l => commandsFrom? held (l ++ rest))
        (List.filterMap_cons_none hlisten)).trans ?_
      exact hrest.trans Option.map_id'.symm

/-- Handlers add the slash commands among them, in order. -/
theorem commandsFrom?_edgeAfter
    (held : Text → Option CommandSpec)
    (catalog : Catalog)
    {units : List HandlerUnit}
    (htype : ∀ u ∈ units, TriggerKind.ofType? u.trigger.type = some u.kind)
    (t : Tally) :
    commandsFrom? held ((edgeAfter catalog t units).filterMap signature?) =
      some ((units.filter fun u => u.kind == .slash).map (Dialect.commandSpec catalog)) := by
  induction units generalizing held t with
  | nil => rfl
  | cons u rest ih =>
      rw [List.forall_mem_cons] at htype
      obtain ⟨held', hu⟩ := commandsFrom?_edgeRows held catalog htype.1 t
        ((edgeAfter catalog (t.after (requests u.plan)) rest).filterMap signature?)
      rw [edgeAfter, List.filterMap_append, hu, ih held' htype.2, Option.map_some, List.filter_cons]
      by_cases hkind : u.kind = .slash
      · rw [if_pos hkind, if_pos (beq_iff_eq.2 hkind)]
        rfl
      · rw [if_neg hkind, if_neg (by simpa using hkind)]
        rfl

/-- A program adds all slash commands of its canvas to its tree. -/
theorem commandTree?_program
    {catalog : Catalog}
    {mode : Traversal}
    {canvas : Canvas}
    {program : Text}
    (h : dialect.program catalog mode canvas = .ok program) :
    ∃ units, dialect.handlerUnits catalog mode canvas = .ok units ∧
      commandTree? program =
        some ((units.filter fun u => u.kind == .slash).map (Dialect.commandSpec catalog)) := by
  obtain ⟨units, hunits, htype, hedge⟩ :=
    filterMap_edge_program signature? (by decide) (by decide) h
  exact ⟨units, hunits, by rw [commandTree?, hedge, commandsFrom?_edgeAfter _ catalog htype]⟩

end BotCanvas.Offside
