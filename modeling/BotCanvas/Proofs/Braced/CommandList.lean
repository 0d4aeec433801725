import BotCanvas.Proofs.Braced.Balance
import BotCanvas.Proofs.Braced.Literals
import BotCanvas.Proofs.Program.Commands
import BotCanvas.Proofs.Program.Edge

/-!
# The list of commands

The footer of a program assigns the list of commands that the client registers. The list is read row
by row, behind the only row at the left edge that begins it (`commandList?`): a command is one row,
or a row that begins it, rows for its options and a row that ends it.

So a program lists the commands that its footer was given, the first of each name, with descriptions
on one line and cut to the limit (`commandList?_program`).
-/

namespace BotCanvas.Braced

/-! ## Reading rows -/

/-- The row that begins the list. -/
def listRow : Text := "const commands = ["

/-- The name and the description in a row of the list, behind the text that it begins with, and what
follows them. -/
def item? (lead : String) (row : Text) : Option ((Text × Text) × Text) :=
  (row.dropPrefix? lead.toList).bind fun r =>
    (singleQuoted.read r).bind fun (name, r) =>
      (r.dropPrefix? ", description: '".toList).bind fun r =>
        (singleQuoted.read r).map fun (description, r) => ((name, description), r)

/-- What a row of a command begins with. -/
def commandLead : String := "  \x7b name: '"

/-- What a row of an option begins with. -/
def optionLead : String := "      \x7b type: ApplicationCommandOptionType.Subcommand, name: '"

/-- How far a list was read. -/
inductive Reading
  /-- A command or the end of the list follows. -/
  | between
  /-- The options of a command follow. -/
  | begun (c : CommandSpec)
  /-- An option of a command or the end of its options follows. -/
  | inside (c : CommandSpec)
  /-- The end of a command follows. -/
  | behind (c : CommandSpec)

/-- The commands in the rows of a list, up to the row that ends it. -/
def listed? : Reading → List Text → Option (List CommandSpec)
  | _, [] => none
  | .between, row :: rest =>
      if row = "];".toList then some []
      else
        (item? commandLead row).bind fun ((name, description), r) =>
          let c : CommandSpec := ⟨name, description, []⟩
          if r = " \x7d,".toList then (listed? .between rest).map (c :: ·)
          else if r = ",".toList then listed? (.begun c) rest
          else none
  | .begun c, row :: rest =>
      if row = "    options: [".toList then listed? (.inside c) rest else none
  | .inside c, row :: rest =>
      if row = "    ],".toList then listed? (.behind c) rest
      else
        (item? optionLead row).bind fun (option, r) =>
          if r = " \x7d,".toList then
            listed? (.inside { c with subcommands := c.subcommands ++ [option] }) rest
          else none
  | .behind c, row :: rest =>
      if row = "  \x7d,".toList then (listed? .between rest).map (c :: ·) else none

/-- The commands that a program lists, in order. -/
def commandList? (program : Text) : Option (List CommandSpec) :=
  listed? .between ((Text.splitOn '\n' program).dropWhile fun row => row ≠ listRow).tail

/-! ## Rows of the footer -/

/-- A name and a description in a row of the list, from the first literal to the end of the row. -/
def itemText (name description : Text) (closing : String) : Text :=
  escape name ++ ("', description: '".toList ++ (escape description ++ ('\x27' :: closing.toList)))

/-- Entries are read back. -/
theorem item?_append
    (lead : String)
    (name description : Text)
    (closing : String) :
    item? lead (lead.toList ++ itemText name description closing) =
      some ((name, description), closing.toList) := by
  have hname : singleQuoted.read (itemText name description closing) =
      some (name, ", description: '".toList ++
        (escape description ++ ('\x27' :: closing.toList))) :=
    singleQuoted_spells.read_append name _
  have hdescription : singleQuoted.read (escape description ++ ('\x27' :: closing.toList)) =
      some (description, closing.toList) := singleQuoted_spells.read_append description _
  have hlead : (lead.toList ++ itemText name description closing).dropPrefix? lead.toList =
      some (itemText name description closing) := Text.dropPrefix?_append _ _
  have hrest : (", description: '".toList ++
      (escape description ++ ('\x27' :: closing.toList))).dropPrefix? ", description: '".toList =
        some (escape description ++ ('\x27' :: closing.toList)) := Text.dropPrefix?_append _ _
  simp only [item?, hlead, Option.bind_some, hname, hrest, hdescription, Option.map_some]

/-- A command as a program lists it: its descriptions on one line and cut to the limit. -/
def relisted (c : CommandSpec) : CommandSpec :=
  c.mapDescriptions fun t => (Text.squeeze t).take Value.descriptionLimit

/-- A user's text in a literal adds no row. -/
theorem lineFeed_not_mem_literal
    (t : Text) :
    '\n' ∉ (Piece.literal t).write spelling :=
  singleQuoted_spells.lineFeed_not_mem t

/-- The row of a command. -/
theorem rows_command
    (name summary : Text)
    {closing : String}
    (hclosing : '\n' ∉ closing.toList) :
    Code.rows spelling (.line ["  \x7b ", "name: '", .literal name, "', description: '",
      description summary, "'", .code closing]) =
      [commandLead.toList ++ itemText name
        ((Text.squeeze summary).take Value.descriptionLimit) closing] := by
  rw [Code.rows_line]
  · show [commandLead.toList ++ (escape name ++ ("', description: '".toList ++
      (escape ((Text.squeeze summary).take Value.descriptionLimit) ++
        ('\x27' :: (closing.toList ++ [])))))] = _
    rw [List.append_nil]
    rfl
  · simp only [List.forall_mem_cons]
    exact ⟨by decide, by decide, lineFeed_not_mem_literal name, by decide,
      lineFeed_not_mem_literal _, by decide, hclosing, by simp⟩

/-- The row of an option. -/
theorem rows_option
    (name summary : Text) :
    Code.rows spelling (.line ["      \x7b type: ApplicationCommandOptionType.Subcommand, name: '",
      .literal name, "', description: '", description summary, "' \x7d,"]) =
      [optionLead.toList ++ itemText name
        ((Text.squeeze summary).take Value.descriptionLimit) " \x7d,"] := by
  rw [Code.rows_line]
  · rfl
  · simp only [List.forall_mem_cons]
    exact ⟨by decide, lineFeed_not_mem_literal name, by decide, lineFeed_not_mem_literal _,
      by decide, by simp⟩

/-- The row of an option in the list. -/
def optionRow (p : Text × Text) : Text :=
  optionLead.toList ++ itemText p.1 p.2 " \x7d,"

/-- The rows of a command in the list. -/
def commandRows (c : CommandSpec) : List Text :=
  if c.subcommands.isEmpty then [commandLead.toList ++ itemText c.name c.description " \x7d,"]
  else
    (commandLead.toList ++ itemText c.name c.description ",") :: "    options: [".toList ::
      (c.subcommands.map optionRow ++ ["    ],".toList, "  \x7d,".toList])

/-- A command is registered by the rows of what is listed. -/
theorem rows_registration
    (c : CommandSpec) :
    (registration c).flatMap (Code.rows spelling) = commandRows (relisted c) := by
  obtain ⟨name, summary, subcommands⟩ := c
  cases subcommands with
  | nil =>
      refine Eq.trans ?_ (rows_command name summary (show '\n' ∉ " \x7d,".toList by decide))
      exact List.flatMap_singleton ..
  | cons sub subs =>
      have hoptions : ((sub :: subs).map fun (name, summary) => Code.line
          ["      \x7b type: ApplicationCommandOptionType.Subcommand, name: '", .literal name,
            "', description: '", description summary, "' \x7d,"]).flatMap (Code.rows spelling) =
          ((sub :: subs).map fun p =>
            (p.1, (Text.squeeze p.2).take Value.descriptionLimit)).map optionRow := by
        rw [List.flatMap_map, List.map_map, List.map_eq_flatMap]
        exact List.flatMap_congr fun p _ => rows_option p.1 p.2
      have hclosing : ["    ],", "  \x7d,"].flatMap (Code.rows spelling) =
          ["    ],".toList, "  \x7d,".toList] := by decide
      have hbegin : Code.rows spelling "    options: [" = ["    options: [".toList] := by decide
      have hrest := congrArg₂ (· ++ ·) hbegin
        (List.flatMap_append.trans (congrArg₂ (· ++ ·) hoptions hclosing))
      exact congrArg₂ (· ++ ·)
        (rows_command name summary (show '\n' ∉ ",".toList by decide)) hrest

/-! ## Reading the list -/

/-- Options are read one after another. -/
theorem listed?_options
    (c : CommandSpec)
    (options : List (Text × Text))
    (rest : List Text) :
    listed? (.inside c) (options.map optionRow ++ rest) =
      listed? (.inside { c with subcommands := c.subcommands ++ options }) rest := by
  induction options generalizing c with
  | nil => simp
  | cons p options ih =>
      have hrow : optionRow p ≠ "    ],".toList := by
        intro h
        have hfifth : (optionRow p)[4]? = some ' ' := rfl
        rw [h] at hfifth
        exact absurd hfifth (by decide)
      rw [List.map_cons, List.cons_append, listed?, if_neg hrow, optionRow, item?_append,
        Option.bind_some]
      simp only [if_true, ih, List.append_assoc, List.singleton_append]

/-- A command is not the end of the list. -/
theorem command_ne_end
    (t : Text) :
    commandLead.toList ++ t ≠ "];".toList := by
  intro h
  have hfirst : (commandLead.toList ++ t)[0]? = some ' ' := rfl
  rw [h] at hfirst
  exact absurd hfirst (by decide)

/-- The rows of a command are read as the command. -/
theorem listed?_commandRows
    (c : CommandSpec)
    (rest : List Text) :
    listed? .between (commandRows c ++ rest) = (listed? .between rest).map (c :: ·) := by
  obtain ⟨name, description, subcommands⟩ := c
  unfold commandRows
  split
  · rename_i hempty
    rw [List.cons_append, listed?, if_neg (command_ne_end _), item?_append, Option.bind_some]
    have hnil : subcommands = [] := List.isEmpty_iff.1 hempty
    simp only [if_true, List.nil_append, hnil]
  · have hcomma : ",".toList ≠ " \x7d,".toList := by decide
    rw [List.cons_append, listed?, if_neg (command_ne_end _), item?_append, Option.bind_some]
    simp only [if_neg hcomma, if_true, List.cons_append, List.append_assoc, listed?,
      listed?_options, List.nil_append]

/-- Commands are read one after another, up to the end of the list. -/
theorem listed?_registrations
    (commands : List CommandSpec)
    (rest : List Text) :
    listed? .between ((commands.flatMap registration).flatMap (Code.rows spelling) ++
        "];".toList :: rest) = some (commands.map relisted) := by
  induction commands with
  | nil => rfl
  | cons c commands ih =>
      rw [List.flatMap_cons, List.flatMap_append, List.append_assoc, rows_registration,
        listed?_commandRows, ih]
      rfl

/-- The footer begins with the list of the commands that it was given, the first of each name. -/
theorem exists_rows_footer
    (commands : List CommandSpec) :
    ∃ rest, Code.rows spelling (footer commands) = listRow ::
      (((firstOfEachName commands).flatMap registration).flatMap (Code.rows spelling) ++
        "];".toList :: rest) := by
  have hlist : Code.rows spelling "const commands = [" = [listRow] := by decide
  have hend : startLines.flatMap (Code.rows spelling) =
      "];".toList :: startLines.tail.flatMap (Code.rows spelling) := by decide
  refine ⟨startLines.tail.flatMap (Code.rows spelling), ?_⟩
  rw [footer, Code.rows_stack (by simp), List.flatMap_cons, List.flatMap_append, hlist, hend]
  rfl

/-- The footer ends with the row that logs the client in. -/
theorem stripEndChar_footer
    (commands : List CommandSpec) :
    Text.stripEndChar '\n' ((footer commands).write spelling) =
      (footer commands).write spelling := by
  have hlast := Code.stripEndChar_stack spelling
    ("const commands = [" :: ((firstOfEachName commands).flatMap registration ++
      startLines.dropLast))
    (show "client.login(process.env.BOT_TOKEN);".toList =
      "client.login(process.env.BOT_TOKEN)".toList ++ [';'] by decide) (by decide)
  rw [List.cons_append, List.append_assoc] at hlast
  exact hlast

/-! ## In front of the list -/

theorem listRow_not_mem_header
    (types : List String) :
    listRow ∉ Code.edge spelling (header types) := by
  unfold header
  cases usesAny types voiceTypes with
  | true => decide
  | false => decide

/-- A handler of interactions begins and ends at the edge and does not begin the list. -/
theorem listRow_not_mem_onInteraction
    {test : List Piece}
    (htest : ∀ x ∈ test, '\n' ∉ x.write spelling)
    (body : Code) :
    listRow ∉ Code.edge spelling (onInteraction test body) := by
  have hpieces : ∀ x ∈ (.code "  if (" :: (test ++ [.code ") \x7b"]) : List Piece),
      '\n' ∉ x.write spelling := by
    rw [List.forall_mem_cons, List.forall_mem_append, List.forall_mem_singleton]
    exact ⟨by decide, htest, by decide⟩
  have hline : Code.edge spelling (.line ("  if (" :: (test ++ [.code ") \x7b"]))) = [] := by
    rw [Code.edge_line hpieces]
    rfl
  have hbody : Code.edge spelling (.nest 2 body) = [] := Code.edge_nest (n := 1) rfl 1 body
  rw [onInteraction, Code.edge_stack, List.flatMap_cons, List.flatMap_cons, List.flatMap_cons,
    hline, hbody]
  decide

/-- No handler begins the list. -/
theorem listRow_not_mem_handler
    (kind : TriggerKind)
    (guard : Text)
    (body : Code)
    (subcommands : List Subcommand) :
    listRow ∉ Code.edge spelling (handler kind guard body subcommands) := by
  cases kind with
  | slash =>
      rw [handler]
      split
      · refine listRow_not_mem_onInteraction ?_ _
        simp only [List.forall_mem_cons]
        exact ⟨by decide, lineFeed_not_mem_literal guard, by decide, by simp⟩
      · refine listRow_not_mem_onInteraction ?_ _
        simp only [List.forall_mem_cons]
        exact ⟨by decide, lineFeed_not_mem_literal guard, by decide, by simp⟩
  | component =>
      refine listRow_not_mem_onInteraction ?_ _
      simp only [List.forall_mem_cons]
      exact ⟨by decide, lineFeed_not_mem_literal guard, by decide, by simp⟩
  | event =>
      have hpieces : ∀ x ∈ (["client.on('", .name (eventName guard),
          "', async (interaction) => \x7b"] : List Piece), '\n' ∉ x.write spelling := by
        simp only [List.forall_mem_cons]
        exact ⟨by decide, (isName_eventName guard).lineFeed_not_mem, by decide, by simp⟩
      have hdeeper : ∀ body : Code, Code.edge spelling body.deeper = [] :=
        Code.edge_nest (n := 1) rfl 0
      have hne : ∀ r, listRow ≠ "client.on('".toList ++ r := by
        intro r h
        have hsecond : listRow[1]? = some 'o' := rfl
        rw [h] at hsecond
        exact absurd (show some 'l' = some 'o' from hsecond) (by decide)
      have hend : listRow ∉ Code.edge spelling "\x7d);" := by decide
      rw [handler, Code.edge_stack, List.flatMap_cons, List.flatMap_cons, List.flatMap_singleton,
        hdeeper, List.nil_append, List.mem_append, not_or, Code.edge_line hpieces]
      refine ⟨?_, hend⟩
      split
      · exact fun h => hne _ (List.mem_singleton.1 h)
      · exact List.not_mem_nil

/-- A program lists the commands of its units, the first of each name. -/
theorem commandList?_program
    {catalog : Catalog}
    {mode : Traversal}
    {canvas : Canvas}
    {program : Text}
    (h : dialect.program catalog mode canvas = .ok program) :
    ∃ units, dialect.handlerUnits catalog mode canvas = .ok units ∧
      commandList? program =
        some ((firstOfEachName (Dialect.commands catalog units)).map relisted) := by
  obtain ⟨units, front, hunits, hrows, hedge⟩ :=
    Dialect.exists_rows_program (d := dialect) 1 rfl h
  obtain ⟨rest, hfooter⟩ := exists_rows_footer (Dialect.commands catalog units)
  have hhandlers : ∀ code ∈ ((dialect.handlers catalog units).run []).1,
      listRow ∉ Code.edge spelling code :=
    Dialect.forall_handlers (P := fun code => listRow ∉ Code.edge spelling code)
      (fun u _ _ => listRow_not_mem_handler u.kind u.guard u.body u.subcommands) []
  have hfront : ∀ row ∈ front, decide (row ≠ listRow) = true := by
    intro row hrow
    refine decide_eq_true fun heq => ?_
    have hmem : listRow ∈ front.filter Text.isAtEdge :=
      List.mem_filter.2 ⟨heq ▸ hrow, by decide⟩
    rw [hedge, List.flatMap_cons, List.mem_append] at hmem
    rcases hmem with hmem | hmem
    · exact listRow_not_mem_header canvas.types hmem
    · obtain ⟨code, hcode, hmem⟩ := List.mem_flatMap.1 hmem
      exact hhandlers code hcode hmem
  have hstrip : Text.stripEndChar '\n'
      (dialect.write (dialect.footer (Dialect.commands catalog units))) =
        (footer (Dialect.commands catalog units)).write spelling := stripEndChar_footer _
  have hrest : Text.splitOn '\n' ((footer (Dialect.commands catalog units)).write spelling) =
      Code.rows spelling (footer (Dialect.commands catalog units)) := rfl
  refine ⟨units, hunits, ?_⟩
  rw [commandList?, hrows, hstrip, hrest, hfooter, List.dropWhile_append_of_pos hfront,
    List.cons_append, List.dropWhile_cons_of_neg (by simp), List.tail_cons, List.append_assoc,
    List.cons_append, listed?_registrations]

end BotCanvas.Braced
