import BotCanvas.Proofs.Braced.CommandList
import BotCanvas.Proofs.Braced.Program
import BotCanvas.Proofs.Text.Parts
import Mathlib.Data.List.Nodup

/-!
# Sections of slash commands

The handler of a trigger is a section of the program: a row at the left edge, indented rows, and a
row at the edge that ends it. What a section answers to is read from its rows (`slashSections`): the
row behind the first tests for the name of a command, and the subcommands are told apart by the
tests at one depth, in front of which no statement of a user reaches (`dispatched_deep`).

So the sections of a program are those of the slash commands of its canvas, with their subcommands
(`slashSections_program`), and what is registered agrees with what is answered
(`dispatches_registered`).
-/

namespace BotCanvas

namespace Braced

/-! ## Reading sections -/

/-- A section of a slash command: the name that it answers to and the subcommands that it tells
apart, in order. -/
structure SlashSection where
  command : Text
  subcommands : List Text
  deriving DecidableEq

/-- The text that a row tests for: a literal behind one of some beginnings, and then the start of a
block. -/
def test? (leads : List String) (row : Text) : Option Text :=
  (leads.findSome? fun lead => row.dropPrefix? lead.toList).bind fun r =>
    (singleQuoted.read r).bind fun (name, r) => if r = ") \x7b".toList then some name else none

/-- How a row begins that tests for the name of a command. -/
def commandTests : List String :=
  ["  if (interaction.commandName === '",
   "  if (interaction.isChatInputCommand() && interaction.commandName === '"]

/-- How a row begins that tests for the name of a subcommand. -/
def subcommandTests : List String :=
  ["      if (subcommand === '", "      \x7d else if (subcommand === '"]

/-- The row that begins a handler of interactions. -/
def interactionRow : Text := "client.on('interactionCreate', async (interaction) => \x7b"

/-- The slash command that the rows inside a handler answer to. -/
def slashSection? : List Text → Option SlashSection
  | [] => none
  | row :: rest =>
      (test? commandTests row).map fun name => ⟨name, rest.filterMap (test? subcommandTests)⟩

/-- The slash commands that the handlers in rows answer to. Inside a handler are the rows up to the
next one at the left edge. -/
def sectionsIn : List Text → List SlashSection
  | [] => []
  | row :: rest =>
      if row = interactionRow then
        (slashSection? (rest.takeWhile fun r => !Text.isAtEdge r)).toList ++ sectionsIn rest
      else sectionsIn rest

/-- The slash commands that a program answers to, in order. -/
def slashSections (program : Text) : List SlashSection :=
  sectionsIn (Text.splitOn '\n' program)

/-! ## Rows that test -/

/-- A row without such a beginning tests for nothing. -/
theorem test?_eq_none
    {leads : List String}
    {row : Text}
    (h : ∀ lead ∈ leads, ¬lead.toList <+: row) :
    test? leads row = none := by
  have hnone : (leads.findSome? fun lead => row.dropPrefix? lead.toList) = none := by
    rw [List.findSome?_eq_none_iff]
    intro lead hlead
    cases hdrop : row.dropPrefix? lead.toList with
    | none => rfl
    | some r =>
        obtain ⟨front, hrow, hfront⟩ := List.dropPrefix?_eq_some_iff.1 hdrop
        rw [beq_iff_eq.1 hfront] at hrow
        exact absurd ⟨r, hrow.symm⟩ (h lead hlead)
  rw [test?, hnone, Option.bind_none]

/-- Beginnings none of which is the start of another. -/
def Apart (leads : List String) : Prop :=
  ∀ lead ∈ leads, ∀ other ∈ leads,
    lead.toList <+: other.toList ∨ other.toList <+: lead.toList → other = lead

instance : DecidablePred Apart := fun leads =>
  inferInstanceAs (Decidable (∀ lead ∈ leads, ∀ other ∈ leads,
    lead.toList <+: other.toList ∨ other.toList <+: lead.toList → other = lead))

/-- A row that begins otherwise tests for nothing, whatever follows. -/
theorem test?_append_eq_none
    {leads : List String}
    {s : String}
    (h : ∀ lead ∈ leads, ¬(lead.toList <+: s.toList ∨ s.toList <+: lead.toList))
    (r : Text) :
    test? leads (s.toList ++ r) = none :=
  test?_eq_none fun lead hlead hprefix =>
    h lead hlead (List.prefix_or_prefix_of_prefix hprefix (List.prefix_append s.toList r))

/-- A literal behind a beginning is what the row tests for. -/
theorem test?_append
    {leads : List String}
    (hleads : Apart leads)
    {lead : String}
    (hlead : lead ∈ leads)
    {r name : Text}
    (hread : singleQuoted.read r = some (name, ") \x7b".toList)) :
    test? leads (lead.toList ++ r) = some name := by
  obtain ⟨front, rest, hsplit, hfirst⟩ := List.eq_append_cons_of_mem hlead
  have hfound : (leads.findSome? fun other => (lead.toList ++ r).dropPrefix? other.toList) =
      some r := by
    rw [List.findSome?_eq_some_iff]
    refine ⟨front, lead, rest, hsplit, Text.dropPrefix?_append _ _, fun other hother => ?_⟩
    cases hdrop : (lead.toList ++ r).dropPrefix? other.toList with
    | none => rfl
    | some t =>
        obtain ⟨start, hrow, hstart⟩ := List.dropPrefix?_eq_some_iff.1 hdrop
        rw [beq_iff_eq.1 hstart] at hrow
        have hboth := List.prefix_or_prefix_of_prefix (List.prefix_append lead.toList r)
          (hrow ▸ List.prefix_append other.toList t)
        have hmem : other ∈ leads := hsplit ▸ List.mem_append_left _ hother
        rw [hleads lead hlead other hmem hboth] at hother
        exact absurd hother hfirst
  rw [test?, hfound, Option.bind_some, hread, Option.bind_some]
  exact if_pos rfl

/-- A row that tests for the name of a command. -/
theorem test?_command
    {lead : String}
    (hlead : lead ∈ commandTests)
    (name : Text) :
    test? commandTests (lead.toList ++ (escape name ++ '\x27' :: ") \x7b".toList)) = some name :=
  test?_append (by decide) hlead (singleQuoted_spells.read_append name _)

/-! ## Subcommands told apart at a depth -/

/-- The subcommands that code tells apart when it stands behind some spaces. -/
def dispatched (depth : Nat) (c : Code) : List Text :=
  (c.rows spelling).filterMap fun row =>
    test? subcommandTests (Text.indent (List.replicate depth ' ') row)

/-- A stack tells apart what its parts do. -/
theorem dispatched_stack
    (depth : Nat)
    {parts : List Code}
    (hne : parts ≠ []) :
    dispatched depth (.stack parts) = parts.flatMap (dispatched depth) := by
  rw [dispatched, Code.rows_stack hne, List.filterMap_flatMap]
  rfl

/-- Nested code tells apart what it does behind more spaces. -/
theorem dispatched_nest
    (depth levels : Nat)
    (c : Code) :
    dispatched depth (.nest levels c) = dispatched (depth + levels * 2) c := by
  rw [dispatched, Code.rows_nest (n := 2) rfl, List.filterMap_map]
  refine List.filterMap_congr fun row _ => ?_
  rw [Function.comp_apply, Text.indent_indent]

/-- The rows of nested code are those of the code behind spaces. -/
theorem filterMap_rows_nest
    (levels : Nat)
    (c : Code) :
    (Code.rows spelling (.nest levels c)).filterMap (test? subcommandTests) =
      dispatched (levels * 2) c := by
  rw [Code.rows_nest (n := 2) rfl, List.filterMap_map]
  rfl

/-- Code that stands deeper tells no subcommand apart, whatever it is. -/
theorem dispatched_deep
    {depth : Nat}
    (hdepth : 7 ≤ depth)
    (c : Code) :
    dispatched depth c = [] := by
  rw [dispatched, List.filterMap_eq_nil_iff]
  intro row _
  refine test?_eq_none fun lead hlead hprefix => ?_
  have hplain : ∀ lead ∈ subcommandTests, (lead.toList.all fun c => !Text.isLineBreak c) = true ∧
      lead.toList.all Text.isBlank = false ∧ lead.toList[6]? ≠ some ' ' ∧
        6 < lead.toList.length := by decide
  obtain ⟨hbreak, hblank, hseventh, hlength⟩ := hplain lead hlead
  obtain ⟨t, ht⟩ := Text.lead_append_of_prefix_indent (Text.unbroken_of_all hbreak) hblank hprefix
  have hspace : (lead.toList ++ t)[6]? = some ' ' := by
    rw [ht, List.getElem?_append_left (by rw [List.length_replicate]; omega),
      List.getElem?_replicate, if_pos (by omega)]
  rw [List.getElem?_append_left hlength] at hspace
  exact hseventh hspace

/-- No row of the code that does nothing tests for anything. -/
theorem test?_of_isNoop
    {leads : List String}
    (hleads : ∀ lead ∈ leads, '(' ∈ lead.toList)
    (depth : Nat)
    {body : Code}
    (h : isNoop body = true)
    {row : Text}
    (hrow : row ∈ Code.rows spelling body) :
    test? leads (Text.indent (List.replicate depth ' ') row) = none := by
  have hparen : '(' ∉ body.write spelling := by
    intro hmem
    rcases Text.mem_strip_of_mem hmem with hblank | hkept
    · exact absurd hblank (by decide)
    · rw [beq_iff_eq.1 h] at hkept
      exact absurd hkept (by decide)
  refine test?_eq_none fun lead hlead hstarts => ?_
  rcases Text.mem_of_mem_indent (hstarts.subset (hleads lead hlead)) with hspace | hmem
  · exact absurd (List.eq_of_mem_replicate hspace) (by decide)
  · exact hparen (Text.mem_of_mem_splitOn hrow hmem)

/-- Guarded code tells apart what the code inside does. -/
theorem dispatched_guarded
    (label : Text)
    (body : Code) :
    dispatched 4 (guarded label body true) = dispatched 6 body := by
  have hlog : dispatched 4
      (.line ["  console.error('[", .literal label, "] Error:', error);"]) = [] := by
    have hpieces : ∀ x ∈ (["  console.error('[", .literal label, "] Error:', error);"] : List Piece),
        '\n' ∉ x.write spelling := by
      simp only [List.forall_mem_cons]
      exact ⟨by decide, lineFeed_not_mem_literal label, by decide, by simp⟩
    have hrow := Text.indent_append (List.replicate 4 ' ')
      (Text.unbroken_of_all (s := "  console.error('[") (by decide)) (by decide)
      (escape label ++ ("] Error:', error);".toList ++ []))
    have hnone : test? subcommandTests (Text.indent (List.replicate 4 ' ')
        ("  console.error('[".toList ++ (escape label ++ ("] Error:', error);".toList ++ [])))) =
          none := by
      rw [hrow]
      exact test?_append_eq_none (s := "      console.error('[") (by decide) _
    rw [dispatched, Code.rows_line hpieces]
    exact List.filterMap_cons_none hnone
  have hbegin : dispatched 4 "try \x7b" = [] := by decide
  have hcatch : dispatched 4 "\x7d catch (error) \x7b" = [] := by decide
  have hend : (replyLines ++ [("\x7d" : Code)]).flatMap (dispatched 4) = [] := by decide
  rw [guarded, dispatched_stack 4 (by simp), List.flatMap_cons, List.flatMap_cons,
    List.flatMap_cons, List.flatMap_cons, hbegin, hcatch, hlog, if_pos rfl, hend, Code.deeper,
    dispatched_nest]
  exact List.append_nil _

/-- The branches of a command without subcommands tell none apart if its statements do not. -/
theorem dispatched_slashChain
    {depth : Nat}
    (hdepth : depth = 4 ∨ depth = 6)
    {body : Code}
    (hbody : dispatched (depth + 2) body = []) :
    dispatched depth (slashChain body) = [] := by
  have hrows : ∀ row ∈ (["if (interaction.isChatInputCommand()) \x7b",
      "\x7d else if (interaction.isUserContextMenuCommand()) \x7b",
      "\x7d else if (interaction.isMessageContextMenuCommand()) \x7b", "\x7d"] : List String),
      dispatched 4 row = [] ∧ dispatched 6 row = [] := by decide
  have hrow : ∀ row ∈ (["if (interaction.isChatInputCommand()) \x7b",
      "\x7d else if (interaction.isUserContextMenuCommand()) \x7b",
      "\x7d else if (interaction.isMessageContextMenuCommand()) \x7b", "\x7d"] : List String),
      dispatched depth row = [] := by
    intro row hmem
    obtain rfl | rfl := hdepth
    · exact (hrows row hmem).1
    · exact (hrows row hmem).2
  simp only [List.forall_mem_cons] at hrow
  obtain ⟨hchat, huser, hmessage, hend, -⟩ := hrow
  rw [slashChain, dispatched_stack depth (by simp)]
  simp only [List.flatMap_cons, List.flatMap_nil, Code.deeper, dispatched_nest, Nat.one_mul, hbody,
    hchat, huser, hmessage, hend, List.append_nil]

/-- The test for a subcommand. -/
theorem dispatched_case
    {lead : String}
    (hlead : lead = "if" ∨ lead = "\x7d else if")
    {name : Text}
    (hname : ∀ c ∈ name, Text.isSeparator c = false) :
    dispatched 6 (.line [.code lead, " (subcommand === '", .literal name, "') \x7b"]) = [name] := by
  have hplain : ∀ lead ∈ ["if", "\x7d else if"], '\n' ∉ lead.toList ∧
      ((lead ++ " (subcommand === '").toList.all fun c => !Text.isLineBreak c) = true ∧
      (lead ++ " (subcommand === '").toList.all Text.isBlank = false ∧
      String.ofList (List.replicate 6 ' ' ++ (lead ++ " (subcommand === '").toList) ∈
        subcommandTests := by decide
  obtain ⟨hlineFeed, hbreak, hblank, htest⟩ := hplain lead (List.mem_pair.2 hlead)
  have hpieces : ∀ x ∈ ([.code lead, " (subcommand === '", .literal name, "') \x7b"] : List Piece),
      '\n' ∉ x.write spelling := by
    simp only [List.forall_mem_cons]
    exact ⟨hlineFeed, by decide, lineFeed_not_mem_literal name, by decide, by simp⟩
  have hrow : ([.code lead, " (subcommand === '", .literal name, "') \x7b"] : List Piece).flatMap
      (Piece.write spelling) =
        (lead ++ " (subcommand === '").toList ++ (escape name ++ '\x27' :: ") \x7b".toList) := by
    simp [Piece.write, spelling]
  have hread := singleQuoted_spells.read_inner 6 name
    (Text.unbroken_of_all (s := ") \x7b") (by decide))
  rw [Text.respaced_of_all _ hname] at hread
  have hfound := test?_append (by decide) htest hread
  rw [String.toList_ofList, ← Text.indent_append _ (Text.unbroken_of_all hbreak) hblank] at hfound
  rw [dispatched, Code.rows_line hpieces, hrow]
  exact List.filterMap_cons_some hfound

/-- A dispatch tells its subcommands apart. -/
theorem dispatched_dispatch
    {subcommands : List Subcommand}
    (hnames : ∀ sub ∈ subcommands, ∀ c ∈ sub.name, Text.isSeparator c = false) :
    dispatched 6 (dispatch subcommands) = subcommands.map Subcommand.name := by
  have hbegin : dispatched 6
      "const subcommand = interaction.options.getSubcommand(false);" = [] := by decide
  have hend : dispatched 6 "\x7d" = [] := by decide
  have hcase : ∀ p ∈ subcommands.zipIdx, ([.line [.code (if p.2 = 0 then "if" else "\x7d else if"),
      " (subcommand === '", .literal p.1.name, "') \x7b"], p.1.body.deeper] : List Code).flatMap
        (dispatched 6) = [p.1.name] := by
    rintro ⟨sub, index⟩ hp
    have hlead : (if index = 0 then "if" else "\x7d else if") = "if" ∨
        (if index = 0 then "if" else "\x7d else if") = "\x7d else if" := by
      split <;> simp
    have hsub := hnames sub (List.fst_mem_of_mem_zipIdx hp)
    rw [List.flatMap_cons, List.flatMap_singleton, dispatched_case hlead hsub, Code.deeper,
      dispatched_nest, dispatched_deep (by decide), List.append_nil]
  rw [dispatch, dispatched_stack 6 (by simp), List.flatMap_cons, List.flatMap_append,
    List.flatMap_assoc, List.flatMap_singleton, hbegin, hend, List.nil_append, List.append_nil]
  refine (List.flatMap_congr hcase).trans ?_
  rw [← List.map_eq_flatMap]
  exact List.map_map.symm.trans (congrArg _ (List.zipIdx_map_fst 0 subcommands))

/-! ## Handlers -/

/-- Rows that begin no handler are passed over. -/
theorem sectionsIn_append
    {rows : List Text}
    (h : interactionRow ∉ rows)
    (rest : List Text) :
    sectionsIn (rows ++ rest) = sectionsIn rest := by
  induction rows with
  | nil => rfl
  | cons row rows ih =>
      rw [List.mem_cons, not_or] at h
      rw [List.cons_append, sectionsIn, if_neg (Ne.symm h.1), ih h.2]

/-- A section ends with the next row at the left edge. -/
theorem sectionsIn_section
    (opening : Text)
    {inside : List Text}
    (hinside : ∀ row ∈ inside, Text.isAtEdge row = false)
    (rest : List Text) :
    sectionsIn (opening :: (inside ++ "\x7d);".toList :: rest)) =
      (if opening = interactionRow then (slashSection? inside).toList else []) ++
        sectionsIn rest := by
  have hrest : sectionsIn (inside ++ "\x7d);".toList :: rest) = sectionsIn rest := by
    have hrows : interactionRow ∉ inside ++ ["\x7d);".toList] := by
      rw [List.mem_append, not_or]
      exact ⟨fun hmem => absurd (hinside _ hmem) (by decide), by decide⟩
    rw [List.append_cons, sectionsIn_append hrows]
  have hbody : (inside ++ "\x7d);".toList :: rest).takeWhile (fun r => !Text.isAtEdge r) =
      inside := by
    rw [List.takeWhile_append_of_pos fun row hrow => by rw [hinside row hrow]; rfl,
      List.takeWhile_cons_of_neg (by decide), List.append_nil]
  rw [sectionsIn, hrest, hbody]
  split
  · rfl
  · rfl

/-- Nested rows are not at the edge. -/
theorem isAtEdge_of_mem_rows_nest
    (levels : Nat)
    {c : Code}
    {row : Text}
    (h : row ∈ Code.rows spelling (.nest (levels + 1) c)) :
    Text.isAtEdge row = false := by
  have hedge : (Code.rows spelling (.nest (levels + 1) c)).filter Text.isAtEdge = [] :=
    Code.edge_nest (n := 1) rfl levels c
  simpa using List.filter_eq_nil_iff.1 hedge row h

/-- The section of a handler of interactions is what its test and the code inside say. -/
theorem sectionsIn_onInteraction
    {lead : String}
    (hlead : '\n' ∉ lead.toList)
    (guard : Text)
    (body : Code)
    (rest : List Text) :
    sectionsIn (Code.rows spelling (onInteraction [.code lead, .literal guard, "'"] body) ++ rest) =
      ((test? commandTests (("  if (" ++ lead).toList ++
          (escape guard ++ '\x27' :: ") \x7b".toList))).map fun name =>
        (⟨name, dispatched 4 body⟩ : SlashSection)).toList ++ sectionsIn rest := by
  have hpieces : ∀ x ∈ ([.code "  if (", .code lead, .literal guard, "'", ") \x7b"] : List Piece),
      '\n' ∉ x.write spelling := by
    simp only [List.forall_mem_cons]
    exact ⟨by decide, hlead, lineFeed_not_mem_literal guard, by decide, by decide, by simp⟩
  have hopening : Code.rows spelling
      "client.on('interactionCreate', async (interaction) => \x7b" = [interactionRow] := by decide
  have hend : Code.rows spelling "  \x7d" = ["  \x7d".toList] := by decide
  have hclosing : Code.rows spelling "\x7d);" = ["\x7d);".toList] := by decide
  have hrow : ([.code "  if (", .code lead, .literal guard, "'", ") \x7b"] : List Piece).flatMap
      (Piece.write spelling) =
        ("  if (" ++ lead).toList ++ (escape guard ++ '\x27' :: ") \x7b".toList) := by
    simp [Piece.write, spelling]
  have hrows : Code.rows spelling (onInteraction [.code lead, .literal guard, "'"] body) ++ rest =
      interactionRow :: (((("  if (" ++ lead).toList ++
          (escape guard ++ '\x27' :: ") \x7b".toList)) ::
        (Code.rows spelling (.nest 2 body) ++ ["  \x7d".toList])) ++ "\x7d);".toList :: rest) := by
    rw [onInteraction, Code.rows_stack (by simp)]
    simp only [List.flatMap_cons, List.flatMap_nil, hopening, List.cons_append, List.nil_append,
      Code.rows_line hpieces, hend, hclosing, List.append_assoc, ← hrow]
  have htest : Text.isAtEdge (("  if (" ++ lead).toList ++
      (escape guard ++ '\x27' :: ") \x7b".toList)) = false := by
    rw [String.toList_append]
    rfl
  have hinside : ∀ row ∈ (("  if (" ++ lead).toList ++
      (escape guard ++ '\x27' :: ") \x7b".toList)) ::
        (Code.rows spelling (.nest 2 body) ++ ["  \x7d".toList]), Text.isAtEdge row = false := by
    rw [List.forall_mem_cons, List.forall_mem_append, List.forall_mem_singleton]
    exact ⟨htest, fun row hrow => isAtEdge_of_mem_rows_nest 1 hrow, by decide⟩
  have hlast : [("  \x7d".toList : Text)].filterMap (test? subcommandTests) = [] := by decide
  rw [hrows, sectionsIn_section _ hinside, if_pos rfl, slashSection?, List.filterMap_append,
    filterMap_rows_nest, hlast, List.append_nil]

/-- The code inside the handler of a slash command tells its subcommands apart. -/
theorem dispatched_slash
    (guard : Text)
    (body : Code)
    {subcommands : List Subcommand}
    (hnames : ∀ sub ∈ subcommands, ∀ c ∈ sub.name, Text.isSeparator c = false) :
    dispatched 4 (if subcommands.isEmpty then
        (if isNoop body then slashChain body else guarded guard (slashChain body) true)
      else guarded guard (dispatch subcommands) true) = subcommands.map Subcommand.name := by
  cases subcommands with
  | nil =>
      rw [if_pos List.isEmpty_nil]
      split
      · rename_i hnoop
        refine dispatched_slashChain (.inl rfl) (List.filterMap_eq_nil_iff.2 fun row hrow => ?_)
        exact test?_of_isNoop (by decide) 6 hnoop hrow
      · rw [dispatched_guarded]
        exact dispatched_slashChain (.inr rfl) (dispatched_deep (by decide) body)
  | cons sub rest =>
      rw [if_neg (by simp), dispatched_guarded, dispatched_dispatch hnames]

/-- Rows in which no test for a command comes first are no section. -/
theorem slashSection?_eq_none
    {rows : List Text}
    (h : ∀ row ∈ rows.head?, test? commandTests row = none) :
    slashSection? rows = none := by
  cases rows with
  | nil => rfl
  | cons row rest => rw [slashSection?, h row rfl, Option.map_none]

/-- The handler of an event is no section of a slash command, whatever the event is. -/
theorem slashSection?_event
    (event : Text)
    (body : Code) :
    slashSection? (Code.rows spelling
      (if isNoop body then body else guarded event body false).deeper) = none := by
  refine slashSection?_eq_none fun row hrow => ?_
  rw [Code.deeper, Code.rows_nest (n := 2) rfl, List.head?_map, Option.mem_map] at hrow
  obtain ⟨row, hrow, rfl⟩ := hrow
  split at hrow
  · rename_i hnoop
    exact test?_of_isNoop (by decide) _ hnoop (List.mem_of_mem_head? hrow)
  · have hfirst : (Code.rows spelling (guarded event body false)).head? = some "try \x7b".toList := by
      have hbegin : Code.rows spelling "try \x7b" = ["try \x7b".toList] := by decide
      rw [guarded, Code.rows_stack (by simp), List.flatMap_cons, hbegin]
      rfl
    rw [hfirst, Option.mem_some_iff] at hrow
    subst hrow
    decide

/-- The handler of a slash command is its section, and no other handler is one. -/
theorem sectionsIn_handler
    (kind : TriggerKind)
    (guard : Text)
    (body : Code)
    {subcommands : List Subcommand}
    (hnames : ∀ sub ∈ subcommands, ∀ c ∈ sub.name, Text.isSeparator c = false)
    (rest : List Text) :
    sectionsIn (Code.rows spelling (handler kind guard body subcommands) ++ rest) =
      (if kind == .slash then [⟨guard, subcommands.map Subcommand.name⟩] else []) ++
        sectionsIn rest := by
  cases kind with
  | slash =>
      have hinside := dispatched_slash guard body hnames
      rw [handler]
      split
      · rename_i hempty
        rw [if_pos hempty] at hinside
        rw [sectionsIn_onInteraction (by decide), hinside, test?_command (by decide)]
        rfl
      · rename_i hempty
        rw [if_neg hempty] at hinside
        rw [sectionsIn_onInteraction (by decide), hinside, test?_command (by decide)]
        rfl
  | component =>
      rw [handler, sectionsIn_onInteraction (by decide), test?_append_eq_none (by decide)]
      rfl
  | event =>
      have hpieces : ∀ x ∈ (["client.on('", .name (eventName guard),
          "', async (interaction) => \x7b"] : List Piece), '\n' ∉ x.write spelling := by
        simp only [List.forall_mem_cons]
        exact ⟨by decide, (isName_eventName guard).lineFeed_not_mem, by decide, by simp⟩
      have hclosing : Code.rows spelling "\x7d);" = ["\x7d);".toList] := by decide
      have hinside : ∀ row ∈ Code.rows spelling
          (if isNoop body then body else guarded (eventName guard) body false).deeper,
          Text.isAtEdge row = false := fun row hrow => isAtEdge_of_mem_rows_nest 0 hrow
      rw [handler, Code.rows_stack (by simp)]
      simp only [List.flatMap_cons, List.flatMap_nil, Code.rows_line hpieces, hclosing,
        List.cons_append, List.nil_append, List.append_assoc]
      rw [sectionsIn_section _ hinside, slashSection?_event, Option.toList_none, ite_self]
      rfl

end Braced

namespace Dialect

variable {catalog : Catalog}
variable {mode : Traversal}
variable {canvas : Canvas}

/-! ## Names of subcommands -/

/-- The names of subcommands are made by their blocks. -/
theorem exists_of_mem_subcommandNames
    {index : Nat}
    {taken : List Text}
    {l : List Block}
    {name : Text}
    (h : name ∈ subcommandNames catalog index taken l) :
    ∃ i b, name = subcommandName catalog i b := by
  induction l generalizing index taken with
  | nil => exact absurd h List.not_mem_nil
  | cons b rest ih =>
      rw [subcommandNames] at h
      split at h
      · exact ih h
      · rcases List.mem_cons.1 h with rfl | h
        · exact ⟨index, b, rfl⟩
        · exact ih h

/-- They come once, and were not taken before. -/
theorem nodup_subcommandNames
    (index : Nat)
    (taken : List Text)
    (l : List Block) :
    (subcommandNames catalog index taken l).Nodup ∧
      ∀ name ∈ subcommandNames catalog index taken l, name ∉ taken := by
  induction l generalizing index taken with
  | nil => exact ⟨List.nodup_nil, by simp [subcommandNames]⟩
  | cons b rest ih =>
      rw [subcommandNames]
      split
      · exact ih (index + 1) taken
      · rename_i hfree
        obtain ⟨hnodup, hapart⟩ := ih (index + 1) (subcommandName catalog index b :: taken)
        simp only [List.contains_eq_mem, decide_eq_true_eq] at hfree
        refine ⟨List.nodup_cons.2 ⟨fun hmem => hapart _ hmem List.mem_cons_self, hnodup⟩, ?_⟩
        rw [List.forall_mem_cons]
        exact ⟨hfree, fun name hname htaken => hapart name hname (List.mem_cons_of_mem _ htaken)⟩

/-- Subcommands are registered under these names. -/
theorem map_fst_subcommandSpecs
    (index : Nat)
    (taken : List Text)
    (l : List Block) :
    (subcommandSpecs catalog index taken l).map Prod.fst =
      subcommandNames catalog index taken l := by
  induction l generalizing index taken with
  | nil => rfl
  | cons b rest ih =>
      rw [subcommandSpecs, subcommandNames]
      split
      · exact ih (index + 1) taken
      · rw [List.map_cons, ih]

/-- A command of a canvas is registered with subcommands of different names. -/
theorem nodup_of_mem_slashSpecs
    {c : CommandSpec}
    (hc : c ∈ slashSpecs catalog canvas) :
    (c.subcommands.map Prod.fst).Nodup := by
  obtain ⟨t, -, rfl⟩ := List.mem_map.1 hc
  rw [specOf, if_pos rfl, map_fst_subcommandSpecs]
  exact (nodup_subcommandNames 0 [] _).1

/-- The name of a subcommand ends no line. -/
theorem isSeparator_subcommandName
    (index : Nat)
    (b : Block) :
    ∀ c ∈ subcommandName catalog index b, Text.isSeparator c = false := by
  have hline : ∀ c : Char, Text.isBlank c = false → Text.isSeparator c = false := by
    intro c hc
    rw [Text.isSeparator, Text.isLineBreak_of_not_isBlank hc]
    rfl
  intro c hc
  refine hline c ?_
  unfold subcommandName Name.command at hc
  simp only at hc
  split at hc
  · have hplain : Text.isPlain c = true := by
      rcases List.mem_append.1 hc with hc | hc
      · exact List.all_eq_true.1 (show "sub".toList.all Text.isPlain = true by decide) c hc
      · exact Text.isPlain_natDigits index c hc
    exact Text.not_isBlank_of_class (.inl (Text.isWord_of_isPlain hplain))
  · have hkept := (List.mem_filter.1 (List.mem_of_mem_take hc)).2
    rw [Bool.or_eq_true, beq_iff_eq] at hkept
    rcases hkept with hword | rfl
    · exact Text.not_isBlank_of_class (.inl hword)
    · decide

/-- Nor do the names of subcommands in units. -/
theorem isSeparator_of_mem_units
    {d : Dialect}
    {units : List HandlerUnit}
    (h : d.handlerUnits catalog mode canvas = .ok units) :
    ∀ u ∈ units, ∀ sub ∈ u.subcommands, ∀ c ∈ sub.name, Text.isSeparator c = false := by
  intro u hu sub hsub
  have hplan : u.plan ∈ plans catalog canvas := by
    rw [← map_plan_handlerUnits h]
    exact List.mem_map_of_mem hu
  obtain ⟨kind, -, hplan⟩ := List.mem_flatMap.1 hplan
  obtain ⟨t, -, hplan⟩ := List.mem_map.1 hplan
  have hname : sub.name ∈ (planOf catalog canvas kind t).subcommands := by
    rw [hplan]
    exact List.mem_map_of_mem hsub
  rw [planOf] at hname
  simp only at hname
  split at hname
  · obtain ⟨index, b, hb⟩ := exists_of_mem_subcommandNames hname
    rw [hb]
    exact isSeparator_subcommandName index b
  · exact absurd hname List.not_mem_nil

end Dialect

namespace Braced

variable {catalog : Catalog}
variable {mode : Traversal}
variable {canvas : Canvas}

/-! ## Programs -/

/-- A handler ends at the edge. -/
theorem stripEndChar_handler
    (kind : TriggerKind)
    (guard : Text)
    (body : Code)
    (subcommands : List Subcommand) :
    Text.stripEndChar '\n' ((handler kind guard body subcommands).write spelling) =
      (handler kind guard body subcommands).write spelling := by
  have hstack : ∀ parts : List Code, Text.stripEndChar '\n'
      ((Code.stack (parts ++ [("\x7d);" : Code)])).write spelling) =
        (Code.stack (parts ++ [("\x7d);" : Code)])).write spelling := fun parts =>
    Code.stripEndChar_stack spelling parts (show "\x7d);".toList = "\x7d)".toList ++ [';'] by decide)
      (by decide)
  have hinteraction : ∀ test body, Text.stripEndChar '\n'
      ((onInteraction test body).write spelling) = (onInteraction test body).write spelling := by
    intro test body
    have hparts := hstack ["client.on('interactionCreate', async (interaction) => \x7b",
      .line ("  if (" :: (test ++ [.code ") \x7b"])), .nest 2 body, "  \x7d"]
    simp only [List.cons_append, List.nil_append] at hparts
    exact hparts
  cases kind with
  | slash =>
      rw [handler]
      split
      · exact hinteraction _ _
      · exact hinteraction _ _
  | component => exact hinteraction _ _
  | event =>
      have hparts := hstack [.line ["client.on('", .name (eventName guard),
          "', async (interaction) => \x7b"],
        (if isNoop body then body else guarded (eventName guard) body false).deeper]
      simp only [List.cons_append, List.nil_append] at hparts
      exact hparts

/-- The header begins no handler. -/
theorem interactionRow_not_mem_header
    (types : List String) :
    interactionRow ∉
      Text.splitOn '\n' (Text.stripEndChar '\n' ((header types).write spelling)) := by
  have hedge : interactionRow ∉ Code.edge spelling (header types) := by
    unfold header
    cases usesAny types voiceTypes with
    | true => decide +kernel
    | false => decide +kernel
  intro hmem
  have hfilter : interactionRow ∈
      Text.edge (Text.stripEndChar '\n' ((header types).write spelling)) :=
    List.mem_filter.2 ⟨hmem, by decide⟩
  rw [Text.edge_stripEndChar] at hfilter
  exact hedge hfilter

/-- Nor does the footer. -/
theorem interactionRow_not_mem_footer
    (commands : List CommandSpec) :
    interactionRow ∉ Code.rows spelling (footer commands) := by
  have hcommand : ∀ c : CommandSpec, interactionRow ∉ commandRows c := by
    intro c hmem
    have hrows : ∀ row ∈ commandRows c, Text.isAtEdge row = false := by
      unfold commandRows
      split
      · exact List.forall_mem_singleton.2 rfl
      · simp only [List.forall_mem_cons, List.forall_mem_append, List.forall_mem_map]
        exact ⟨rfl, by decide, fun _ _ => rfl, by decide, by decide, by simp⟩
    exact absurd (hrows _ hmem) (by decide)
  have hends : interactionRow ∉ Code.rows spelling "const commands = [" ∧
      interactionRow ∉ startLines.flatMap (Code.rows spelling) := by decide
  rw [footer, Code.rows_stack (by simp), List.flatMap_cons, List.flatMap_append, List.mem_append,
    List.mem_append, List.flatMap_assoc, not_or, not_or]
  refine ⟨hends.1, fun hmem => ?_, hends.2⟩
  obtain ⟨c, -, hrow⟩ := List.mem_flatMap.1 hmem
  rw [rows_registration] at hrow
  exact hcommand _ hrow

/-- The section that a slash command as it is registered asks for. -/
def sectionOf (c : CommandSpec) : SlashSection :=
  ⟨c.name, c.subcommands.map Prod.fst⟩

/-- The handlers of units are the sections of the slash commands among them. -/
theorem sectionsIn_handlers
    (catalog : Catalog)
    {units : List HandlerUnit}
    (hnames : ∀ u ∈ units, ∀ sub ∈ u.subcommands, ∀ c ∈ sub.name, Text.isSeparator c = false)
    (rest : List Text) :
    sectionsIn ((units.flatMap fun u =>
        Code.rows spelling (handler u.kind u.guard u.body u.subcommands) ++ [[]]) ++ rest) =
      ((units.filter fun u => u.kind == .slash).map (Dialect.commandSpec catalog)).map sectionOf ++
        sectionsIn rest := by
  induction units with
  | nil => rfl
  | cons u units ih =>
      rw [List.forall_mem_cons] at hnames
      have hown : sectionOf (Dialect.commandSpec catalog u) =
          ⟨u.guard, u.subcommands.map Subcommand.name⟩ := by
        rw [sectionOf, Dialect.commandSpec, List.map_map]
        rfl
      have hgap : interactionRow ∉ [([] : Text)] := by decide
      rw [List.flatMap_cons, List.append_assoc, List.append_assoc, sectionsIn_handler _ _ _ hnames.1,
        sectionsIn_append hgap, ih hnames.2, List.filter_cons]
      split
      · rw [List.map_cons, List.map_cons, hown]
        rfl
      · rfl

/-- The sections of slash commands in a program are those of the slash commands of its canvas. -/
theorem slashSections_program
    {program : Text}
    (h : dialect.program catalog mode canvas = .ok program) :
    slashSections program = (Dialect.slashSpecs catalog canvas).map sectionOf := by
  obtain ⟨units, hunits, rfl⟩ := Dialect.exists_units h
  have hstripped : (dialect.sections catalog canvas units).map (fun code =>
      Text.stripEndChar '\n' (dialect.write code)) =
        Text.stripEndChar '\n' ((header canvas.types).write spelling) ::
          ((units.map fun u => (handler u.kind u.guard u.body u.subcommands).write spelling) ++
            [(footer (Dialect.commands catalog units)).write spelling]) := by
    rw [Dialect.sections, handlers_eq, List.map_append, List.map_cons, List.map_map,
      List.map_singleton, List.cons_append]
    refine congrArg (_ :: ·) (congrArg₂ (· ++ ·) ?_ ?_)
    · exact List.map_congr_left fun u _ => stripEndChar_handler _ _ _ _
    · exact congrArg ([·]) (stripEndChar_footer _)
  have hseparator : dialect.sectionSeparator = "\n\n".toList := rfl
  have hnames := Dialect.isSeparator_of_mem_units hunits
  have hsections := sectionsIn_handlers catalog hnames
    (Code.rows spelling (footer (Dialect.commands catalog units)) ++ ([[]] ++ []))
  have hgap : interactionRow ∉ [([] : Text)] := by decide
  rw [slashSections, hstripped, hseparator, Text.splitOn_join _ (by simp), List.flatMap_cons,
    List.flatMap_append, List.flatMap_map, List.flatMap_singleton, List.append_assoc,
    sectionsIn_append (interactionRow_not_mem_header _), sectionsIn_append hgap]
  refine hsections.trans ?_
  rw [Dialect.map_commandSpec_units hunits,
    sectionsIn_append (interactionRow_not_mem_footer _), sectionsIn_append hgap]
  exact List.append_nil _

/-- Among commands of different names, each is the first of its name. -/
theorem firstNamed_of_nodup
    {commands : List CommandSpec}
    (h : (commands.map CommandSpec.name).Nodup)
    {c : CommandSpec}
    (hc : c ∈ commands) :
    firstNamed c.name commands = some c := by
  unfold firstNamed
  cases hfound : commands.find? fun k => k.name == c.name with
  | none => exact absurd (List.find?_eq_none.1 hfound c hc) (by simp)
  | some k =>
      have hk := List.mem_of_find?_eq_some hfound
      have hname := List.find?_some hfound
      rw [List.inj_on_of_nodup_map h hk hc (beq_iff_eq.1 hname)]

/-- What is registered agrees with what is answered: `names` are those of the slash triggers of a
canvas in document order, one for each trigger. -/
structure Agrees
    (names : List Text)
    (registered : List CommandSpec)
    (answered : List SlashSection) : Prop where
  /-- Each name is registered where it comes first, -/
  registered_names : registered.map CommandSpec.name = names.eraseDups
  /-- and only once. -/
  nodup_names : (registered.map CommandSpec.name).Nodup
  /-- Every trigger has a section, which answers to its name. -/
  answered_names : answered.map SlashSection.command = names
  /-- The first section of a name tells the subcommands apart that are registered for it. -/
  answers : ∀ c ∈ registered, (answered.find? fun s => s.command == c.name) = some (sectionOf c)
  /-- They have different names. -/
  nodup_subcommands : ∀ c ∈ registered, (c.subcommands.map Prod.fst).Nodup
  /-- No section answers to a name that is not registered. -/
  registered_of_answered : ∀ s ∈ answered, ∃ c ∈ registered, c.name = s.command

/-- In every program, the commands that are handed to the footer agree with the sections, and the
program lists these commands and no others. -/
theorem dispatches_registered
    {program : Text}
    (h : dialect.program catalog mode canvas = .ok program) :
    ∃ units list, dialect.handlerUnits catalog mode canvas = .ok units ∧
      Agrees (Dialect.slashNames catalog canvas) (Dialect.commands catalog units)
        (slashSections program) ∧
      commandList? program = some list ∧
      list.map sectionOf = (Dialect.commands catalog units).map sectionOf := by
  obtain ⟨units, hunits, hlist⟩ := commandList?_program h
  have hsections := slashSections_program h
  have hkept := Dialect.commands_eq_firstOfEachName hunits
  have hnames := Dialect.map_name_commands hunits
  have hnodup : ((Dialect.commands catalog units).map CommandSpec.name).Nodup := by
    rw [hnames]
    exact nodup_eraseDups _
  have hanswered : (slashSections program).map SlashSection.command =
      Dialect.slashNames catalog canvas := by
    rw [hsections, List.map_map, ← Dialect.map_name_slashSpecs]
    rfl
  refine ⟨units, _, hunits, ⟨hnames, hnodup, hanswered, ?_, ?_, ?_⟩, hlist, ?_⟩
  · intro c hc
    have hfirst : firstNamed c.name (Dialect.slashSpecs catalog canvas) = some c := by
      rw [← firstNamed_firstOfEachName, ← hkept]
      exact firstNamed_of_nodup hnodup hc
    rw [hsections, List.find?_map]
    exact congrArg (Option.map sectionOf) hfirst
  · intro c hc
    rw [hkept] at hc
    exact Dialect.nodup_of_mem_slashSpecs (mem_of_mem_firstOfEachName hc)
  · intro s hs
    have hname : s.command ∈ (Dialect.commands catalog units).map CommandSpec.name := by
      rw [hnames, List.mem_eraseDups, ← hanswered]
      exact List.mem_map_of_mem hs
    exact List.mem_map.1 hname
  · rw [firstOfEachName_of_nodup hnodup, List.map_map]
    refine List.map_congr_left fun c _ => ?_
    rw [Function.comp_apply, sectionOf, relisted, CommandSpec.mapDescriptions, List.map_map]
    rfl

/-- A canvas with three slash commands, two of one name. The second has four subcommands, of which two
have one name and two have none, and the third has a subcommand of the second. -/
def sharingCanvas : Canvas :=
  ⟨[⟨"1", "command_slash", .finite false 0, .finite false 0, [("name", .str "ping")], "triggers", ""⟩,
    ⟨"2", "command_slash", .finite false 0, .finite false 0, [("name", .str "admin")], "triggers", ""⟩,
    ⟨"3", "command_slash", .finite false 0, .finite false 0, [("name", .str "Ping")], "triggers", ""⟩,
    ⟨"4", "command_subcommand", .finite false 0, .finite false 0, [("name", .str "kick")],
      "triggers", ""⟩,
    ⟨"5", "command_subcommand", .finite false 0, .finite false 0, [("name", .str "Kick")],
      "triggers", ""⟩,
    ⟨"6", "command_subcommand", .finite false 0, .finite false 0, [], "triggers", ""⟩,
    ⟨"7", "command_subcommand", .finite false 0, .finite false 0, [("name", .str "!")],
      "triggers", ""⟩],
   [⟨"a", "2", "4", none, none⟩, ⟨"b", "2", "5", none, none⟩, ⟨"c", "2", "6", none, none⟩,
    ⟨"d", "2", "7", none, none⟩, ⟨"e", "3", "4", none, none⟩]⟩

/-- The name that two commands share is registered as its first section answers to it. -/
theorem dispatches_registered_sharingCanvas :
    ∃ program units list, dialect.program ⟨[]⟩ .connections sharingCanvas = .ok program ∧
      Agrees ["ping".toList, "admin".toList, "ping".toList] (Dialect.commands ⟨[]⟩ units)
        (slashSections program) ∧
      commandList? program = some list ∧
      list.map sectionOf =
        [⟨"ping", []⟩, ⟨"admin", ["kick".toList, "sub2".toList, "sub3".toList]⟩] ∧
      slashSections program =
        [⟨"ping", []⟩, ⟨"admin", ["kick".toList, "sub2".toList, "sub3".toList]⟩,
          ⟨"ping", ["kick".toList]⟩] := by
  obtain ⟨program, hprogram⟩ := exists_of_isSome
    (m := dialect.program ⟨[]⟩ .connections sharingCanvas) (by decide +kernel)
  obtain ⟨units, list, hunits, hagrees, hlist, hsame⟩ := dispatches_registered hprogram
  have hnames : Dialect.slashNames ⟨[]⟩ sharingCanvas =
      ["ping".toList, "admin".toList, "ping".toList] := by decide +kernel
  rw [hnames] at hagrees
  refine ⟨program, units, list, hprogram, hagrees, hlist, ?_, ?_⟩
  · rw [hsame, Dialect.commands_eq_firstOfEachName hunits]
    decide +kernel
  · rw [slashSections_program hprogram]
    decide +kernel

end Braced

end BotCanvas
