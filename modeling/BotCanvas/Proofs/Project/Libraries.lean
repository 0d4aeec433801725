import BotCanvas.Proofs.Program.Places
import BotCanvas.Proofs.Project.Manifest

/-!
# The libraries of a program

A program opens with its header, which imports a library if the canvas has a block of a type that
uses it, and the manifest lists the package of that library. Statements come from the canvas:
whatever the flow of a trigger or of a subcommand reaches is one of its blocks
(`mem_blocks_of_runs`). So every library that the statements of a program use is imported and listed
(`Exporter.libraries_of_runs`).
-/

namespace BotCanvas

/-! ## Blocks whose statements a program holds -/

section Runs

variable {T : Block → Block → Prop}

/-- Arms that are alike have steps that are alike under each name. -/
theorem ArmsAlike.lookup
    {arms arms' : List (String × List Step)}
    (h : ArmsAlike T arms arms')
    {name : String}
    {steps : List Step}
    (hsteps : arms.lookup name = some steps) :
    ∃ steps', StepsAlike T steps steps' := by
  cases h with
  | nil => cases hsteps
  | @cons key first first' rest rest' hfirst hrest =>
      rw [List.lookup_cons] at hsteps
      by_cases hkey : name = key
      · rw [hkey, beq_self_eq_true] at hsteps
        cases hsteps
        exact ⟨first', hfirst⟩
      · rw [beq_false_of_ne hkey] at hsteps
        exact hrest.lookup hsteps

/-- A block that a flow reaches is related to some block if the flow is alike to another. -/
theorem Flow.Reaches.exists_related
    {b : Block}
    {steps : List Step}
    (h : Flow.Reaches b steps)
    {steps' : List Step}
    (hsteps : StepsAlike T steps steps') :
    ∃ b', T b b' := by
  induction h generalizing steps' with
  | here =>
      cases hsteps with
      | cons hb _ _ => exact ⟨_, hb⟩
  | later _ ih =>
      cases hsteps with
      | cons _ _ hrest => exact ih hrest
  | arm _ _ harm _ ih =>
      cases hsteps with
      | cons _ harms _ =>
          obtain ⟨arm', harm'⟩ := harms.lookup harm
          exact ih harm'

variable {catalog : Catalog}
variable {mode : Traversal}
variable {c : Canvas}

/-- Where the flows of a program start: at the triggers that become handlers, and at the subcommands
that are wired to slash commands. -/
inductive Dialect.Starts (catalog : Catalog) (c : Canvas) : Block → Prop
  | trigger
      {kind : TriggerKind}
      {t : Block} :
      t ∈ triggersOf catalog c kind →
      Starts catalog c t
  | subcommand
      {t b : Block} :
      t ∈ triggersOf catalog c .slash →
      b ∈ Flow.subcommands c t →
      Starts catalog c b

/-- A block that a program runs: a flow from one of its starts reaches it, at any depth. -/
def Dialect.Runs (catalog : Catalog) (mode : Traversal) (c : Canvas) (b : Block) : Prop :=
  ∃ start, Starts catalog c start ∧
    Flow.Reaches b (Flow.linearize catalog mode c (some start))

/-- Flows start on the canvas. -/
theorem Dialect.Starts.mem_blocks
    {b : Block}
    (h : Starts catalog c b) :
    b ∈ c.blocks := by
  cases h with
  | trigger ht => exact List.mem_of_mem_filter (List.mem_of_mem_filter ht)
  | @subcommand t b ht hb =>
      have hmem : t ∈ c.blocks := List.mem_of_mem_filter (List.mem_of_mem_filter ht)
      have hself : CanvasesAlike id (fun b b' => b = b' ∧ b ∈ c.blocks) c c :=
        .self fun _ hb => hb
      have hsubs : List.Forall₂ (fun b b' => b = b' ∧ b ∈ c.blocks)
          (Flow.subcommands c t) (Flow.subcommands c t) :=
        hself.subcommands (keepsOrder_self _) ⟨rfl, hmem⟩
      exact (List.forall₂_same.1 hsubs b hb).2

/-- What a program runs is on the canvas. -/
theorem Dialect.mem_blocks_of_runs
    {b : Block}
    (h : Runs catalog mode c b) :
    b ∈ c.blocks := by
  obtain ⟨start, hstart, hreach⟩ := h
  have hself : CanvasesAlike id (fun b b' => b = b' ∧ b ∈ c.blocks) c c := .self fun _ hb => hb
  have hflow : StepsAlike (fun b b' => b = b' ∧ b ∈ c.blocks)
      (Flow.linearize catalog mode c (some start)) (Flow.linearize catalog mode c (some start)) :=
    hself.linearize (keepsOrder_self _) mode ⟨rfl, hstart.mem_blocks⟩
  obtain ⟨_, -, hb⟩ := hreach.exists_related hflow
  exact hb

end Runs

/-! ## Headers -/

namespace Dialect

variable {d : Dialect}
variable {catalog : Catalog}
variable {mode : Traversal}
variable {c : Canvas}

/-- A header ends no row behind its last. -/
theorem stripEndChar_header
    (hd : d ∈ all)
    (types : List String) :
    Text.stripEndChar '\n' (d.write (d.header types)) = d.write (d.header types) := by
  rcases mem_all.1 hd with rfl | rfl
  · have hlines : ∀ first : List Code, first ++ Braced.clientLines =
        (first ++ Braced.clientLines.dropLast) ++ [.line [.code "\x7d);"]] := by
      intro first
      rw [List.append_assoc]
      rfl
    show Text.stripEndChar '\n' ((Braced.header types).write Braced.spelling) =
      (Braced.header types).write Braced.spelling
    rw [Braced.header, hlines]
    exact Code.stripEndChar_stack _ _
      (show "\x7d);".toList = "\x7d)".toList ++ [';'] by decide) (by decide)
  · have hlines : ∀ first : List Code, first ++ Offside.botLines =
        (first ++ Offside.botLines.dropLast) ++
          [.line [.code "    print(f'Logged in as \x7bbot.user\x7d')"]] := by
      intro first
      rw [List.append_assoc]
      rfl
    show Text.stripEndChar '\n' ((Offside.header types).write Offside.spelling) =
      (Offside.header types).write Offside.spelling
    rw [Offside.header, hlines]
    exact Code.stripEndChar_stack _ _
      (show "    print(f'Logged in as \x7bbot.user\x7d')".toList =
        "    print(f'Logged in as \x7bbot.user\x7d'".toList ++ [')'] by decide) (by decide)

/-- A program opens with the rows of its header. -/
theorem prefix_rows_header
    (hd : d ∈ all)
    {program : Text}
    (h : d.program catalog mode c = .ok program) :
    (d.header c.types).rows d.spelling <+: Text.splitOn '\n' program := by
  obtain ⟨units, -, rfl⟩ := exists_units h
  obtain ⟨separator, hseparator⟩ : ∃ rest, d.sectionSeparator = '\n' :: rest := by
    rcases mem_all.1 hd with rfl | rfl
    · exact ⟨_, rfl⟩
    · exact ⟨_, rfl⟩
  have hsections : d.sections catalog c units =
      d.header c.types :: (((d.handlers catalog units).run []).1 ++
        [d.footer (commands catalog units)]) := rfl
  -- the footer comes last, so there is a separator behind the header
  obtain ⟨next, others, hothers⟩ := List.exists_cons_of_ne_nil
    (l := ((d.handlers catalog units).run []).1 ++ [d.footer (commands catalog units)]) (by simp)
  rw [hsections, hothers, List.map_cons, List.map_cons, stripEndChar_header hd, Text.join,
    List.intercalate_cons_cons, hseparator, List.append_assoc, List.append_assoc, List.cons_append,
    Text.splitOn_append]
  exact List.prefix_append _ _

end Dialect

/-! ## Imports and packages -/

/-- A project imports by a row: it is one of the rows of a header that the program opens with. -/
def Project.Imports (p : Project) (d : Dialect) (types : List String) (row : String) : Prop :=
  ∃ f, p.file? d.entryPoint = some f ∧
    (d.header types).rows d.spelling <+: Text.splitOn '\n' f.content.toList ∧
    row.toList ∈ (d.header types).rows d.spelling

namespace Exporter.MadeFrom

variable {x : Exporter}
variable {r : ExportRequest}
variable {p : Project}
variable {d : Dialect}
variable {program : Text}

/-- A row of the header imports. -/
theorem imports
    (h : x.MadeFrom r p d program)
    {row : String}
    (hrow : row.toList ∈ (d.header r.canvas.types).rows d.spelling) :
    p.Imports d r.canvas.types row := by
  refine ⟨_, h.entry, ?_, hrow⟩
  rw [String.toList_ofList]
  exact Dialect.prefix_rows_header h.dialect h.emitted

end Exporter.MadeFrom

namespace Braced

/-- The row that imports the library for voice. -/
def voiceRow : String :=
  "const \x7b joinVoiceChannel, getVoiceConnection \x7d = require('@discordjs/voice');"

/-- It is in the header of programs with voice blocks. -/
theorem voiceRow_mem_header
    {types : List String}
    (h : usesAny types voiceTypes = true) :
    voiceRow.toList ∈ (header types).rows spelling := by
  rw [header, if_pos h]
  refine Code.row_mem_rows_stack (by decide) (List.mem_append_left _ (List.mem_append_right _ ?_))
  exact List.mem_singleton_self _

end Braced

namespace Offside

/-- The row that imports the library for requests is in the header of programs that send some. -/
theorem requestRow_mem_header
    {types : List String}
    (h : usesAny types requestTypes = true) :
    "import aiohttp".toList ∈ (header types).rows spelling := by
  rw [header, if_pos h]
  refine Code.row_mem_rows_stack (by decide) (List.mem_append_left _ (List.mem_append_right _ ?_))
  exact List.mem_singleton_self _

/-- The rows that import the libraries for calculations are in the header of programs with some. -/
theorem mathRows_mem_header
    {types : List String}
    (h : usesAny types ["math_advanced"] = true) :
    "import math".toList ∈ (header types).rows spelling ∧
      "import random".toList ∈ (header types).rows spelling := by
  have hmath : types.contains "math_advanced" = true := by
    simpa [usesAny] using h
  rw [header, if_pos hmath, List.append_assoc, List.append_assoc]
  constructor
  · exact Code.row_mem_rows_stack (by decide)
      (List.mem_append_left _ (List.mem_append_right _ List.mem_cons_self))
  · exact Code.row_mem_rows_stack (by decide)
      (List.mem_append_left _ (List.mem_append_right _ (List.mem_cons_of_mem _ List.mem_cons_self)))

end Offside

namespace Exporter

/--
What the statements of a program use is there. If a flow of the program reaches a voice block, the
library for voice is imported and its package installed; the same holds of blocks that send requests
and of calculations, as far as the language needs a library for them.
-/
theorem libraries_of_runs
    {x : Exporter}
    {r : ExportRequest}
    {p : Project}
    (h : x.project r = .ok p)
    {b : Block}
    (hb : Dialect.Runs x.catalog x.config.traversal r.canvas b) :
    (r.language = "discord.js" → b.type ∈ voiceTypes →
      p.Imports Braced.dialect r.canvas.types Braced.voiceRow ∧
        p.Installs Braced.dialect "@discordjs/voice") ∧
    (r.language = "discord.py" →
      (b.type ∈ voiceTypes → p.Installs Offside.dialect "PyNaCl") ∧
      (b.type ∈ requestTypes → p.Imports Offside.dialect r.canvas.types "import aiohttp" ∧
        p.Installs Offside.dialect "aiohttp") ∧
      (b.type = "math_advanced" → p.Imports Offside.dialect r.canvas.types "import math" ∧
        p.Imports Offside.dialect r.canvas.types "import random")) := by
  have huses : ∀ wanted : List String, b.type ∈ wanted →
      usesAny r.canvas.types wanted = true := by
    intro wanted hwanted
    exact Canvas.usesAny_types_iff.2 ⟨b, Dialect.mem_blocks_of_runs hb, hwanted⟩
  constructor
  · intro hlanguage hvoice
    obtain ⟨program, hmade⟩ := exists_madeFrom_of_language Braced.dialect_mem_all h hlanguage
    refine ⟨hmade.imports (Braced.voiceRow_mem_header (huses _ hvoice)), hmade.installs_iff.2 ?_⟩
    exact Braced.mem_dependencies_iff.2 (.inr ⟨by decide, .inl (huses _ hvoice)⟩)
  · intro hlanguage
    obtain ⟨program, hmade⟩ := exists_madeFrom_of_language Offside.dialect_mem_all h hlanguage
    refine ⟨fun hvoice => ?_, fun hrequest => ⟨?_, ?_⟩, fun hmath => ?_⟩
    · exact hmade.installs_iff.2
        (Offside.mem_dependencies_iff.2 (.inr (.inr ⟨by decide, huses _ hvoice⟩)))
    · exact hmade.imports (Offside.requestRow_mem_header (huses _ hrequest))
    · exact hmade.installs_iff.2
        (Offside.mem_dependencies_iff.2 (.inr (.inl ⟨by decide, .inl (huses _ hrequest)⟩)))
    · have hrows := Offside.mathRows_mem_header
        (huses ["math_advanced"] (List.mem_singleton.2 hmath))
      exact ⟨hmade.imports hrows.1, hmade.imports hrows.2⟩

/-- A slash command. -/
def lookupCommand : Block :=
  ⟨"lookup", "command_slash", .zero, .zero, [("name", .str "lookup")], "triggers", ""⟩

/-- Its subcommand. -/
def lookupSubcommand : Block :=
  ⟨"web", "command_subcommand", .zero, .zero, [("name", .str "web")], "triggers", ""⟩

/-- What the subcommand asks. -/
def lookupCondition : Block :=
  ⟨"ask", "if_condition", .zero, .zero, [("condition", .str "a > 1")], "conditions", ""⟩

/-- What it does if the answer is no. -/
def lookupFetch : Block :=
  ⟨"fetch", "http_request", .zero, .zero, [("url", .str "https://example.org")], "actions", ""⟩

/-- A request for a bot that looks something up in an arm of a subcommand. -/
def lookupRequest : ExportRequest where
  canvas := ⟨[lookupCommand, lookupSubcommand, lookupCondition, lookupFetch],
    [⟨"1", "lookup", "web", none, none⟩, ⟨"2", "web", "ask", none, none⟩,
     ⟨"3", "ask", "fetch", some "false", none⟩]⟩
  language := "discord.py"
  credentials := .none

/-- Its program imports the library for requests, and the manifest lists it. -/
theorem libraries_of_lookupRequest :
    ∃ p, (Exporter.mk ⟨[]⟩ { Config.standard with traversal := .connections }).project
        lookupRequest = .ok p ∧
      p.Imports Offside.dialect lookupRequest.canvas.types "import aiohttp" ∧
      p.Installs Offside.dialect "aiohttp" := by
  have hreach : Flow.Reaches lookupFetch
      (Flow.linearize ⟨[]⟩ .connections lookupRequest.canvas (some lookupSubcommand)) := by
    show Flow.Reaches lookupFetch (Flow.walk ⟨[]⟩ lookupRequest.canvas ["web"] "ask")
    rw [Flow.walk_of_some (show lookupRequest.canvas.block? "ask" = some lookupCondition from rfl)]
    refine .arm (show Flow.branching? "if_condition" = some .choice from rfl)
      (show "false" ∈ ["true", "false"] by simp) rfl ?_
    show Flow.Reaches lookupFetch (Flow.walk ⟨[]⟩ lookupRequest.canvas ["ask", "web"] "fetch")
    rw [Flow.walk_of_some (show lookupRequest.canvas.block? "fetch" = some lookupFetch from rfl)]
    exact .here
  have hstart : Dialect.Starts ⟨[]⟩ lookupRequest.canvas lookupSubcommand :=
    .subcommand (t := lookupCommand) List.mem_cons_self List.mem_cons_self
  obtain ⟨p, hp⟩ := exists_project (r := lookupRequest)
    (x := ⟨⟨[]⟩, { Config.standard with traversal := .connections }⟩) (by decide) (by decide +kernel)
  obtain ⟨-, hlibraries⟩ := libraries_of_runs hp ⟨lookupSubcommand, hstart, hreach⟩
  exact ⟨p, hp, (hlibraries rfl).2.1 (by decide)⟩

end Exporter

end BotCanvas
