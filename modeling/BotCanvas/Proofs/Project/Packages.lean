import BotCanvas.Proofs.Braced.Quiet
import BotCanvas.Proofs.Offside.Quiet
import BotCanvas.Proofs.Project.Manifest

/-!
# Optional packages

A dialect looks for the name or the import of a library in the program that it made, and the program
holds the user's texts. So a package is installed if a block needs it, or if a text in the program
has that phrase in it (`Exporter.installs_of_project`). Apart from that, no text has a say in what is
installed.
-/

namespace BotCanvas

namespace Exporter

/-- One of the user's texts in the program of a request has the phrase that its dialect looks for. -/
def Spells (x : Exporter) (r : ExportRequest) : Prop :=
  r.language = "discord.js" ∧
      Braced.dialect.Spells x.catalog x.config.traversal r.canvas Braced.voicePhrase ∨
    r.language = "discord.py" ∧
      Offside.dialect.Spells x.catalog x.config.traversal r.canvas Offside.requestPhrase

variable {x : Exporter}
variable {r r' : ExportRequest}
variable {p p' : Project}
variable {program program' : Text}

/-- In the language with braces, the packages for voice are asked for if a block uses voice channels
or a text names their library. -/
theorem MadeFrom.asksForVoice_iff
    (h : x.MadeFrom r p Braced.dialect program) :
    usesAny r.canvas.types voiceTypes = true ∨ Braced.voicePhrase <:+: program ↔
      (∃ b ∈ r.canvas.blocks, b.type ∈ voiceTypes) ∨ x.Spells r := by
  have hlanguage : r.language = "discord.js" := h.language.symm
  have hspells : x.Spells r ↔
      Braced.dialect.Spells x.catalog x.config.traversal r.canvas Braced.voicePhrase := by
    simp [Spells, hlanguage]
  rw [← Canvas.usesAny_types_iff, hspells]
  exact or_congr_right' fun hvoice =>
    Braced.voice_infix_program_iff (Bool.eq_false_of_not_eq_true hvoice) h.emitted

/-- In the language with suites, the package for requests is asked for if a block sends one or a text
imports their library. -/
theorem MadeFrom.asksForRequests_iff
    (h : x.MadeFrom r p Offside.dialect program) :
    usesAny r.canvas.types requestTypes = true ∨ Offside.requestPhrase <:+: program ↔
      (∃ b ∈ r.canvas.blocks, b.type ∈ requestTypes) ∨ x.Spells r := by
  have hlanguage : r.language = "discord.py" := h.language.symm
  have hspells : x.Spells r ↔
      Offside.dialect.Spells x.catalog x.config.traversal r.canvas Offside.requestPhrase := by
    simp [Spells, hlanguage]
  rw [← Canvas.usesAny_types_iff, hspells]
  exact or_congr_right' fun hrequest =>
    Offside.request_infix_program_iff (Bool.eq_false_of_not_eq_true hrequest) h.emitted

/-- What a search finds in the program that was made is in it. -/
theorem MadeFrom.infix_of_occursIn
    {d : Dialect}
    {w : Text}
    (h : x.MadeFrom r p d program)
    (hw : (d.program x.catalog x.config.traversal r.canvas).toOption.any (Text.occursIn w) = true) :
    w <:+: program := by
  rw [h.emitted] at hw
  exact Text.occursIn_iff.1 hw

/-- The same packages are asked for if a text names the library in both cases or in neither. -/
theorem dependencies_eq
    (h : x.project r = .ok p)
    (h' : x.project r' = .ok p')
    (hlanguage : r'.language = r.language)
    (htypes : r'.canvas.blocks.map Block.type = r.canvas.blocks.map Block.type)
    (hspells : x.Spells r' ↔ x.Spells r) :
    p'.dependencies = p.dependencies := by
  have huses : ∀ wanted : List String,
      (∃ b ∈ r'.canvas.blocks, b.type ∈ wanted) ↔ ∃ b ∈ r.canvas.blocks, b.type ∈ wanted := by
    intro wanted
    have hmap : ∀ c : Canvas, (∃ b ∈ c.blocks, b.type ∈ wanted) ↔
        ∃ type ∈ c.blocks.map Block.type, type ∈ wanted := by
      simp
    rw [hmap, htypes, ← hmap]
  obtain ⟨d, program, hmade⟩ := exists_madeFrom h
  obtain ⟨program', hmade'⟩ :=
    exists_madeFrom_of_language hmade.dialect h' (hlanguage.trans hmade.language.symm)
  rw [hmade.dependencies, hmade'.dependencies]
  rcases List.mem_cons.1 hmade.dialect with rfl | hd
  · have hasks := hmade'.asksForVoice_iff
    rw [huses, hspells, ← hmade.asksForVoice_iff] at hasks
    exact Braced.dependencies_congr hasks
  · obtain rfl := List.mem_singleton.1 hd
    have hasks := hmade'.asksForRequests_iff
    rw [huses, hspells, ← hmade.asksForRequests_iff] at hasks
    refine Offside.dependencies_congr hasks ?_
    rw [Canvas.usesAny_types_iff, Canvas.usesAny_types_iff, huses]

/--
A project installs the packages of its library, and those for voice or for requests if a block needs
them or, where the dialect looks for a phrase in the program, if a text has that phrase in it. Apart
from that, the texts on the canvas have no say in what is installed.
-/
theorem installs_of_project
    (h : x.project r = .ok p) :
    (r.language = "discord.js" → ∀ package, p.Installs Braced.dialect package ↔
      package ∈ ["discord.js", "dotenv"] ∨
      package ∈ ["@discordjs/voice", "libsodium-wrappers"] ∧
        ((∃ b ∈ r.canvas.blocks, b.type ∈ voiceTypes) ∨ x.Spells r)) ∧
    (r.language = "discord.py" → ∀ package, p.Installs Offside.dialect package ↔
      package ∈ ["discord.py", "python-dotenv"] ∨
      package ∈ ["aiohttp"] ∧
        ((∃ b ∈ r.canvas.blocks, b.type ∈ requestTypes) ∨ x.Spells r) ∨
      package ∈ ["PyNaCl"] ∧ ∃ b ∈ r.canvas.blocks, b.type ∈ voiceTypes) ∧
    ∀ r' p', x.project r' = .ok p' → r'.language = r.language →
      r'.canvas.blocks.map Block.type = r.canvas.blocks.map Block.type →
      (x.Spells r' ↔ x.Spells r) → p'.dependencies = p.dependencies := by
  refine ⟨fun hlanguage package => ?_, fun hlanguage package => ?_, fun r' p' h' => ?_⟩
  · obtain ⟨program, hmade⟩ := exists_madeFrom_of_language Braced.dialect_mem_all h hlanguage
    rw [← hmade.asksForVoice_iff]
    exact hmade.installs_iff.trans Braced.mem_dependencies_iff
  · obtain ⟨program, hmade⟩ := exists_madeFrom_of_language Offside.dialect_mem_all h hlanguage
    rw [← hmade.asksForRequests_iff, ← Canvas.usesAny_types_iff]
    exact hmade.installs_iff.trans Offside.mem_dependencies_iff
  · exact dependencies_eq h h'

/-- A request for a bot with one command and its description. -/
def describedRequest (language description : String) : ExportRequest where
  canvas :=
    ⟨[⟨"1", "command_slash", .zero, .zero,
      [("name", .str "ping"), ("description", .str description)], "triggers", ""⟩], []⟩
  language := language
  credentials := .none

/-- An exporter that follows connections. -/
def followingExporter : Exporter :=
  ⟨.builtin, { Config.standard with traversal := .connections }⟩

/-- A description with the import of a library in it has its package installed, and no other. -/
theorem installs_of_describedRequest :
    ∃ p, followingExporter.project (describedRequest "discord.py" "import aiohttp") = .ok p ∧
      p.Installs Offside.dialect "aiohttp" ∧ ¬p.Installs Offside.dialect "PyNaCl" := by
  obtain ⟨p, hp⟩ := exists_project (x := followingExporter)
    (r := describedRequest "discord.py" "import aiohttp") (by decide) (by decide +kernel)
  obtain ⟨program, hmade⟩ := exists_madeFrom_of_language Offside.dialect_mem_all hp rfl
  have hspells : followingExporter.Spells (describedRequest "discord.py" "import aiohttp") := by
    refine .inr ⟨rfl, (Offside.request_infix_program_iff (by decide) hmade.emitted).1 ?_⟩
    exact hmade.infix_of_occursIn (by decide +kernel)
  obtain ⟨-, hinstalls, -⟩ := installs_of_project hp
  refine ⟨p, hp, (hinstalls rfl _).2 (.inr (.inl ⟨by decide, .inr hspells⟩)), fun hvoice => ?_⟩
  rcases (hinstalls rfl _).1 hvoice with hbase | ⟨hrequest, -⟩ | ⟨-, hneeded⟩
  · exact absurd hbase (by decide)
  · exact absurd hrequest (by decide)
  · exact absurd hneeded (by decide)

/-- A description with the name of a library in it has its packages installed without need. -/
theorem not_forall_installs_iff :
    ¬∀ (x : Exporter) (r : ExportRequest) (p : Project), x.project r = .ok p →
      r.language = "discord.js" →
      (p.Installs Braced.dialect "@discordjs/voice" ↔
        ∃ b ∈ r.canvas.blocks, b.type ∈ voiceTypes) := by
  intro hall
  obtain ⟨p, hp⟩ := exists_project (x := followingExporter)
    (r := describedRequest "discord.js" "@discordjs/voice") (by decide) (by decide +kernel)
  obtain ⟨program, hmade⟩ := exists_madeFrom_of_language Braced.dialect_mem_all hp rfl
  have hphrase : Braced.voicePhrase <:+: program :=
    hmade.infix_of_occursIn (by decide +kernel)
  have hneeded := (hall _ _ p hp rfl).1
    (hmade.installs_iff.2 (Braced.mem_dependencies_iff.2 (.inr ⟨by decide, .inr hphrase⟩)))
  exact absurd hneeded (by decide)

end Exporter

end BotCanvas
