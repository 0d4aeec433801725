import BotCanvas.Proofs.Program.Contents
import BotCanvas.Proofs.Project.Totality

/-!
# Names on a canvas

Identifiers only say which connections belong to which blocks. Giving other names to the blocks of a
canvas, and to the ends of its connections by the same rule, keeps the project as it is
(`project_of_renamed`), if different names stay different. Labels, horizontal places and the names
of connections and of the handles where they end are not looked at at all.
-/

namespace BotCanvas

/-- A block under another name, perhaps with another label and at another horizontal place. -/
structure Block.Renamed (ρ : String → String) (b b' : Block) : Prop where
  id : b'.id = ρ b.id
  type : b'.type = b.type
  y : b'.y = b.y
  properties : b'.properties = b.properties
  category : b'.category = b.category

variable {ρ : String → String}
variable {catalog : Catalog}
variable {c c' : Canvas}

/-- A name is not among the contents of a block. -/
theorem Block.Renamed.sameContents
    {b b' : Block}
    (h : b.Renamed ρ b') :
    b.SameContents b' := by
  show Block.contents b' = Block.contents b
  rw [Block.contents, Block.contents, h.type, h.properties]

/-- Names that stay different keep the order of blocks. -/
theorem keepsOrder_renamed
    (hρ : Function.Injective ρ) :
    KeepsOrder ρ (Block.Renamed ρ) where
  injective := hρ
  id := fun _ _ h => h.id
  type := fun _ _ h => h.type
  category := fun _ _ h => h.category
  y := fun _ _ h => h.y

/-- A canvas under other names has the same program. -/
theorem Dialect.program_of_renamed
    {d : Dialect}
    (hd : d ∈ all)
    (hρ : Function.Injective ρ)
    (hc : CanvasesAlike ρ (Block.Renamed ρ) c c')
    (mode : Traversal) :
    d.program catalog mode c' = d.program catalog mode c := by
  have hT := keepsOrder_renamed hρ
  have hhandlers : HandlersAlike catalog mode (Block.Renamed ρ) Block.SameContents c c' :=
    handlersAlike_of_canvasesAlike hT hc (fun _ _ hb _ => hb.sameContents) (fun _ _ hb => hb) mode
  exact (readsContents hd).program_eq (fun _ _ hb => hb.sameContents) hhandlers
    (hT.nodes.types_eq hc.blocks)

namespace Exporter

/-- A canvas under other names has as many triggers of each kind. -/
theorem counts_of_renamed
    (hρ : Function.Injective ρ)
    (hc : CanvasesAlike ρ (Block.Renamed ρ) c c') :
    counts catalog c' = counts catalog c := by
  have htriggers : List.Forall₂ (Block.Renamed ρ) (Flow.triggers catalog c)
      (Flow.triggers catalog c') :=
    hc.triggers (keepsOrder_renamed hρ)
  have htypes : (Flow.triggers catalog c').map Block.type =
      (Flow.triggers catalog c).map Block.type := by
    refine List.forall₂_eq_eq_eq ▸ ?_
    rw [List.forall₂_map_left_iff, List.forall₂_map_right_iff]
    exact htriggers.flip.imp fun b' b hb => hb.type
  have hcount : ∀ (canvas : Canvas) (kind : TriggerKind),
      ((Flow.triggers catalog canvas).countP fun t => TriggerKind.ofType? t.type == some kind) =
        ((Flow.triggers catalog canvas).map Block.type).countP fun type =>
          TriggerKind.ofType? type == some kind := by
    intro canvas kind
    rw [List.countP_map]
    rfl
  simp only [counts, hcount, htypes]

/-- A canvas under other names is exported as the same project, or fails alike. -/
theorem project_of_renamed
    (x : Exporter)
    (r : ExportRequest)
    (c' : Canvas)
    (ρ : String → String)
    (hρ : Function.Injective ρ)
    (hc : CanvasesAlike ρ (Block.Renamed ρ) r.canvas c') :
    x.project { r with canvas := c' } = x.project r := by
  unfold project
  cases hdialect : Dialect.ofLanguage r.language with
  | error e => rfl
  | ok d =>
      have hprogram : d.program x.catalog x.config.traversal c' =
          d.program x.catalog x.config.traversal r.canvas :=
        Dialect.program_of_renamed (Dialect.mem_of_ofLanguage hdialect).1 hρ hc _
      have htypes : c'.types = r.canvas.types :=
        (keepsOrder_renamed hρ).nodes.types_eq hc.blocks
      have hcontext : ∀ dependencies,
          x.context d { r with canvas := c' } dependencies = x.context d r dependencies := by
        intro dependencies
        unfold context
        rw [counts_of_renamed hρ hc]
      show x.projectIn d { r with canvas := c' } = x.projectIn d r
      simp only [projectIn, hprogram, htypes, hcontext]

/-- Blocks of which two share a name. -/
def echoBlocks : List Block :=
  [⟨"start", "event_listener", .zero, .zero, [("event", .str "ready")], "", "Start"⟩,
   ⟨"say", "console_log", .zero, .zero, [("message", .str "start")], "", ""⟩,
   ⟨"say", "console_log", .zero, .zero, [("message", .str "again")], "", ""⟩]

/-- A request for a bot that logs a line, with a connection that leads nowhere. -/
def echoRequest : ExportRequest where
  canvas := ⟨echoBlocks,
    [⟨"1", "start", "say", none, none⟩, ⟨"2", "say", "gone", none, some "in"⟩]⟩
  language := "discord.py"
  credentials := .none

/-- Its canvas under longer names. -/
def renamedCanvas : Canvas :=
  ⟨echoBlocks.map fun b => { b with id := "node-" ++ b.id, x := .nan, label := "start" },
   [⟨"7", "node-start", "node-say", none, some "in"⟩, ⟨"7", "node-say", "node-gone", none, none⟩]⟩

/-- The project is the same. -/
theorem project_of_renamedCanvas :
    ∃ p, (Exporter.mk .builtin { Config.standard with traversal := .connections }).project
        echoRequest = .ok p ∧
      (Exporter.mk .builtin { Config.standard with traversal := .connections }).project
        { echoRequest with canvas := renamedCanvas } = .ok p := by
  obtain ⟨p, hp⟩ := exists_project (r := echoRequest)
    (x := ⟨.builtin, { Config.standard with traversal := .connections }⟩)
    (by decide) (by decide +kernel)
  refine ⟨p, hp, (project_of_renamed _ echoRequest renamedCanvas ("node-" ++ ·) ?_ ?_).trans hp⟩
  · intro name name' hname
    exact (String.append_right_inj "node-").1 hname
  · constructor
    · unfold echoRequest renamedCanvas
      rw [List.forall₂_map_right_iff]
      exact List.forall₂_same.2 fun b _ => ⟨rfl, rfl, rfl, rfl, rfl⟩
    · exact .cons ⟨rfl, rfl, rfl⟩ (.cons ⟨rfl, rfl, rfl⟩ .nil)

end Exporter

end BotCanvas
