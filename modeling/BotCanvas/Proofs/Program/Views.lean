import BotCanvas.Proofs.Braced.Runs
import BotCanvas.Proofs.Program.Contents

/-!
# What each traversal looks at

Along connections, a program depends on where connections lead and on the order of those that leave
one block; neither the places of blocks nor the order of all connections matter. By position it
depends on the blocks; connections matter only for the subcommands that they wire to slash commands.

A change that a traversal does not see keeps the program as it is, also if there is none
(`program_of_unseen_change`).
-/

namespace BotCanvas

/-- A block may be drawn at another place. -/
def Block.Moved (b b' : Block) : Prop :=
  ∃ x y, b' = { b with x := x, y := y }

/-- Blocks may be moved, and connections may be put in another order in which those that leave one
block keep theirs. -/
structure Canvas.Rearranged (c c' : Canvas) : Prop where
  blocks : List.Forall₂ Block.Moved c.blocks c'.blocks
  outgoing : ∀ id, c'.outgoing id = c.outgoing id

/-- Connections may change as long as every slash command keeps its subcommands. -/
structure Canvas.Rewired (catalog : Catalog) (c c' : Canvas) : Prop where
  blocks : c'.blocks = c.blocks
  subcommands : ∀ t ∈ Flow.triggers catalog c, t.type = "command_slash" →
    Flow.subcommands c' t = Flow.subcommands c t

namespace Block.Moved

variable {b b' : Block}

/-- The place of a block is not among its contents. -/
theorem sameContents
    (h : b.Moved b') :
    b.SameContents b' := by
  obtain ⟨x, y, rfl⟩ := h
  rfl

end Block.Moved

/-- Walks do not look at places. -/
theorem keepsNodes_moved :
    KeepsNodes id Block.Moved := by
  refine ⟨fun _ _ h => h, ?_, ?_, ?_⟩ <;>
    · rintro b b' ⟨x, y, rfl⟩
      rfl

variable {catalog : Catalog}
variable {c c' : Canvas}

/-- Walks go alike on a canvas that was rearranged. -/
theorem Canvas.Rearranged.walksAlike
    (h : c.Rearranged c') :
    WalksAlike id Block.Moved c c' where
  nodes := keepsNodes_moved
  block? := fun id => keepsNodes_moved.block? h.blocks id
  outgoing := fun name => by
    show List.Forall₂ (ConnectionsAlike id) (c.outgoing name) (c'.outgoing name)
    rw [h.outgoing name]
    exact List.forall₂_same.2 fun _ _ => ⟨rfl, rfl, rfl⟩

/-- Along connections, a canvas that was rearranged has the same handlers. -/
theorem Canvas.Rearranged.handlersAlike
    (h : c.Rearranged c') :
    Dialect.HandlersAlike catalog .connections Block.Moved Block.SameContents c c' where
  triggers := keepsNodes_moved.triggers h.blocks
  subcommands := fun _ _ _ _ ht => h.walksAlike.subcommands ht
  flows := fun _ _ ht => h.walksAlike.linearize_connections ht
  type := keepsNodes_moved.type
  closer := fun _ _ hb _ => hb.sameContents
  contents := fun _ _ hb => hb

/-- A trigger that becomes a slash command has its type. -/
theorem TriggerKind.type_of_slash
    {type : String}
    (h : TriggerKind.ofType? type = some .slash) :
    type = "command_slash" := by
  have hrow := mem_of_lookup h
  simpa [TriggerKind.table] using hrow

/-- By position, a canvas that was rewired has the same handlers. -/
theorem Canvas.Rewired.handlersAlike
    (h : c.Rewired catalog c') :
    Dialect.HandlersAlike catalog .position Eq Block.SameContents c c' where
  triggers := by
    rw [List.forall₂_eq_eq_eq, Flow.triggers, Flow.triggers, h.blocks]
  subcommands := by
    rintro t _ hmem hslash rfl
    rw [List.forall₂_eq_eq_eq, h.subcommands t hmem (TriggerKind.type_of_slash hslash)]
  flows := by
    rintro t _ rfl
    show StepsAlike Eq ((Flow.actions catalog c).map .plain) ((Flow.actions catalog c').map .plain)
    rw [Flow.actions, Flow.actions, h.blocks]
    exact stepsAlike_plain (List.forall₂_same.2 fun _ _ => rfl)
  type := by
    rintro b _ rfl
    rfl
  closer := fun _ _ hb _ => .of_eq hb
  contents := fun _ _ hb => hb

/-- A change that a traversal does not see keeps the program as it is. -/
theorem program_of_unseen_change
    {d : Dialect}
    (hd : d ∈ Dialect.all)
    (catalog : Catalog)
    (c c' : Canvas) :
    (c.Rearranged c' → d.program catalog .connections c' = d.program catalog .connections c) ∧
      (c.Rewired catalog c' → d.program catalog .position c' = d.program catalog .position c) := by
  have hcontents := Dialect.readsContents hd
  constructor
  · intro h
    exact hcontents.program_eq (fun _ _ hb => hb.sameContents) h.handlersAlike
      (keepsNodes_moved.types_eq h.blocks)
  · intro h
    have htypes : c'.types = c.types := by
      rw [Canvas.types, Canvas.types, h.blocks]
    exact hcontents.program_eq (fun _ _ => .of_eq) h.handlersAlike htypes

/-- A slash command with a subcommand, and two answers. -/
def greetingBlocks : List Block :=
  [⟨"greet", "command_slash", .zero, .zero, [("name", .str "greet")], "triggers", ""⟩,
   ⟨"all", "command_subcommand", .zero, .zero, [("name", .str "all")], "triggers", ""⟩,
   ⟨"hi", "action_reply", .zero, .zero, [("content", .str "hi")], "actions", ""⟩,
   ⟨"ho", "action_reply", .zero, .zero, [("content", .str "ho")], "actions", ""⟩]

/-- The subcommand answers once. -/
def greetingCanvas : Canvas :=
  ⟨greetingBlocks, [⟨"1", "greet", "all", none, none⟩, ⟨"2", "all", "hi", none, none⟩]⟩

/-- The same with the answers drawn higher and the connections in the other order. -/
def redrawnCanvas : Canvas :=
  ⟨greetingBlocks.map fun b => { b with x := .finite true 1, y := .finite true 2 },
   greetingCanvas.connections.reverse⟩

/-- The same with the subcommand leading elsewhere. -/
def reroutedCanvas : Canvas :=
  ⟨greetingBlocks, [⟨"1", "greet", "all", none, none⟩, ⟨"2", "all", "ho", none, none⟩,
    ⟨"3", "ho", "hi", none, none⟩]⟩

/-- Each of the two changes is unseen by one traversal. -/
theorem program_greetingCanvas :
    (∃ program, Braced.dialect.program ⟨[]⟩ .connections greetingCanvas = .ok program ∧
      Braced.dialect.program ⟨[]⟩ .connections redrawnCanvas = .ok program) ∧
    ∃ program, Braced.dialect.program ⟨[]⟩ .position greetingCanvas = .ok program ∧
      Braced.dialect.program ⟨[]⟩ .position reroutedCanvas = .ok program := by
  have hrange : ∀ b ∈ greetingCanvas.blocks, (Subject.mk ⟨[]⟩ b).InRange Braced.quantities := by
    decide +kernel
  have hbraced : Braced.dialect ∈ Dialect.all := by simp [Dialect.all]
  have hrearranged : greetingCanvas.Rearranged redrawnCanvas := by
    constructor
    · unfold redrawnCanvas greetingCanvas
      rw [List.forall₂_map_right_iff]
      exact List.forall₂_same.2 fun b _ => ⟨_, _, rfl⟩
    · intro name
      by_cases hname : "greet" = name
      · subst hname
        rfl
      · simp [redrawnCanvas, greetingCanvas, Canvas.outgoing, List.filter_cons, hname]
  have hrewired : greetingCanvas.Rewired ⟨[]⟩ reroutedCanvas := by
    refine ⟨rfl, fun t ht htype => ?_⟩
    have hmem : t ∈ greetingBlocks := List.mem_of_mem_filter ht
    rw [greetingBlocks] at hmem
    rcases List.mem_cons.1 hmem with rfl | hmem
    · rfl
    · simp only [List.mem_cons, List.not_mem_nil, or_false] at hmem
      rcases hmem with rfl | rfl | rfl <;> simp at htype
  obtain ⟨hconnections, -⟩ :=
    program_of_unseen_change hbraced ⟨[]⟩ greetingCanvas redrawnCanvas
  obtain ⟨-, hposition⟩ :=
    program_of_unseen_change hbraced ⟨[]⟩ greetingCanvas reroutedCanvas
  obtain ⟨along, halong⟩ := Braced.exists_program hrange .connections
  obtain ⟨placed, hplaced⟩ := Braced.exists_program hrange .position
  exact ⟨⟨along, halong, (hconnections hrearranged).trans halong⟩,
    placed, hplaced, (hposition hrewired).trans hplaced⟩

end BotCanvas
