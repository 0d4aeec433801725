import BotCanvas.Flow.Basic

/-!
# Walking along connections

The walk from a block follows the first connection that leaves each block. It stops before a
trigger or a block already on its path, and at a branching block, whose arms are walked separately
from their output handles. Each arm knows the path up to the branching block and nothing of the
other arm.
-/

namespace BotCanvas

namespace Canvas

/-- The blocks whose identifiers are not on a path. -/
def unvisited (c : Canvas) (path : List String) : List Block :=
  c.blocks.filter fun b => !path.contains b.id

/-- The block that a look-up finds is on the canvas under its identifier. -/
theorem mem_and_id_of_block? {c : Canvas} {id : String} {b : Block} (h : c.block? id = some b) :
    b ∈ c.blocks ∧ b.id = id := by
  unfold block? at h
  exact ⟨List.mem_of_find?_eq_some h, by simpa using List.find?_some h⟩

/-- Visiting a block leaves fewer blocks unvisited. -/
theorem length_unvisited_cons_lt {c : Canvas} {id : String} {b : Block} {path : List String}
    (h : c.block? id = some b) (fresh : path.contains id = false) :
    (c.unvisited (id :: path)).length < (c.unvisited path).length := by
  obtain ⟨mem, rfl⟩ := mem_and_id_of_block? h
  have sub : c.unvisited (b.id :: path) = (c.unvisited path).filter fun x => x.id != b.id := by
    simp only [unvisited, List.filter_filter]
    apply List.filter_congr
    intro x _
    cases hx : x.id == b.id <;> simp_all [bne]
  rw [sub]
  apply List.length_filter_lt_length_iff_exists.2
  refine ⟨b, ?_, by simp⟩
  simp only [unvisited, List.mem_filter]
  exact ⟨mem, by simpa using fresh⟩

end Canvas

namespace Flow

/-- The handles that lead to the arm for yes. A connection from no handle counts as one. -/
def yesHandles : List (Option String) :=
  [some "true", some "then", some "yes", some "output_0", none]

/-- The handles that lead to the arm for no. -/
def noHandles : List (Option String) :=
  [some "false", some "else", some "no", some "output_1"]

/-- The first connection that leaves a block from one of the given handles. -/
def firstFrom (canvas : Canvas) (id : String) (handles : List (Option String)) :
    Option Connection :=
  (canvas.outgoing id).find? fun e => handles.contains e.sourceHandle

/-- The arms of a branching block by name, each with the connection that enters it. -/
def entries (canvas : Canvas) (b : Block) : Branching → List (String × Option Connection)
  | .recovery => [("body", (canvas.outgoing b.id).head?)]
  | _ => [("true", firstFrom canvas b.id yesHandles), ("false", firstFrom canvas b.id noHandles)]

/-- The steps from a block onwards, given the identifiers on the path before it. -/
def walk (catalog : Catalog) (canvas : Canvas) (path : List String) (start : String) :
    List Step :=
  match found : canvas.block? start with
  | none => []
  | some b =>
      if seen : path.contains start then []
      else if isTrigger catalog b then []
      else
        have : (canvas.unvisited (start :: path)).length < (canvas.unvisited path).length :=
          Canvas.length_unvisited_cons_lt found (by simpa using seen)
        match branching? b.type with
        | some way =>
            [.mk b ((entries canvas b way).map fun (name, entry) =>
              (name, match entry with
                | none => []
                | some e => walk catalog canvas (start :: path) e.target))]
        | none =>
            .plain b :: match (canvas.outgoing b.id).head? with
              | none => []
              | some e => walk catalog canvas (start :: path) e.target
termination_by (canvas.unvisited path).length

/-- The steps that run when a trigger fires. By position, and without a trigger, these are all
actions; along connections they are the walk from the trigger's first connection. -/
def linearize (catalog : Catalog) (mode : Traversal) (canvas : Canvas)
    (trigger : Option Block) : List Step :=
  match mode, trigger with
  | .connections, some t =>
      match (canvas.outgoing t.id).head? with
      | none => []
      | some e => walk catalog canvas [t.id] e.target
  | _, _ => (actions catalog canvas).map .plain

end Flow

end BotCanvas
