import BotCanvas.Value.Basic

/-!
# The canvas

A canvas is the graph that the editor draws: blocks, and connections between them by block
identifier. Identifiers may be repeated and connections may dangle. A look-up finds the first block
of an identifier, and connections keep their order.
-/

namespace BotCanvas

/-- A block: a node of the graph. -/
structure Block where
  id : String
  type : String
  x : Binary64
  y : Binary64
  properties : List (String × Value)
  category : String
  label : String

/-- A connection: an edge of the graph, from a named output handle or from none. -/
structure Connection where
  id : String
  source : String
  target : String
  sourceHandle : Option String
  targetHandle : Option String
  deriving DecidableEq

namespace Connection

/-- Tests for a connection from a block to itself. -/
def isSelfLoop (c : Connection) : Bool :=
  c.source == c.target

end Connection

/-- A canvas. -/
structure Canvas where
  blocks : List Block
  connections : List Connection

namespace Canvas

/-- The canvas with nothing on it. -/
def empty : Canvas := ⟨[], []⟩

/-- The first block of an identifier. -/
def block? (c : Canvas) (id : String) : Option Block :=
  c.blocks.find? fun b => b.id == id

/-- The connections that leave a block, in order. -/
def outgoing (c : Canvas) (id : String) : List Connection :=
  c.connections.filter fun e => e.source == id

/-- The connections that leave a block from one handle, in order. -/
def outgoingFrom (c : Canvas) (id handle : String) : List Connection :=
  (c.outgoing id).filter fun e => e.sourceHandle == some handle

/-- The connections that arrive at a block, in order. -/
def incoming (c : Canvas) (id : String) : List Connection :=
  c.connections.filter fun e => e.target == id

/-- Connections that leave a block are on the canvas and start there. -/
theorem mem_outgoing {c : Canvas} {id : String} {e : Connection} :
    e ∈ c.outgoing id ↔ e ∈ c.connections ∧ e.source = id := by
  simp [outgoing]

/-- Connections that arrive at a block are on the canvas and end there. -/
theorem mem_incoming {c : Canvas} {id : String} {e : Connection} :
    e ∈ c.incoming id ↔ e ∈ c.connections ∧ e.target = id := by
  simp [incoming]

/-- The block types on the canvas, each once, in order of first appearance. -/
def types (c : Canvas) : List String :=
  c.blocks.foldl (fun seen b => if seen.contains b.type then seen else seen ++ [b.type]) []

/-- Tests for a block of one of the given types. -/
def hasType (c : Canvas) (types : List String) : Bool :=
  c.blocks.any fun b => types.contains b.type

end Canvas

end BotCanvas
