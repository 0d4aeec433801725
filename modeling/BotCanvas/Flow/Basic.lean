import BotCanvas.Canvas.Basic
import BotCanvas.Catalog.Basic

/-!
# Flows

A flow is what runs when a trigger fires: a list of steps, each a block, and for a branching block
the arms that were traced for it.

**Classification.** A subcommand is a trigger; any other block is one if its category says so, or,
for a block that stores no category, the category of its type.
-/

namespace BotCanvas

/-- How the order of actions is derived: from vertical positions or along connections. -/
inductive Traversal
  | position
  | connections
  deriving DecidableEq

namespace Traversal

/-- All traversals with their names. -/
def table : List (String × Traversal) :=
  [("position", position), ("connections", connections)]

/-- The name of a traversal. -/
def name : Traversal → String
  | position => "position"
  | connections => "connections"

/-- The traversal that a value names, or the message that it names none. -/
def ofValue (v : Value) : Except String Traversal :=
  let unknown := String.ofList (v.shown ++ " is not a valid TraversalMode")
  match v with
  | .str s => (table.lookup s).elim (.error unknown) .ok
  | _ => .error unknown

/-- Every traversal is read from its name. -/
theorem ofValue_name (t : Traversal) : ofValue (.str t.name) = .ok t := by
  cases t <;> simp [ofValue, name, table, List.lookup_cons]

end Traversal

/-- A step of a flow: a block and its traced arms by name. -/
inductive Step
  | mk (block : Block) (arms : List (String × List Step))

namespace Step

/-- The block of a step. -/
def block : Step → Block
  | mk b _ => b

/-- The arms of a step. -/
def arms : Step → List (String × List Step)
  | mk _ arms => arms

/-- A step without arms. -/
def plain (b : Block) : Step :=
  mk b []

end Step

namespace Flow

/-- The type of subcommands. -/
def subcommandType : String := "command_subcommand"

/-- How a branching block goes on: by one of two arms, past a permission check, or through a body
whose errors are caught. -/
inductive Branching
  | choice
  | gate
  | recovery
  deriving DecidableEq

/-- The branching block types. -/
def branchingTable : List (String × Branching) :=
  [("if_condition", .choice), ("condition_has_role", .choice),
   ("condition_has_permission", .choice), ("check_permissions", .gate),
   ("check_bot_permissions", .gate), ("error_handler", .recovery)]

/-- How a block of a type branches, if it does. -/
def branching? (type : String) : Option Branching :=
  branchingTable.lookup type

/-- The category of a block: the one it stores, else that of its type, else none. -/
def category (catalog : Catalog) (b : Block) : String :=
  if b.category.isEmpty then ((catalog.lookup? b.type).map BlockDefinition.category).getD ""
  else b.category

/-- Tests for a block that starts a flow. -/
def isTrigger (catalog : Catalog) (b : Block) : Bool :=
  b.type == subcommandType || category catalog b == BlockDefinition.triggerCategory

/-- The triggers of a canvas in document order. -/
def triggers (catalog : Catalog) (canvas : Canvas) : List Block :=
  canvas.blocks.filter (isTrigger catalog)

/-- The order of blocks by vertical position. -/
def above (a b : Block) : Bool :=
  a.y.le b.y

/-- The blocks that are no triggers, by vertical position; blocks at one height keep document
order. -/
def actions (catalog : Catalog) (canvas : Canvas) : List Block :=
  (canvas.blocks.filter fun b => !isTrigger catalog b).mergeSort above

/-- The subcommands wired to a command, in the order of the connections, each identifier once. -/
def subcommands (canvas : Canvas) (command : Block) : List Block :=
  (canvas.outgoing command.id).foldl
    (fun found e =>
      match canvas.block? e.target with
      | some b =>
          if b.type == subcommandType && !(found.any fun f => f.id == b.id) then found ++ [b]
          else found
      | none => found)
    []

end Flow

end BotCanvas
