import BotCanvas.Canvas.Basic
import BotCanvas.Schema.Field

/-!
# Canvases read from documents

The editor stores a block with its properties, category and label either beside the identifier or
inside `data`; the former win. A canvas never fails to read: whatever is no valid block or
connection is left out.

A canvas can also be made from lists that hold blocks and connections made before, or from a canvas;
what was made before is taken as it is. Making a canvas takes two steps (`Canvas.check`): its lists
are brought to what is usable in them, and then each entry that is left is checked like any field.
The second step could refuse a canvas, but not after the first.
-/

namespace BotCanvas

open Schema

namespace Block

/-- The fields that the editor may keep inside `data`. -/
def liftedKeys : List String := ["properties", "category", "label"]

/-- Moves the fields of `data` up, where they are not given beside it. -/
def lift (fields : Fields) : Fields :=
  match getField? "data" fields with
  | some (.obj data) =>
      let kept := eraseField "data" fields
      kept ++ liftedKeys.filterMap fun key =>
        if hasField key kept then none else (getField? key data).map fun v => (key, v)
  | _ => fields

/-- Reads coordinates; what is no object stands for the origin. -/
def readPosition : Value → Checked (Binary64 × Binary64)
  | .obj fields =>
      Prod.mk <$> optional fields "x" .zero number <*> optional fields "y" .zero number
  | _ => .valid (.zero, .zero)

/-- Reads properties; what is no object stands for none. -/
def readProperties : Value → Checked Fields
  | .obj fields => .valid fields
  | _ => .valid []

/-- A block from its parts. -/
def ofParts (id type : String) (position : Binary64 × Binary64) (properties : Fields)
    (category label : String) : Block :=
  ⟨id, type, position.1, position.2, properties, category, label⟩

/-- Reads a block from its fields. -/
def readFields (fields : Fields) : Checked Block :=
  ofParts <$> required fields "id" identifier
    <*> required fields "type" text
    <*> optional fields "position" (.zero, .zero) readPosition
    <*> optional fields "properties" [] readProperties
    <*> optional fields "category" "" textOrBlank
    <*> optional fields "label" "" textOrBlank

/-- Reads a block. -/
def read : Value → Checked Block :=
  object (.notModel "Block") fun fields => readFields (lift fields)

end Block

namespace Connection

/-- Reads a connection. -/
def read : Value → Checked Connection :=
  object (.notModel "Connection") fun fields =>
    mk <$> optional fields "id" "" identifier
      <*> required fields "source" identifier
      <*> required fields "target" identifier
      <*> optionalEither fields "sourceHandle" "source_handle" none textOrNull
      <*> optionalEither fields "targetHandle" "target_handle" none textOrNull

end Connection

namespace Canvas

/-- The valid entries of a list, in order; what is no list has none. -/
def validEntries {α : Type} (read : Value → Checked α) : Option Value → List α
  | some (.arr items) => items.filterMap fun v => (read v).toOption
  | _ => []

/-- Reads a canvas. Anything has one. -/
def read : Value → Canvas
  | .obj fields =>
      ⟨validEntries Block.read (getField? "blocks" fields),
       validEntries Connection.read (getField? "connections" fields)⟩
  | _ => empty

end Canvas

/-! ## Entries made before -/

/-- An entry of a list: a value to be read, or an object made before. -/
inductive Entry (α : Type)
  | raw (v : Value)
  | ready (a : α)

namespace Entry

variable {α : Type}

/-- Checks an entry as part of a list. -/
def check (read : Value → Checked α) : Entry α → Checked α
  | raw v => read v
  | ready a => .valid a

/-- The object that an entry stands for, if it is usable. What is no object is passed over. -/
def usable? (read : Value → Checked α) : Entry α → Option α
  | ready a => some a
  | raw (.obj fields) => (read (.obj fields)).toOption
  | raw _ => none

/-- The entries of a list in a document; what is no list has none. -/
def ofField : Option Value → List (Entry α)
  | some (.arr items) => items.map raw
  | _ => []

end Entry

/-- The lists that a canvas is made from. -/
structure CanvasEntries where
  blocks : List (Entry Block)
  connections : List (Entry Connection)

namespace CanvasEntries

/-- The lists of a document. -/
def ofValue : Value → CanvasEntries
  | .obj fields =>
      ⟨Entry.ofField (getField? "blocks" fields), Entry.ofField (getField? "connections" fields)⟩
  | _ => ⟨[], []⟩

/-- The lists without what is not usable; the rest is made. -/
def normal (entries : CanvasEntries) : CanvasEntries :=
  ⟨(entries.blocks.filterMap (Entry.usable? Block.read)).map .ready,
   (entries.connections.filterMap (Entry.usable? Connection.read)).map .ready⟩

/-- Checks both lists, each entry under its place. -/
def check (entries : CanvasEntries) : Checked Canvas :=
  Canvas.mk
    <$> (Checked.itemsFrom (Entry.check Block.read) 0 entries.blocks).under (.field "blocks")
    <*> (Checked.itemsFrom (Entry.check Connection.read) 0 entries.connections).under
      (.field "connections")

end CanvasEntries

/-- What a canvas is made from. -/
inductive CanvasSource
  | document (v : Value)
  | lists (entries : CanvasEntries)
  | ready (c : Canvas)

namespace Canvas

/-- Makes a canvas. -/
def check : CanvasSource → Checked Canvas
  | .document v => (CanvasEntries.ofValue v).normal.check
  | .lists entries => entries.normal.check
  | .ready c => .valid c

end Canvas

end BotCanvas
