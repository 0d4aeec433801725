import BotCanvas.Text.Trim
import BotCanvas.Value.Basic

/-!
# The catalog of block types

A definition says what a block type is called, which category it belongs to, how many edges it
takes and gives, and which properties the editor offers. The catalog is a table of definitions in
the order of registration. **Resolution** finds the value that a property takes effect with.
-/

namespace BotCanvas

/-- What kind of value a property holds. -/
inductive PropertyKind
  | text
  | textarea
  | number
  | boolean
  | select
  | color
  deriving DecidableEq

namespace PropertyKind

/-- All kinds with their names. -/
def table : List (String × PropertyKind) :=
  [("text", text), ("textarea", textarea), ("number", number), ("boolean", boolean),
   ("select", select), ("color", color)]

/-- The name of a kind. -/
def name : PropertyKind → String
  | text => "text"
  | textarea => "textarea"
  | number => "number"
  | boolean => "boolean"
  | select => "select"
  | color => "color"

/-- The value of a property that nothing sets. -/
def zeroValue : PropertyKind → Value
  | number => .int 0
  | boolean => .bool false
  | _ => .str ""

end PropertyKind

/-- One choice of a selection: what the editor shows and what the block stores. -/
structure PropertyOption where
  label : String
  value : String

/-- A property that a block type offers. -/
structure PropertySpec where
  key : String
  label : String
  kind : PropertyKind
  isRequired : Bool
  default : Value
  options : List PropertyOption
  placeholder : Option String
  helperText : Option String

/-- A block type. -/
structure BlockDefinition where
  type : String
  label : String
  description : String
  category : String
  inputs : Int
  outputs : Int
  properties : List PropertySpec

namespace BlockDefinition

/-- The category of blocks that start a flow. -/
def triggerCategory : String := "triggers"

/-- Tests for a type whose blocks start a flow. -/
def isTrigger (d : BlockDefinition) : Bool :=
  d.category == triggerCategory

/-- Tests for a type with two outputs. -/
def isBranching (d : BlockDefinition) : Bool :=
  d.outputs == 2

/-- The property under a key. -/
def property? (d : BlockDefinition) (key : String) : Option PropertySpec :=
  d.properties.find? fun p => p.key == key

end BlockDefinition

/-- Block types in the order of registration, each under its name. -/
structure Catalog where
  entries : List (String × BlockDefinition)

namespace Catalog

/-- The catalog of a list of definitions. A later definition of a type replaces the earlier one in
its place. -/
def ofList (definitions : List BlockDefinition) : Catalog :=
  ⟨definitions.foldl (fun entries d => setField d.type d entries) []⟩

/-- The definition of a type. -/
def lookup? (c : Catalog) (type : String) : Option BlockDefinition :=
  getField? type c.entries

/-- The names of all types. -/
def types (c : Catalog) : List String :=
  c.entries.map Prod.fst

/-- All definitions. -/
def definitions (c : Catalog) : List BlockDefinition :=
  c.entries.map Prod.snd

/-- The definitions of a category. -/
def inCategory (c : Catalog) (category : String) : List BlockDefinition :=
  c.definitions.filter fun d => d.category == category

/-- Tests for a value that leaves a property unset: null, or a text of blanks. -/
def isUnset : Value → Bool
  | .null => true
  | .str s => s.toList.all Text.isBlank
  | _ => false

/-- The value that a property takes effect with: the stored one unless it is unset, else the
default of the type, else the fallback, else the zero of the kind. -/
def resolve (c : Catalog) (type : String) (properties : List (String × Value)) (key : String)
    (fallback : Value) : Value :=
  let stored := (getField? key properties).getD .null
  if !isUnset stored then stored
  else
    let spec := (c.lookup? type).bind fun d => d.property? key
    let default := (spec.map PropertySpec.default).getD .null
    if !isUnset default then default
    else if !fallback.isNull then fallback
    else (spec.map fun p => p.kind.zeroValue).getD (.str "")

end Catalog

end BotCanvas
