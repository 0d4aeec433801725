import BotCanvas.Canvas.Basic
import BotCanvas.Catalog.Basic
import BotCanvas.Flow.Basic
import BotCanvas.Name.Basic
import BotCanvas.Program.Code
import BotCanvas.Program.Names
import BotCanvas.Value.Coerce

/-!
# Dialects

A dialect is a target language with its library: how the statements of each block type look, how
branches and handlers are laid out, and what surrounds them in a program.
-/

namespace BotCanvas

/-- The kinds of handlers that a trigger becomes. -/
inductive TriggerKind
  | slash
  | component
  | event
  deriving DecidableEq

namespace TriggerKind

/-- The kinds in the order of their groups in a program. -/
def all : List TriggerKind := [slash, component, event]

/-- The name of a kind. -/
def name : TriggerKind → String
  | slash => "slash"
  | component => "component"
  | event => "event"

/-- The kind that a value names, or the message that it names none. -/
def ofValue (v : Value) : Except String TriggerKind :=
  let unknown := String.ofList (v.shown ++ " is not a valid TriggerKind")
  match v with
  | .str s => ((all.map fun k => (k.name, k)).lookup s).elim (.error unknown) .ok
  | _ => .error unknown

/-- The trigger types that become handlers. -/
def table : List (String × TriggerKind) :=
  [("command_slash", slash), ("on_button_click", component), ("on_select_menu", component),
   ("on_modal_submit", component), ("event_listener", event)]

/-- The kind of a trigger type, if it becomes a handler. -/
def ofType? (type : String) : Option TriggerKind :=
  table.lookup type

end TriggerKind

/-- A block seen through a catalog. -/
structure Subject where
  catalog : Catalog
  block : Block

namespace Subject

/-- The value that a property takes effect with, or the fallback if nothing sets it. -/
def valueOr (s : Subject) (key : String) (fallback : Value) : Value :=
  s.catalog.resolve s.block.type s.block.properties key fallback

/-- The value that a property takes effect with. -/
def value (s : Subject) (key : String) : Value :=
  s.valueOr key .null

/-- The value that the block itself stores, null if it stores none. -/
def stored (s : Subject) (key : String) : Value :=
  (getField? key s.block.properties).getD .null

/-- A property as a text inside a literal. -/
def literal (s : Subject) (key : String) : Piece :=
  .literal (s.value key).display

/-- A property, or its fallback, as a text inside a literal. -/
def literalOr (s : Subject) (key fallback : String) : Piece :=
  .literal (s.valueOr key (.str fallback)).display

/-- A property as a flag. -/
def flag (s : Subject) (key : String) : Bool :=
  (s.value key).asFlag

end Subject

/-- Writing the statements of a trigger: names are given out, and a number may be too large. Names
that were given out before an error stay given out. -/
abbrev Emit := ExceptT NumberError (StateM Scope)

namespace Emit

/-- Gives out a local name. -/
def fresh (base : String) : Emit Text :=
  ExceptT.lift fun scope => scope.fresh base

/-- Declares a variable; the flag says whether this is the first time. -/
def declare (name : Text) : Emit Bool :=
  ExceptT.lift fun scope => scope.declare name

/-- A property as a number. -/
def number (v : Value) (fallback : Int) : Emit Number :=
  ExceptT.mk (pure (v.asNumber (.int fallback)))

/-- A number rounded through binary64. -/
def normalise (n : Number) : Emit Number :=
  ExceptT.mk (pure n.normalise)

end Emit

/-- Giving out names of functions. -/
abbrev Naming := StateM Tally

namespace Naming

/-- Gives out the name of a function. -/
def fresh (base : Text) : Naming Text := fun tally => (tally.nextName base, tally.bump base)

end Naming

/-- A subcommand of a slash command with its statements. -/
structure Subcommand where
  name : Text
  description : Text
  body : Code

/-- A slash command as it is registered. -/
structure CommandSpec where
  name : Text
  description : Text
  subcommands : List (Text × Text)
  deriving DecidableEq

/-- A target language with its library. -/
structure Dialect where
  /-- The name that a request asks for. -/
  language : String
  entryPoint : String
  manifestPath : String
  spelling : Spelling
  /-- The line that does nothing. -/
  noop : Text
  /-- What a remark starts with. -/
  remarkMark : String
  sectionSeparator : Text
  installCommand : String
  runCommand : String
  docsUrl : String
  /-- The library's name for an event. -/
  eventName : Text → Text
  /-- What comes first in a program that uses the given block types. -/
  header : List String → Code
  /-- What comes last in a program that registers the given commands. -/
  footer : List CommandSpec → Code
  /-- Code whose errors are logged under a label and, if asked for, answered. -/
  guarded : (label : Text) → Code → (reply : Bool) → Code
  /-- A suite of statements, made complete if the language needs a statement. -/
  suite : Code → Code
  /-- A choice between two arms. -/
  choice : Subject → (yes no : Code) → Code
  /-- A permission check: what runs if it fails, and what runs after it. -/
  gate : Subject → (denied allowed : Option Code) → Code
  /-- A body whose errors are caught. -/
  recovery : Subject → Code → Code
  /-- The statements of each action by block type. -/
  actions : List (String × (Subject → Emit Code))
  /-- The handler of a trigger. -/
  handler : Catalog → (trigger : Option Block) → TriggerKind → (guard : Text) → Code →
    List Subcommand → Naming Code
  /-- The packages that a program text with the given block types needs. -/
  dependencies : Text → List String → List (String × String)

namespace Dialect

/-- Writes code. -/
def write (d : Dialect) (c : Code) : Text :=
  c.write d.spelling

/-- A remark on one line. -/
def remark (d : Dialect) (t : Text) : Code :=
  .remarkLine d.remarkMark t

/-- The line that does nothing, as code. -/
def noopCode (d : Dialect) : Code :=
  .written d.noop

/-- Tests for code that is nothing but the line that does nothing. -/
def isNoop (d : Dialect) (body : Code) : Bool :=
  body.amountsTo d.spelling d.noop

/-- The body of a handler: guarded, unless it does nothing. -/
def handlerBody (d : Dialect) (label : Text) (body : Code) (reply : Bool) : Code :=
  if d.isNoop body then body else d.guarded label body reply

end Dialect

/-- What handlers are sent when something goes wrong. -/
def errorReply : String := "An error occurred!"

/-- What a member without the permission is told. -/
def deniedReply : String := "You do not have permission to use this."

/-- The block types that use voice channels. -/
def voiceTypes : List String := ["voice_join", "voice_leave"]

/-- The block types that send requests over the network. -/
def requestTypes : List String := ["http_request", "webhook_send"]

/-- Tests for a block type among others. -/
def usesAny (types wanted : List String) : Bool :=
  types.any wanted.contains

end BotCanvas
