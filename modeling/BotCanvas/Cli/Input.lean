import BotCanvas.Cli.Arguments
import BotCanvas.Config
import BotCanvas.Disk
import BotCanvas.Document.Load
import BotCanvas.Project.Request
import BotCanvas.Schema.Report

/-!
# What a command line works on

The settings of the exporter come from a file or from the environment; the request comes from the
canvas file, which holds either a whole request or the canvas alone. Switches go before both.
-/

namespace BotCanvas

/-- Why credentials cannot be made of a value: they are fields, or a list of pairs. -/
inductive PairingError
  | notIterable (kind : String)
  | notSequence (index : Nat)
  | wrongLength (index length : Nat)
  | unusableKey (kind : String)
  deriving DecidableEq

/-- Why a command line has nothing to work on. -/
inductive InputError
  | disk (e : DiskError)
  | document (e : DocumentError)
  | pairing (e : PairingError)
  | unreadableInteger (text : String)
  | invalid (model : String) (source : Value) (issues : List Issue)

namespace PairingError

/-- The wording of an error. -/
def message : PairingError → String
  | notIterable kind => "'" ++ kind ++ "' object is not iterable"
  | notSequence index =>
      "cannot convert dictionary update sequence element #" ++ toString index ++ " to a sequence"
  | wrongLength index length =>
      "dictionary update sequence element #" ++ toString index ++ " has length " ++
        toString length ++ "; 2 is required"
  | unusableKey kind => "unhashable type: '" ++ kind ++ "'"

/-- Tests for an error in a value of a type that could be read; any other is a fault of the
program. -/
def isForeseen : PairingError → Bool
  | wrongLength .. => true
  | _ => false

end PairingError

namespace InputError

/-- The wording of an error; the issues with a value are reported one after another. -/
def message : InputError → String
  | disk e => e.message
  | document e => e.message
  | pairing e => e.message
  | unreadableInteger text => EnvironmentError.integerMessage text
  | invalid model source issues =>
      toString issues.length ++ " validation error" ++ (if issues.length = 1 then "" else "s") ++
        " for " ++ model ++ String.ofList (issues.flatMap fun i => '\n' :: i.report source)

/-- Tests for an error that is reported; any other ends the program. -/
def isReported : InputError → Bool
  | pairing e => e.isForeseen
  | _ => true

end InputError

namespace Input

/-- The text of a file. -/
def readText (d : Disk) (p : Path) : Except InputError Text :=
  match d.read p with
  | .error e => .error (.disk e)
  | .ok (.text s) => .ok s.toList
  | .ok (.archive _) => .ok []

/-- What a source was checked to be, or the issues with it. -/
def valid {α : Type} (model : String) (source : Value) : Checked α → Except InputError α
  | .valid a => .ok a
  | .invalid issues => .error (.invalid model source issues)

/-- The settings before the switches. -/
def baseConfig (a : Arguments) (environment : List (String × String)) (d : Disk) :
    Except InputError Config :=
  match a.config.filter fun path => !path.isEmpty with
  | some path => do
      let text ← readText d (.read path.toList)
      valid "ExporterConfig" (Config.sourceOf text) (Config.load text)
  | none =>
      match Config.environmentFields environment with
      | .ok fields => valid "ExporterConfig" (.obj fields) (Config.readFields fields)
      | .error text => .error (.unreadableInteger text)

/-- The settings of the exporter. -/
def config (a : Arguments) (environment : List (String × String)) (d : Disk) :
    Except InputError Config :=
  (baseConfig a environment d).map fun c =>
    { c with traversal := a.traversal.getD c.traversal, verbose := a.verbose || c.verbose }

/-- The items of a pair. -/
def pairItems (index : Nat) : Value → Except PairingError (List Value)
  | .arr items => .ok items
  | .obj fields => .ok (fields.map fun (k, _) => .str k)
  | .str s => .ok (s.toList.map fun c => .str c.toString)
  | _ => .error (.notSequence index)

/-- Sets the fields of a list of pairs. Only texts count as names. -/
def pairFields : (index : Nat) → Schema.Fields → List Value → Except PairingError Schema.Fields
  | _, fields, [] => .ok fields
  | index, fields, v :: rest => do
      match ← pairItems index v with
      | [.arr _, _] => .error (.unusableKey "list")
      | [.obj _, _] => .error (.unusableKey "dict")
      | [.str k, w] => pairFields (index + 1) (setField k w fields) rest
      | [_, _] => pairFields (index + 1) fields rest
      | items => .error (.wrongLength index items.length)

/-- The fields of the credentials in a request. What does not count as present has none. -/
def credentialFields (v : Value) : Except PairingError Schema.Fields :=
  if !v.isPresent then .ok []
  else
    match v with
    | .obj fields => .ok fields
    | .arr items => pairFields 0 [] items
    | .str s => pairFields 0 [] (s.toList.map fun c => .str c.toString)
    | .int _ => .error (.notIterable "int")
    | .float _ => .error (.notIterable "float")
    | .bool _ => .error (.notIterable "bool")
    | .null => .ok []

/-- Sets a field if there is a value for it. -/
def override (key : String) (value : Option String) (fields : Schema.Fields) : Schema.Fields :=
  match value with
  | some s => setField key (.str s) fields
  | none => fields

/-- The fields of the request in a document. -/
def requestFields (a : Arguments) (document : Schema.Fields) :
    Except PairingError Schema.Fields := do
  let raw : Schema.Fields :=
    if hasField "canvas" document then document else [("canvas", .obj document)]
  let raw := override "language" (a.language.filter fun s => !s.isEmpty) raw
  let credentials ← credentialFields ((getField? "settings" raw).getD .null)
  let credentials := override "botToken" a.token credentials
  let credentials := override "clientId" a.clientId credentials
  let credentials := override "prefix" a.commandPrefix credentials
  .ok (setField "settings" (.obj credentials) raw)

/-- The request in the canvas file. -/
def request (a : Arguments) (d : Disk) : Except InputError ExportRequest := do
  let text ← readText d (.read a.canvas.toList)
  let document ← (Document.load text).mapError .document
  let fields ← (requestFields a document).mapError .pairing
  valid "ExportRequest" (.obj fields) (ExportRequest.read (.obj fields))

end Input

end BotCanvas
