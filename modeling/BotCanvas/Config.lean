import BotCanvas.Archive.Layout
import BotCanvas.Document.Load
import BotCanvas.Document.Printer
import BotCanvas.Flow.Basic
import BotCanvas.Schema.Field
import BotCanvas.Value.Coerce

/-!
# Settings of the exporter

How actions are ordered, how much of a file a preview shows, how archives are compressed, and
whether progress is logged. Settings come from a value, from a document or from environment
variables, and are written as a document.
-/

namespace BotCanvas

open Schema

/-- Settings of the exporter. -/
structure Config where
  traversal : Traversal
  previewLength : Int
  compression : Compression
  verbose : Bool
  deriving DecidableEq

/-- Why the environment gives no settings. -/
inductive EnvironmentError
  | unreadableInteger (text : String)
  | invalid (issues : List Issue)

namespace Config

/-- The settings that hold if nothing is said. -/
def standard : Config := ⟨.position, 200, .deflate, false⟩

/-- Reads settings from fields. -/
def readFields (fields : Fields) : Checked Config :=
  mk <$> optional fields "traversal" standard.traversal
        (choice (.notAmong (Traversal.table.map Prod.fst)) Traversal.table)
    <*> optional fields "preview_length" standard.previewLength (integerFrom 1)
    <*> optional fields "zip_compression" standard.compression
        (choice (.notOneOf "deflate" "store") Compression.table)
    <*> optional fields "verbose" standard.verbose flag

/-- Reads settings from a value. -/
def read : Value → Checked Config :=
  object (.notModel "ExporterConfig") readFields

/-- What the text of a file with settings holds; what is no document counts as a text. -/
def sourceOf (raw : Text) : Value :=
  match Document.read (Text.unifyLineFeeds raw) with
  | .error _ => .str (String.ofList (Text.unifyLineFeeds raw))
  | .ok v => v

/-- Reads settings from the text of a file. -/
def load (raw : Text) : Checked Config :=
  match Document.read (Text.unifyLineFeeds raw) with
  | .error _ => .refuse .unreadableDocument
  | .ok v => object .notObject readFields v

/-- Settings as a value. -/
def toValue (c : Config) : Value :=
  .obj [("traversal", .str c.traversal.name), ("preview_length", .int c.previewLength),
    ("zip_compression", .str c.compression.name), ("verbose", .bool c.verbose)]

/-- The text of a file with settings. -/
def save (c : Config) : Text :=
  Document.print c.toValue

/-- A variable that is set to more than nothing. -/
def variableText? (environment : List (String × String)) (name : String) : Option Text :=
  match getField? name environment with
  | some s => if s.isEmpty then none else some s.toList
  | none => none

/-- A variable without blanks around it, in small letters. -/
def word? (environment : List (String × String)) (name : String) : Option Value :=
  (variableText? environment name).map fun t => .str (String.ofList (Text.lower (Text.strip t)))

/-- The most characters of a text that an error shows. -/
def shownLimit : Nat := 200

/-- The fields of the settings that environment variables give, or the text, as it is shown, where
an integer should be. -/
def environmentFields (environment : List (String × String)) : Except String Fields :=
  let fieldOf (name : String) (v : Option Value) : Fields := (v.map fun v => (name, v)).toList
  let traversal := fieldOf "traversal" (word? environment "BOTEXPORT_TRAVERSAL")
  let compression := fieldOf "zip_compression" (word? environment "BOTEXPORT_ZIP_COMPRESSION")
  let verbose := fieldOf "verbose"
    ((word? environment "BOTEXPORT_VERBOSE").map fun v => .bool v.asFlag)
  let finish (previewLength : Fields) : Fields :=
    traversal ++ previewLength ++ compression ++ verbose
  match variableText? environment "BOTEXPORT_PREVIEW_LENGTH" with
  | none => .ok (finish [])
  | some t =>
      match Numeral.environment? t with
      | some n => .ok (finish [("preview_length", .int n)])
      | none => .error (String.ofList ((Text.quoted t).take shownLimit))

/-- Reads settings from environment variables. -/
def fromEnvironment (environment : List (String × String)) : Except EnvironmentError Config :=
  match environmentFields environment with
  | .error text => .error (.unreadableInteger text)
  | .ok fields =>
      match readFields fields with
      | .valid c => .ok c
      | .invalid issues => .error (.invalid issues)

end Config

namespace EnvironmentError

/-- The wording of a text that is no integer. -/
def integerMessage (text : String) : String :=
  "invalid literal for int() with base 10: " ++ text

end EnvironmentError

end BotCanvas
