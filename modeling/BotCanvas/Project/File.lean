import BotCanvas.Schema.Field

/-!
# Files of a project

A file has a path and a content; its size is the number of its characters.
-/

namespace BotCanvas

open Schema

/-- A file of an exported project. -/
structure GeneratedFile where
  path : String
  content : String
  deriving DecidableEq

namespace GeneratedFile

/-- The number of characters of a file. -/
def size (f : GeneratedFile) : Nat :=
  f.content.toList.length

/-- Reads a file; one without content is empty. -/
def read : Value → Checked GeneratedFile :=
  object (.notModel "GeneratedFile") fun fields =>
    mk <$> required fields "path" text <*> optional fields "content" "" text

end GeneratedFile

end BotCanvas
