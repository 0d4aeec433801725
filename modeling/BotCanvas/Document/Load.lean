import BotCanvas.Document.Reader
import BotCanvas.Text.Lines

/-!
# Documents from files

A file is read with every line end as a line feed. A document that is no object becomes the only
field of one.
-/

namespace BotCanvas.Document

/-- The object that the text of a file holds. -/
def load (raw : Text) : Except DocumentError (List (String × Value)) :=
  (read (Text.unifyLineFeeds raw)).map fun v =>
    match v with
    | .obj fields => fields
    | other => [("_root", other)]

end BotCanvas.Document
