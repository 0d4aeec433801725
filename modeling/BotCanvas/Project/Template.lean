import BotCanvas.Document.Printer
import BotCanvas.Text.Lines
import BotCanvas.Text.Trim
import BotCanvas.Value.Basic

/-!
# Templates

A template is a list of parts: text that stands for itself, places where a value is shown, and
parts that are repeated or left out. Values come from a context of named values. A name that the
context does not have is an error, but only where its value is needed.
-/

namespace BotCanvas

/-- What a template refers to: a value of the context, or a field of one. -/
inductive Term
  | named (name : String)
  | field (name key : String)
  deriving DecidableEq

/-- A part of a template. -/
inductive TemplatePart
  /-- Text that stands for itself. -/
  | text (s : String)
  /-- A value as it is displayed. -/
  | shown (t : Term)
  /-- A value filled up with spaces to a width. -/
  | padded (width : Nat) (t : Term)
  /-- A value on one line. -/
  | oneLine (t : Term)
  /-- A value of the context as a document. -/
  | document (name : String)
  /-- Parts that stand only if a value is present. -/
  | given (t : Term) (body : List TemplatePart)
  /-- Parts that are repeated for every field of an object, under two names. -/
  | each (t : Term) (key value : String) (body : List TemplatePart)

/-- A template. -/
abbrev Template := List TemplatePart

/-- Why a template has no text in a context. -/
inductive RenderError
  | undefined (name : String)
  | noAttribute (owner : Value) (key : String)
  | undefinedDocument

namespace RenderError

/-- What messages call the kind of a value. -/
def kindName : Value → String
  | .null => "None"
  | .bool _ => "bool object"
  | .int _ => "int object"
  | .float _ => "float object"
  | .str _ => "str object"
  | .arr _ => "list object"
  | .obj _ => "dict object"

/-- The wording of an error. -/
def message : RenderError → String
  | undefined name => "'" ++ name ++ "' is undefined"
  | noAttribute owner key => "'" ++ kindName owner ++ "' has no attribute '" ++ key ++ "'"
  | undefinedDocument => "Object of type StrictUndefined is not JSON serializable"

end RenderError

/-- Named values. -/
abbrev Context := List (String × Value)

namespace Term

/-- The value that a term refers to. -/
def value (context : Context) : Term → Except RenderError Value
  | named name => (getField? name context).elim (.error (.undefined name)) .ok
  | field name key =>
      match getField? name context with
      | none => .error (.undefined name)
      | some (.obj fields) =>
          (getField? key fields).elim (.error (.noAttribute (.obj fields) key)) .ok
      | some owner => .error (.noAttribute owner key)

/-- The fields of the object that a term refers to. -/
def entries (context : Context) (t : Term) : Except RenderError (List (String × Value)) :=
  (t.value context).bind fun
    | .obj fields => .ok fields
    | owner => .error (.noAttribute owner "items")

end Term

/-- A value on one line: its lines with spaces between, without blanks at the ends. -/
def oneLineOf (v : Value) : Text :=
  match v with
  | .null => []
  | _ => Text.strip (Text.join [' '] (Text.lineBodies v.display))

namespace Template

/-- A text filled up with spaces to a width. -/
def pad (width : Nat) (s : Text) : Text :=
  s ++ List.replicate (width - s.length) ' '

/-- The texts of parts for every pair of a key and a value, one after another. -/
def repeated (render : Context → Except RenderError Text) (context : Context)
    (key value : String) : List (String × Value) → Except RenderError Text
  | [] => .ok []
  | (k, v) :: rest => do
      let first ← render ((key, .str k) :: (value, v) :: context)
      let others ← repeated render context key value rest
      .ok (first ++ others)

mutual

/-- The text of a part. -/
def renderPart (context : Context) : TemplatePart → Except RenderError Text
  | .text s => .ok s.toList
  | .shown t => (t.value context).map Value.display
  | .padded width t => (t.value context).map fun v => pad width v.display
  | .oneLine t => (t.value context).map oneLineOf
  | .document name =>
      (getField? name context).elim (.error .undefinedDocument) fun v => .ok (Document.print v)
  | .given t body =>
      (t.value context).bind fun v => if v.isPresent then render context body else .ok []
  | .each t key value body =>
      (t.entries context).bind fun fields =>
        repeated (fun context => render context body) context key value fields

/-- The text of a template in a context. -/
def render (context : Context) : List TemplatePart → Except RenderError Text
  | [] => .ok []
  | part :: rest =>
      (renderPart context part).bind fun first =>
        (render context rest).map fun others => first ++ others

end

end Template

end BotCanvas
