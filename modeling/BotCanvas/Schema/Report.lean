import BotCanvas.Schema.Issue
import BotCanvas.Value.Basic

/-!
# Reports of issues

An issue is reported with its place, with what is wrong, and with the value that it is about. Of a
long value, the start and the end are shown.
-/

namespace BotCanvas

namespace Place

/-- A step of the way to a value in a report. -/
def text : Place → Text
  | field name => name.toList
  | item index => (toString index).toList

end Place

namespace Value

/-- What reports call the kind of a value. -/
def kind : Value → String
  | null => "NoneType"
  | bool _ => "bool"
  | int _ => "int"
  | float _ => "float"
  | str _ => "str"
  | arr _ => "list"
  | obj _ => "dict"

/-- The value at a place, null if there is none. -/
def atPlace : Value → List Place → Value
  | v, [] => v
  | obj fields, .field name :: rest => ((getField? name fields).getD null).atPlace rest
  | arr items, .item index :: rest => (items.getD index null).atPlace rest
  | _, _ => null

/-- The longest start of a text that has no more than so many bytes. -/
def startWithin : (bytes : Nat) → Text → Text
  | _, [] => []
  | bytes, c :: r =>
      if c.utf8Size ≤ bytes then c :: startWithin (bytes - c.utf8Size) r else []

/-- The number of bytes of a text. -/
def byteCount : Text → Nat
  | [] => 0
  | c :: r => c.utf8Size + byteCount r

/-- The most bytes of a value that is shown as a whole. -/
def excerptLimit : Nat := 50

/-- A value in a report; of one that is too long, half as many bytes from the start, and one less
from the end. -/
def excerpt (v : Value) : Text :=
  if byteCount v.shown ≤ excerptLimit then v.shown
  else
    startWithin (excerptLimit / 2) v.shown ++ "...".toList ++
      (startWithin (excerptLimit / 2 - 1) v.shown.reverse).reverse

end Value

namespace Issue

/-- The value that an issue is about, inside the value that was checked. A field that is missing is
an issue with the object. -/
def subject (i : Issue) (source : Value) : Value :=
  source.atPlace (if i.problem = .missing then i.place.dropLast else i.place)

/-- The line with the place of an issue; the value as a whole has none. -/
def placeLine (i : Issue) : Text :=
  if i.place.isEmpty then [] else Text.join ['.'] (i.place.map Place.text) ++ ['\n']

/-- An issue as it is reported, without the link that follows. -/
def report (i : Issue) (source : Value) : Text :=
  i.placeLine ++ "  ".toList ++ i.problem.message.toList ++ " [type=".toList ++
    i.problem.code.toList ++ ", input_value=".toList ++ (i.subject source).excerpt ++
    ", input_type=".toList ++ (i.subject source).kind.toList ++ [']']

end Issue

end BotCanvas
