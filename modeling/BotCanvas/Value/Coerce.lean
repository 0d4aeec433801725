import BotCanvas.Number.Numeral
import BotCanvas.Number.Size
import BotCanvas.Text.Lower
import BotCanvas.Value.Basic

/-!
# Reading a property as a flag, a number, a colour or a line of text

A property may hold any value. Each reading has a rule for every value: a flag is what the words
for yes say, a number falls back on a default, a colour on the house colour, and a description is
one line of limited length. Only a whole number beyond the binary64 range is refused.
-/

namespace BotCanvas

/-- A number as programs spell it: whole, or binary64 with a fraction. -/
inductive Number
  | int (n : Int)
  | float (x : Binary64)
  deriving DecidableEq

namespace Number

/-- The text of a number. -/
def text : Number → Text
  | int n => Value.intText n
  | float x => x.text

/-- The binary64 number nearest to a number. -/
def toBinary64 : Number → Except NumberError Binary64
  | int n => (Binary64.ofInt? n).elim (.error .wholeTooLarge) .ok
  | float x => .ok x

/-- A binary64 number as a number: whole where it can be. -/
def ofBinary64 (x : Binary64) : Number :=
  match x.toInt? with
  | some n => int n
  | none => float x

/-- A number rounded through binary64. -/
def normalise (n : Number) : Except NumberError Number :=
  n.toBinary64.map ofBinary64

/-- The product with a whole number. -/
def scale (k : Nat) : Number → Number
  | int n => int (n * k)
  | float x => float (x.scale k)

end Number

namespace Value

/-- The words for yes. -/
def yesWords : List String := ["true", "1", "yes", "on"]

/-- A value as a flag. A text says yes by one of four words; any other value by being present. -/
def asFlag : Value → Bool
  | str s => yesWords.contains (String.ofList (Text.lower (Text.strip s.toList)))
  | other => other.isPresent

/-- The binary64 number that a value stands for, if it stands for one. -/
def toBinary64? : Value → Except NumberError (Option Binary64)
  | bool b => .ok (some (if b then .finite false Binary64.unitsPerOne else .zero))
  | int n => (Number.int n).toBinary64.map some
  | float x => .ok (some x)
  | str s => .ok (Numeral.property? s.toList)
  | _ => .ok none

/-- A value as a number. What is no number, and no finite one, gives way to the default. -/
def asNumber (v : Value) (fallback : Number) : Except NumberError Number := do
  match ← v.toBinary64? with
  | some x => if x.isFinite then .ok (.ofBinary64 x) else fallback.normalise
  | none => fallback.normalise

/-- The colour of an embed that names none. -/
def houseColour : Text := "#3b82f6"

/-- A value as a colour: a hash and six hexadecimal digits in small letters. -/
def asColour (v : Value) : Text :=
  let digits := (Text.strip v.displayPresent).dropWhile (· == '#')
  if digits.length = 6 ∧ digits.all Text.isHexDigit then '#' :: Text.lower digits
  else houseColour

/-- The longest description of a command. -/
def descriptionLimit : Nat := 100

/-- A value as the description of a command: its words on one line, cut to the limit. -/
def asDescription (v : Value) (fallback : Text) : Text :=
  let line := Text.squeeze v.displayPresent
  (if line.isEmpty then fallback else line).take descriptionLimit

/-- The limit holds for every description. -/
theorem length_asDescription_le (v : Value) (fallback : Text) :
    (v.asDescription fallback).length ≤ descriptionLimit := by
  simp only [asDescription, List.length_take]
  omega

end Value

end BotCanvas
