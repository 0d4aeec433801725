import BotCanvas.Number.Shortest

/-!
# Sizes for people

A size is shown in bytes below 1024, else in kilobytes or megabytes with one decimal place.
-/

namespace BotCanvas

/-- A number too large for the binary64 range, and the way it arose. -/
inductive NumberError
  | wholeTooLarge
  | quotientTooLarge
  deriving DecidableEq

namespace NumberError

/-- The wording of the error. -/
def message : NumberError → String
  | wholeTooLarge => "int too large to convert to float"
  | quotientTooLarge => "integer division result too large for a float"

end NumberError

/-- A number with one decimal place and the name of its unit. -/
def Binary64.withUnit (name : String) : Binary64 → Except NumberError String
  | finite _ units => .ok (String.ofList (unitsFixed units) ++ name)
  | _ => .error .quotientTooLarge

/-- The quotient of a size by a unit with one decimal place. -/
def sizeIn (size : Nat) (unit : Nat) (name : String) : Except NumberError String :=
  (Binary64.ofRatio false size unit).withUnit name

/-- A size as it is shown. -/
def formatSize (size : Int) : Except NumberError String :=
  if size < 1024 then .ok (toString size ++ " B")
  else if size < 1024 * 1024 then sizeIn size.toNat 1024 " KB"
  else sizeIn size.toNat (1024 * 1024) " MB"

end BotCanvas
