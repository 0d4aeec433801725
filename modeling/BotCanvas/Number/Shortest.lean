import BotCanvas.Number.Binary64
import BotCanvas.Text.Basic

/-!
# Decimal text of binary64 numbers

The shortest text takes the fewest digits that still read back as the same number, and of those
the digits nearest to it. It is positional from `10 ^ -4` up to `10 ^ 16` and scientific outside.
The fixed text has one decimal place.
-/

namespace BotCanvas

/-- Digits and a power of ten: `digits * 10 ^ exponent`. -/
structure Decimal where
  digits : Nat
  exponent : Int
  deriving DecidableEq

/-- The decimal digits of a natural number. -/
def natDigits (n : Nat) : Text :=
  Nat.toDigits 10 n

namespace Binary64

/-- The power of ten just above a positive count of units: its number of digits before the
point, or less than one for a number below a tenth. -/
def decimalPoint (units : Nat) : Int :=
  (natDigits (units * Nat.pow 10 400 / unitsPerOne)).length - 400

/-- The count of quarter units by which a number may be missed from below and still be read. -/
def slackBelow (units : Nat) : Nat :=
  let s := spacing units
  if 1 < s ∧ units = Nat.pow 2 units.log2 then s else 2 * s

/-- A multiple of a power of ten and a count of quarter units, brought to a common measure. -/
def onGrid (c : Nat) (exponent : Int) (quarters : Nat) : Nat × Nat :=
  if 0 ≤ exponent then (c * Nat.pow 10 exponent.toNat * unitsPerOne * 4, quarters)
  else (c * unitsPerOne * 4, quarters * Nat.pow 10 (-exponent).toNat)

/-- Tests whether a multiple of a power of ten reads back as the number. The two ends of the
interval do if the last binary digit is even. -/
def readsBack (units c : Nat) (exponent : Int) : Bool :=
  let s := spacing units
  let low := onGrid c exponent (4 * units - slackBelow units)
  let high := onGrid c exponent (4 * units + 2 * s)
  if units / s % 2 = 0 then decide (low.2 ≤ low.1 ∧ high.1 ≤ high.2)
  else decide (low.2 < low.1 ∧ high.1 < high.2)

/-- How far a multiple of a power of ten lies from the number, in the grid's own measure. -/
def distance (units c : Nat) (exponent : Int) : Nat :=
  let p := onGrid c exponent (4 * units)
  (p.1 - p.2) + (p.2 - p.1)

/-- The multiple of a power of ten at or below the number. -/
def gridFloor (units : Nat) (exponent : Int) : Nat :=
  if 0 ≤ exponent then units / (unitsPerOne * Nat.pow 10 exponent.toNat)
  else units * Nat.pow 10 (-exponent).toNat / unitsPerOne

/-- The neighbour on a decimal grid that reads back as the number; if both do, the nearer, and of
two equally near the even one. -/
def onGrid? (units : Nat) (exponent : Int) : Option Decimal :=
  let low := gridFloor units exponent
  let high := low + 1
  match readsBack units low exponent, readsBack units high exponent with
  | true, true =>
      let above := distance units high exponent
      let below := distance units low exponent
      if above < below ∨ above = below ∧ low % 2 = 1 then some ⟨high, exponent⟩
      else some ⟨low, exponent⟩
  | true, false => some ⟨low, exponent⟩
  | false, true => some ⟨high, exponent⟩
  | false, false => none

/-- The shortest decimal that reads back as a positive count of units: the first grid of one to
seventeen digits with a hit. -/
def shortestDecimal (units : Nat) : Decimal :=
  let point := decimalPoint units
  let grids := (List.range 17).map fun (n : Nat) => point - 1 - (n : Int)
  (grids.findSome? (onGrid? units)).getD ⟨gridFloor units (point - 17), point - 17⟩

/-- Zeros. -/
def zeros (n : Nat) : Text :=
  List.replicate n '0'

/-- Writes significant digits with the decimal point after the given number of them. -/
def positional (digits : Text) (point : Int) : Text :=
  if point ≤ 0 then '0' :: '.' :: (zeros (-point).toNat ++ digits)
  else
    let n := point.toNat
    if digits.length ≤ n then digits ++ zeros (n - digits.length) ++ ['.', '0']
    else digits.take n ++ '.' :: digits.drop n

/-- Writes significant digits in scientific form: a sign and at least two digits of exponent. -/
def scientific (digits : Text) (exponent : Int) : Text :=
  let mantissa := match digits with
    | [] => []
    | [d] => [d]
    | d :: rest => d :: '.' :: rest
  let magnitude := natDigits exponent.natAbs
  mantissa ++ 'e' :: (if exponent < 0 then '-' else '+') ::
    (if magnitude.length < 2 then '0' :: magnitude else magnitude)

/-- The shortest text of a count of units. -/
def unitsText (units : Nat) : Text :=
  if units = 0 then ['0', '.', '0']
  else
    let d := shortestDecimal units
    let written := natDigits d.digits
    let point : Int := written.length + d.exponent
    let digits := (written.reverse.dropWhile (· == '0')).reverse
    if -4 < point ∧ point ≤ 16 then positional digits point
    else scientific digits (point - 1)

/-- The shortest text of a number. -/
def text : Binary64 → Text
  | nan => ['n', 'a', 'n']
  | infinite negative => (if negative then ['-'] else []) ++ ['i', 'n', 'f']
  | finite negative units => (if negative then ['-'] else []) ++ unitsText units

/-- The text of a count of units with one decimal place, a half going to the even neighbour. -/
def unitsFixed (units : Nat) : Text :=
  let tenths := roundHalfEven (units * 10) unitsPerOne
  natDigits (tenths / 10) ++ '.' :: natDigits (tenths % 10)

/-- The text of a number with one decimal place. -/
def fixed : Binary64 → Text
  | finite negative units => (if negative then ['-'] else []) ++ unitsFixed units
  | other => other.text

end Binary64

end BotCanvas
