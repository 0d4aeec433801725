/-!
# Binary64 numbers

Every finite binary64 number is a whole multiple of `2 ^ -1074`, so it is kept as a sign and a
count of such units. Arithmetic is exact on the counts and rounds once, to the nearest
representable count with ties to the even neighbour.
-/

namespace BotCanvas

/-- The quotient of two naturals, rounded to the nearest whole number, a tie to the even one. -/
def roundHalfEven (num den : Nat) : Nat :=
  let q := num / den
  let r := num % den
  if 2 * r < den then q
  else if den < 2 * r then q + 1
  else if q % 2 = 0 then q
  else q + 1

/-- A binary64 number. A finite one has a sign and counts units of `2 ^ -1074`. -/
inductive Binary64
  | nan
  | infinite (negative : Bool)
  | finite (negative : Bool) (units : Nat)
  deriving DecidableEq

namespace Binary64

/-- How many units make one. -/
def unitsPerOne : Nat := Nat.pow 2 1074

/-- The first count of units beyond the finite range. -/
def overflowUnits : Nat := Nat.pow 2 2098

/-- The distance between representable counts from the given count upwards: 53 significant
binary digits, and never less than one unit. -/
def spacing (units : Nat) : Nat :=
  Nat.pow 2 (units.log2 - 52)

/-- The representable count nearest to a quotient of counts. -/
def nearestUnits (num den : Nat) : Nat :=
  let s := spacing (num / den)
  roundHalfEven num (den * s) * s

/-- The number with a representable count of units, infinite past the finite range. -/
def ofUnits (negative : Bool) (units : Nat) : Binary64 :=
  if overflowUnits ≤ units then infinite negative else finite negative units

/-- The number nearest to a quotient of naturals. -/
def ofRatio (negative : Bool) (num den : Nat) : Binary64 :=
  ofUnits negative (nearestUnits (num * unitsPerOne) den)

/-- The number nearest to `digits * 10 ^ exponent`. Exponents far outside the range are decided
without forming the power. -/
def ofDecimal (negative : Bool) (digits : Nat) (exponent : Int) : Binary64 :=
  let magnitude : Int := (Nat.toDigits 10 digits).length + exponent
  if digits = 0 then finite negative 0
  else if magnitude > 310 then infinite negative
  else if magnitude < -330 then finite negative 0
  else if 0 ≤ exponent then ofRatio negative (digits * Nat.pow 10 exponent.toNat) 1
  else ofRatio negative digits (Nat.pow 10 (-exponent).toNat)

/-- Positive zero. -/
def zero : Binary64 := finite false 0

/-- Tests for a number other than NaN and the infinities. -/
def isFinite : Binary64 → Bool
  | finite _ _ => true
  | _ => false

/-- A number that is not NaN and not infinite. -/
def finite? (x : Binary64) : Option Binary64 :=
  if x.isFinite then some x else none

/-- The number nearest to an integer, unless that is out of range. -/
def ofInt? (n : Int) : Option Binary64 :=
  (ofRatio (decide (n < 0)) n.natAbs 1).finite?

/-- The integer that a number is equal to. -/
def toInt? : Binary64 → Option Int
  | finite negative units =>
      if units % unitsPerOne = 0 then
        let n : Int := units / unitsPerOne
        some (if negative then -n else n)
      else none
  | _ => none

/-- Tests for either zero. -/
def isZero : Binary64 → Bool
  | finite _ 0 => true
  | _ => false

/-- The product with a whole number, rounded. -/
def scale (x : Binary64) (k : Nat) : Binary64 :=
  match x with
  | finite negative units => ofUnits negative (nearestUnits (units * k) 1)
  | other => other

/-- The signed count of units of a finite number. The two zeros have the same. -/
def signedUnits : Binary64 → Int
  | finite negative units => if negative then -units else units
  | _ => 0

/-- The order of numbers, with the infinities beyond all finite numbers. -/
def le : Binary64 → Binary64 → Bool
  | infinite negative, y => negative || y == infinite false
  | _, infinite negative => !negative
  | x, y => decide (x.signedUnits ≤ y.signedUnits)

end Binary64

end BotCanvas
