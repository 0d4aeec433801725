import BotCanvas.Number.Binary64
import BotCanvas.Text.Trim

/-!
# Reading numerals

Numbers arrive as text in four places, each with rules of its own: block properties, canvas
coordinates, settings files and the environment. All share one grammar: a sign, then digits with
an optional point and exponent, or a word for infinity or NaN. They differ in the digits they
know and in where a low line may group digits.
-/

namespace BotCanvas.Numeral

open Text

/-- White space around a numeral: blanks other than the four ASCII separators. -/
def isSpace (c : Char) : Bool :=
  isBlank c && !(28 ≤ c.toNat && c.toNat ≤ 31)

/-- Drops white space from both ends. -/
def trim (s : Text) : Text :=
  stripBy isSpace s

/-- Splits off a sign; the flag says minus. -/
def takeSign : Text → Bool × Text
  | '-' :: r => (true, r)
  | '+' :: r => (false, r)
  | s => (false, s)

/-- The number that a row of ASCII digits stands for. -/
def digitsValue (s : Text) : Nat :=
  s.foldl (fun n c => 10 * n + (c.toNat - 48)) 0

/-- Splits off the leading ASCII digits. -/
def takeDigits (s : Text) : Text × Text :=
  (s.takeWhile isAsciiDigit, s.dropWhile isAsciiDigit)

/-- The exponent part that ends a numeral; nothing stands for zero. -/
def exponent? : Text → Option Int
  | [] => some 0
  | c :: r =>
      if c = 'e' ∨ c = 'E' then
        let (negative, digits) := takeSign r
        if digits.isEmpty || !digits.all isAsciiDigit then none
        else
          let n : Int := digitsValue digits
          some (if negative then -n else n)
      else none

/-- Digits with an optional point and exponent. -/
def unsigned? (negative : Bool) (s : Text) : Option Binary64 :=
  let (whole, rest) := takeDigits s
  let (fraction, rest) := match rest with
    | '.' :: r => takeDigits r
    | _ => ([], rest)
  if whole.isEmpty && fraction.isEmpty then none
  else (exponent? rest).map fun e =>
    Binary64.ofDecimal negative (digitsValue (whole ++ fraction)) (e - fraction.length)

/-- ASCII capitals made small. -/
def asciiLower (s : Text) : Text :=
  s.map fun c => if 'A' ≤ c ∧ c ≤ 'Z' then Char.ofNat (c.toNat + 32) else c

/-- A numeral in ASCII digits without grouping. -/
def plain? (s : Text) : Option Binary64 :=
  let (negative, r) := takeSign s
  let word := String.ofList (asciiLower r)
  if word == "inf" || word == "infinity" then some (.infinite negative)
  else if word == "nan" then some .nan
  else unsigned? negative r

/-- Writes decimal digits of every script as ASCII digits. -/
def asciiDigits (s : Text) : Text :=
  s.map fun c =>
    match decimalValue? c with
    | some d => Char.ofNat (48 + d)
    | none => c

/-- Drops low lines that stand between two ASCII digits; any other low line is refused. -/
def ungroup? (previous : Option Char) : Text → Option Text
  | [] => some []
  | '_' :: r =>
      match r with
      | [] => none
      | next :: _ =>
          if previous.any isAsciiDigit && isAsciiDigit next then ungroup? (some '_') r else none
  | c :: r => (ungroup? (some c) r).map (c :: ·)

/-- The number that the text of a property stands for: digits of every script, low lines between
digits. -/
def property? (s : Text) : Option Binary64 :=
  (ungroup? none (trim (asciiDigits s))).bind plain?

/-- Drops all low lines of a text that has one, but none at an end and no two together. -/
def dropGroups? (s : Text) : Option Text :=
  if !s.contains '_' || s.head? == some '_' || s.getLast? == some '_' ||
      occursIn ['_', '_'] s then none
  else some (s.filter (· != '_'))

/-- The number that the text of a coordinate stands for. Space may surround the numeral, or low
lines may group it, but not both. -/
def coordinate? (s : Text) : Option Binary64 :=
  (plain? (trim s)).orElse fun _ => (dropGroups? s).bind plain?

/-- A whole number in ASCII digits: a minus sign or none, and no leading zero. -/
def canonicalInt? (s : Text) : Option Int :=
  let (negative, digits) := match s with
    | '-' :: r => (true, r)
    | _ => (false, s)
  if digits.isEmpty || !digits.all isAsciiDigit then none
  else if digits.head? == some '0' && digits.length != 1 then none
  else
    let n : Int := digitsValue digits
    some (if negative then -n else n)

/-- Drops leading zeros, and single low lines among them, but keeps a zero that is the last digit
before the point. -/
def dropLeadingZeros? : Text → Option Text
  | '0' :: r => go '0' r
  | c :: r => if isAsciiDigit c || c == '-' then some (c :: r) else none
  | [] => none
where
  /-- Continues after a zero or a low line. -/
  go (previous : Char) : Text → Option Text
    | [] => some [previous]
    | c :: r =>
        if c = '0' then go c r
        else if c = '_' then if previous = '_' then none else go c r
        else if isAsciiDigit c then some (c :: r)
        else if c = '.' then some (previous :: c :: r)
        else none

/-- Drops a fraction that holds nothing but zeros. -/
def dropZeroFraction (s : Text) : Text :=
  let fraction := s.dropWhile (· != '.')
  if (fraction.drop 1).all (· == '0') then s.takeWhile (· != '.') else s

/-- The integer that a text in a settings file stands for: space around it, a plus sign, leading
zeros, a fraction of zeros and single low lines are allowed. -/
def setting? (s : Text) : Option Int :=
  (canonicalInt? s).orElse fun _ => do
    let t := trim s
    let t := match t with
      | '+' :: r => if r.head? == some '-' then [] else r
      | _ => t
    let t := dropZeroFraction (← dropLeadingZeros? t)
    canonicalInt? ((dropGroups? t).getD t)

/-- The integer that an environment variable stands for: digits of every script, low lines
between digits, leading zeros and a sign of either kind. -/
def environment? (s : Text) : Option Int :=
  let (negative, r) := takeSign (trim (asciiDigits s))
  match ungroup? none r with
  | none => none
  | some digits =>
      if digits.isEmpty || !digits.all isAsciiDigit then none
      else
        let n : Int := digitsValue digits
        some (if negative then -n else n)

end BotCanvas.Numeral
