import BotCanvas.Number.Numeral
import BotCanvas.Value.Basic

/-!
# Reading documents

A reader for JSON documents. It also takes the words for NaN and the infinities, and of several
fields with one key keeps the last value in the first place. A fault names what was wrong and
where: by line, column and count of characters.
-/

namespace BotCanvas

/-- What can be wrong with a document. -/
inductive DocumentFault
  | expectingValue
  | expectingName
  | expectingColon
  | expectingComma
  | unterminatedString
  | controlCharacter
  | escape
  | unicodeEscape
  | extraData
  | byteOrderMark
  deriving DecidableEq

namespace DocumentFault

/-- The wording of a fault. -/
def wording : DocumentFault → String
  | expectingValue => "Expecting value"
  | expectingName => "Expecting property name enclosed in double quotes"
  | expectingColon => "Expecting ':' delimiter"
  | expectingComma => "Expecting ',' delimiter"
  | unterminatedString => "Unterminated string starting at"
  | controlCharacter => "Invalid control character at"
  | escape => "Invalid \\escape"
  | unicodeEscape => "Invalid \\uXXXX escape"
  | extraData => "Extra data"
  | byteOrderMark => "Unexpected UTF-8 BOM (decode using utf-8-sig)"

end DocumentFault

/-- A fault and the text before it. -/
structure DocumentError where
  fault : DocumentFault
  before : Text
  deriving DecidableEq

namespace DocumentError

/-- The line of the fault, counted from one. -/
def line (e : DocumentError) : Nat :=
  e.before.count '\n' + 1

/-- The column of the fault, counted from one. -/
def column (e : DocumentError) : Nat :=
  (e.before.reverse.takeWhile (· != '\n')).length + 1

/-- The wording of the fault with its place. -/
def message (e : DocumentError) : String :=
  e.fault.wording ++ ": line " ++ toString e.line ++ " column " ++ toString e.column ++
    " (char " ++ toString e.before.length ++ ")"

end DocumentError

namespace Document

/-- What a reader returns: a result and the unread rest, or a fault and the rest it stands at. -/
abbrev Reading (α : Type) := Except (DocumentFault × Text) (α × Text)

/-- The white space of documents. -/
def isSpace (c : Char) : Bool :=
  c == ' ' || c == '\t' || c == '\n' || c == '\r'

/-- Skips white space. -/
def skip (s : Text) : Text :=
  s.dropWhile isSpace

/-- The number of four hexadecimal digits. -/
def hex4? : Text → Option Nat
  | [a, b, c, d] => do
      let a ← Text.hexValue? a
      let b ← Text.hexValue? b
      let c ← Text.hexValue? c
      let d ← Text.hexValue? d
      some (((a * 16 + b) * 16 + c) * 16 + d)
  | _ => none

/-- The character of an escape of one letter. -/
def shortEscape? (c : Char) : Option Char :=
  if c = '"' ∨ c = '\\' ∨ c = '/' then some c
  else if c = 'b' then some (Char.ofNat 8)
  else if c = 'f' then some (Char.ofNat 12)
  else if c = 'n' then some '\n'
  else if c = 'r' then some '\r'
  else if c = 't' then some '\t'
  else none

/-- The character for a number; half of a surrogate pair on its own becomes the replacement
character. -/
def charOf (n : Nat) : Char :=
  if 0xd800 ≤ n ∧ n ≤ 0xdfff then Char.ofNat 0xfffd else Char.ofNat n

/-- Reads the digits after the letter of a numbered escape, and the second half of a surrogate
pair if the digits are the first. The argument starts at the letter. -/
def numberedEscape (s : Text) : Reading Char :=
  let digits := s.drop 1
  if digits.length < 5 then .error (.unicodeEscape, s)
  else
    match hex4? (digits.take 4) with
    | none => .error (.unicodeEscape, s)
    | some high =>
        let rest := digits.drop 4
        match rest with
        | '\\' :: 'u' :: second =>
            if 0xd800 ≤ high ∧ high ≤ 0xdbff ∧ 5 ≤ second.length then
              match hex4? (second.take 4) with
              | none => .error (.unicodeEscape, 'u' :: second)
              | some low =>
                  if 0xdc00 ≤ low ∧ low ≤ 0xdfff then
                    .ok (Char.ofNat (0x10000 + (high - 0xd800) * 0x400 + (low - 0xdc00)),
                      second.drop 4)
                  else .ok (charOf high, rest)
            else .ok (charOf high, rest)
        | _ => .ok (charOf high, rest)

/-- Reads a string after its opening quote. The string so far comes last character first;
`opening` starts at the quote. -/
def string (opening : Text) : (fuel : Nat) → (sofar : Text) → Text → Reading String
  | 0, _, _ => .error (.unterminatedString, opening)
  | _ + 1, _, [] => .error (.unterminatedString, opening)
  | fuel + 1, sofar, c :: r =>
      if c = '"' then .ok (String.ofList sofar.reverse, r)
      else if c = '\\' then
        match r with
        | [] => .error (.unterminatedString, opening)
        | e :: r' =>
            if e = 'u' then
              match numberedEscape r with
              | .error fault => .error fault
              | .ok (d, rest) => string opening fuel (d :: sofar) rest
            else
              match shortEscape? e with
              | some d => string opening fuel (d :: sofar) r'
              | none => .error (.escape, c :: r)
      else if c.toNat < 32 then .error (.controlCharacter, c :: r)
      else string opening fuel (c :: sofar) r

/-- Reads the digits of a number before the point. -/
def wholeDigits : Text → Option (Text × Text)
  | '0' :: r => some (['0'], r)
  | s =>
      let (digits, rest) := Numeral.takeDigits s
      if digits.isEmpty then none else some (digits, rest)

/-- Reads a fraction, if the point is followed by a digit. -/
def fraction (s : Text) : Text × Text :=
  match s with
  | '.' :: r => if (r.takeWhile Text.isAsciiDigit).isEmpty then ([], s) else Numeral.takeDigits r
  | _ => ([], s)

/-- Reads an exponent, if it has a digit. -/
def exponent (s : Text) : Option Int × Text :=
  match s with
  | c :: r =>
      if c = 'e' ∨ c = 'E' then
        let (negative, r) := Numeral.takeSign r
        let (digits, rest) := Numeral.takeDigits r
        if digits.isEmpty then (none, s)
        else
          let n : Int := Numeral.digitsValue digits
          (some (if negative then -n else n), rest)
      else (none, s)
  | [] => (none, s)

/-- Reads a number: whole if it has neither fraction nor exponent. -/
def number (s : Text) : Option (Value × Text) :=
  let (negative, r) := match s with
    | '-' :: r => (true, r)
    | _ => (false, s)
  (wholeDigits r).map fun (whole, r) =>
    let (frac, r) := fraction r
    let (exp, rest) := exponent r
    if frac.isEmpty && exp.isNone then
      let n : Int := Numeral.digitsValue whole
      (.int (if negative then -n else n), rest)
    else
      (.float (Binary64.ofDecimal negative (Numeral.digitsValue (whole ++ frac))
        (exp.getD 0 - frac.length)), rest)

/-- The words that stand for values. -/
def wordTable : List (Text × Value) :=
  [("null".toList, .null), ("true".toList, .bool true), ("false".toList, .bool false),
   ("NaN".toList, .float .nan), ("Infinity".toList, .float (.infinite false)),
   ("-Infinity".toList, .float (.infinite true))]

/-- Reads a word or a number. -/
def scalar (s : Text) : Reading Value :=
  match wordTable.find? fun (word, _) => word.isPrefixOf s with
  | some (word, v) => .ok (v, s.drop word.length)
  | none =>
      match number s with
      | some result => .ok result
      | none => .error (.expectingValue, s)

/-- Reads a name and the colon after it. -/
def fieldName (s : Text) : Reading String :=
  match s with
  | '"' :: r =>
      match string s (r.length + 1) [] r with
      | .error fault => .error fault
      | .ok (name, rest) =>
          match skip rest with
          | ':' :: rest => .ok (name, skip rest)
          | rest => .error (.expectingColon, rest)
  | _ => .error (.expectingName, s)

mutual

/-- Reads a value. -/
def value : (fuel : Nat) → Text → Reading Value
  | 0, s => .error (.expectingValue, s)
  | _ + 1, [] => .error (.expectingValue, [])
  | fuel + 1, c :: r =>
      if c = '"' then (string (c :: r) (r.length + 1) [] r).map fun (t, rest) => (.str t, rest)
      else if c = '[' then
        match skip r with
        | ']' :: rest => .ok (.arr [], rest)
        | rest => (items fuel [] rest).map fun (vs, rest) => (.arr vs, rest)
      else if c = '\x7b' then
        match skip r with
        | '\x7d' :: rest => .ok (.obj [], rest)
        | rest => (fields fuel [] rest).map fun (fs, rest) => (.obj fs, rest)
      else scalar (c :: r)

/-- Reads the items of a list up to its end. The items so far come last first. -/
def items : (fuel : Nat) → (sofar : List Value) → Text → Reading (List Value)
  | 0, _, s => .error (.expectingValue, s)
  | fuel + 1, sofar, s =>
      match value fuel s with
      | .error fault => .error fault
      | .ok (v, rest) =>
          match skip rest with
          | ']' :: rest => .ok ((v :: sofar).reverse, rest)
          | ',' :: rest => items fuel (v :: sofar) (skip rest)
          | rest => .error (.expectingComma, rest)

/-- Reads the fields of an object up to its end. -/
def fields : (fuel : Nat) → (sofar : List (String × Value)) → Text →
    Reading (List (String × Value))
  | 0, _, s => .error (.expectingName, s)
  | fuel + 1, sofar, s =>
      match fieldName s with
      | .error fault => .error fault
      | .ok (name, rest) =>
          match value fuel rest with
          | .error fault => .error fault
          | .ok (v, rest) =>
              match skip rest with
              | '\x7d' :: rest => .ok (setField name v sofar, rest)
              | ',' :: rest => fields fuel (setField name v sofar) (skip rest)
              | rest => .error (.expectingComma, rest)

end

/-- Reads a whole document. Each step of the reader takes a character or opens a list or an
object, so twice the length is enough fuel. -/
def read (s : Text) : Except DocumentError Value :=
  let place : DocumentFault × Text → DocumentError := fun (fault, rest) =>
    ⟨fault, s.take (s.length - rest.length)⟩
  if s.head?.any fun c => c.toNat == 0xfeff then .error (place (.byteOrderMark, s))
  else
    match value (2 * s.length + 2) (skip s) with
    | .error fault => .error (place fault)
    | .ok (v, rest) =>
        match skip rest with
        | [] => .ok v
        | rest => .error (place (.extraData, rest))

end Document

end BotCanvas
