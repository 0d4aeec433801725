import BotCanvas.Number.Numeral
import BotCanvas.Schema.Issue
import BotCanvas.Value.Basic

/-!
# Checking values and fields

The rules for single values (texts, numbers, integers, flags, choices), and for the fields of an
object: a field is required or has a default, and may be known under two names.
-/

namespace BotCanvas.Schema

open Problem

/-- The fields of an object. -/
abbrev Fields := List (String × Value)

/-- A text. -/
def text : Value → Checked String
  | .str s => .valid s
  | _ => .refuse notText

/-- A text or null. -/
def textOrNull : Value → Checked (Option String)
  | .null => .valid none
  | v => (text v).map some

/-- A text, where null counts as empty. -/
def textOrBlank : Value → Checked String
  | .null => .valid ""
  | v => text v

/-- An identifier of a block: a text, or a whole number or truth value by its spelling. -/
def identifier : Value → Checked String
  | .str s => .valid s
  | .int n => .valid (String.ofList (Value.intText n))
  | .bool b => .valid (if b then "True" else "False")
  | _ => .refuse notText

/-- A number: any number, a truth value, or a text that reads as one. -/
def number : Value → Checked Binary64
  | .float x => .valid x
  | .bool b => .valid (if b then .finite false Binary64.unitsPerOne else .zero)
  | .int n => (Binary64.ofInt? n).elim (.refuse notNumber) .valid
  | .str s => (Numeral.coordinate? s.toList).elim (.refuse unreadableNumber) .valid
  | _ => .refuse notNumber

/-- The first integer beyond signed words of 64 bits. -/
def wordEnd : Int := 0x8000000000000000

/-- A whole binary64 number within the range of 64-bit words. -/
def integral (x : Binary64) : Checked Int :=
  if !x.isFinite then .refuse notFinite
  else
    match x.toInt? with
    | none => .refuse fractional
    | some n => if -wordEnd < n ∧ n < wordEnd then .valid n else .refuse oversized

/-- An integer: a whole number, a truth value, or a text that reads as one. -/
def integer : Value → Checked Int
  | .int n => .valid n
  | .bool b => .valid (if b then 1 else 0)
  | .float x => integral x
  | .str s => (Numeral.setting? s.toList).elim (.refuse unreadableInteger) .valid
  | _ => .refuse notInteger

/-- An integer that is not below a bound. -/
def integerFrom (low : Int) (v : Value) : Checked Int :=
  (integer v).andThen fun n => if n < low then .refuse (below low) else .valid n

/-- An integer between two bounds. -/
def integerBetween (low high : Int) (v : Value) : Checked Int :=
  (integerFrom low v).andThen fun n => if high < n then .refuse (above high) else .valid n

/-- The words for yes and no, in small letters. -/
def flagWords : List (String × Bool) :=
  [("0", false), ("f", false), ("n", false), ("no", false), ("off", false), ("false", false),
   ("1", true), ("t", true), ("y", true), ("yes", true), ("on", true), ("true", true)]

/-- A number as a flag: zero or one. A number beyond 64-bit words is not even read as one. -/
def flagOfInt (n : Int) : Checked Bool :=
  if n = 0 then .valid false
  else if n = 1 then .valid true
  else if -wordEnd ≤ n ∧ n < wordEnd then .refuse unreadableFlag
  else .refuse notFlag

/-- A flag: a truth value, zero or one, or one of twelve words in letters of either case. -/
def flag : Value → Checked Bool
  | .bool b => .valid b
  | .int n => flagOfInt n
  | .float x =>
      match integral x with
      | .valid n => flagOfInt n
      | .invalid _ => .refuse notFlag
  | .str s =>
      let word := String.ofList (Numeral.asciiLower s.toList)
      (flagWords.lookup word).elim (.refuse unreadableFlag) .valid
  | _ => .refuse notFlag

/-- A choice among texts that stand for values. -/
def choice {α : Type} (problem : Problem) (table : List (String × α)) : Value → Checked α
  | .str s => (table.lookup s).elim (.refuse problem) .valid
  | _ => .refuse problem

/-- An object, shown to a check of its fields. -/
def object {α : Type} (problem : Problem) (check : Fields → Checked α) : Value → Checked α
  | .obj fields => check fields
  | _ => .refuse problem

/-- A list, each item under its position. -/
def sequence {α : Type} (check : Value → Checked α) : Value → Checked (List α)
  | .arr items => Checked.itemsFrom check 0 items
  | _ => .refuse notSequence

/-- A field that must be there. -/
def required {α : Type} (fields : Fields) (name : String) (check : Value → Checked α) :
    Checked α :=
  match getField? name fields with
  | some v => (check v).under (.field name)
  | none => (Checked.refuse missing).under (.field name)

/-- A field with a default. -/
def optional {α : Type} (fields : Fields) (name : String) (default : α)
    (check : Value → Checked α) : Checked α :=
  match getField? name fields with
  | some v => (check v).under (.field name)
  | none => .valid default

/-- A field with a default that is known under two names; the first is preferred. -/
def optionalEither {α : Type} (fields : Fields) (first second : String) (default : α)
    (check : Value → Checked α) : Checked α :=
  match getField? first fields with
  | some v => (check v).under (.field first)
  | none => optional fields second default check

end BotCanvas.Schema
