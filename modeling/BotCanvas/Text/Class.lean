import BotCanvas.Text.Basic
import BotCanvas.Text.Table.Digit
import BotCanvas.Text.Table.Hidden
import BotCanvas.Text.Table.Word

/-!
# Character classes

The classes of characters that names, numbers and messages are built from. All are decided by
Unicode tables; the classes that are meant to be ASCII only say so.
-/

namespace BotCanvas.Text

/-- Tests a code point against closed ranges in ascending order. -/
def inRanges : List (Nat × Nat) → Nat → Bool
  | [], _ => false
  | (low, high) :: rest, c =>
      if c < low then false else decide (c ≤ high) || inRanges rest c

/-- Blank characters: every kind of space, tabs, line ends and the four ASCII separators. -/
def isBlank (c : Char) : Bool :=
  let n := c.toNat
  (9 ≤ n && n ≤ 13) || (28 ≤ n && n ≤ 32) || n == 0x85 || n == 0xa0 || n == 0x1680 ||
    (0x2000 ≤ n && n ≤ 0x200a) || n == 0x2028 || n == 0x2029 || n == 0x202f || n == 0x205f ||
    n == 0x3000

/-- Word characters: letters, numbers of every kind and the low line. -/
def isWord (c : Char) : Bool :=
  inRanges Table.word c.toNat

/-- Digits: decimal digits of every script, and superscript, subscript and circled ones. -/
def isDigit (c : Char) : Bool :=
  inRanges Table.digit c.toNat

/-- Characters without a glyph, which a quoted text shows by number. -/
def isHidden (c : Char) : Bool :=
  inRanges Table.hidden c.toNat

/-- The value of a decimal digit of any script. -/
def decimalValue? (c : Char) : Option Nat :=
  (Table.decimalZeros.find? fun start => decide (start ≤ c.toNat ∧ c.toNat ≤ start + 9)).map
    fun start => c.toNat - start

/-- ASCII letters. -/
def isAsciiLetter (c : Char) : Bool :=
  ('a' ≤ c && c ≤ 'z') || ('A' ≤ c && c ≤ 'Z')

/-- ASCII digits. -/
def isAsciiDigit (c : Char) : Bool :=
  '0' ≤ c && c ≤ '9'

/-- ASCII letters and digits. -/
def isAsciiAlnum (c : Char) : Bool :=
  isAsciiLetter c || isAsciiDigit c

/-- Hexadecimal digits, ASCII only. -/
def isHexDigit (c : Char) : Bool :=
  isAsciiDigit c || ('a' ≤ c && c ≤ 'f') || ('A' ≤ c && c ≤ 'F')

/-- The value of a hexadecimal digit. -/
def hexValue? (c : Char) : Option Nat :=
  if isAsciiDigit c then some (c.toNat - 48)
  else if 'a' ≤ c && c ≤ 'f' then some (c.toNat - 87)
  else if 'A' ≤ c && c ≤ 'F' then some (c.toNat - 55)
  else none

/-- Tests for a text of one digit or more. -/
def isNumeral (s : Text) : Bool :=
  !s.isEmpty && s.all isDigit

end BotCanvas.Text
