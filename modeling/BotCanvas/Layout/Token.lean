import BotCanvas.Text.Class

/-!
# Tokens of programs with layout

In a program with layout the line ends and the indentation are tokens too. Inside brackets they are
not. Every token knows its line and how many brackets are open after it.
-/

namespace BotCanvas.Layout

/-- The kinds of tokens. -/
inductive TokenKind
  | name
  | number
  | string
  | mark
  | newline
  | indent
  | dedent
  | finish
  deriving DecidableEq

/-- A token: its kind, its text, its line, and how many brackets are open after it. -/
structure Token where
  kind : TokenKind
  text : String
  line : Nat
  depth : Nat
  deriving DecidableEq

/-- Why a text has no further token. -/
inductive Fault
  | unclosed (bracket : Char) (line : Nat)
  | unmatched (bracket : Char) (line : Nat)
  | mismatched (closing opening : Char) (opened line : Nat)
  | deepBrackets (line : Nat)
  | unterminated (triple : Bool) (opened line : Nat)
  | strayDedent (line : Nat)
  | mixedIndent (line : Nat)
  | deepIndent (line : Nat)
  | continuation (line : Nat)
  | cutShort (line : Nat)
  | badNumber (line : Nat)
  | leadingZeros (line : Nat)
  | badCharacter (c : Char) (line : Nat)
  deriving DecidableEq

namespace Fault

/-- The line that a fault is reported at. -/
def line : Fault → Nat
  | unclosed _ line => line
  | unmatched _ line => line
  | mismatched _ _ _ line => line
  | deepBrackets line => line
  | unterminated _ opened _ => opened
  | strayDedent line => line
  | mixedIndent line => line
  | deepIndent line => line
  | continuation line => line
  | cutShort line => line
  | badNumber line => line
  | leadingZeros line => line
  | badCharacter _ line => line

/-- Tests for a fault that is reported even if the grammar is broken before it. A bracket that is
never closed is such a fault only if the grammar is broken on a later line. -/
def isLoud (broken : Nat) : Fault → Bool
  | unclosed _ line => decide (line < broken)
  | unmatched .. => true
  | mismatched .. => true
  | deepBrackets _ => true
  | unterminated .. => true
  | badNumber _ => true
  | leadingZeros _ => true
  | badCharacter .. => true
  | _ => false

/-- A character code in at least four capital digits. -/
def codeText (c : Char) : String :=
  let digits := (Nat.toDigits 16 c.toNat).map Char.toUpper
  String.ofList (List.replicate (4 - digits.length) '0' ++ digits)

/-- The wording of a fault. -/
def message : Fault → String
  | unclosed bracket _ => "'" ++ bracket.toString ++ "' was never closed"
  | unmatched bracket _ => "unmatched '" ++ bracket.toString ++ "'"
  | mismatched closing opening opened line =>
      "closing parenthesis '" ++ closing.toString ++ "' does not match opening parenthesis '" ++
        opening.toString ++ "'" ++ (if opened = line then "" else " on line " ++ toString opened)
  | deepBrackets _ => "too many nested parentheses"
  | unterminated true _ line =>
      "unterminated triple-quoted string literal (detected at line " ++ toString line ++ ")"
  | unterminated false _ line =>
      "unterminated string literal (detected at line " ++ toString line ++ ")"
  | strayDedent _ => "unindent does not match any outer indentation level"
  | mixedIndent _ => "inconsistent use of tabs and spaces in indentation"
  | deepIndent _ => "too many levels of indentation"
  | continuation _ => "unexpected character after line continuation character"
  | cutShort _ => "unexpected EOF while parsing"
  | badNumber _ => "invalid decimal literal"
  | leadingZeros _ =>
      "leading zeros in decimal integer literals are not permitted; " ++
        "use an 0o prefix for octal integers"
  | badCharacter c _ =>
      if Text.isHidden c then "invalid non-printable character U+" ++ codeText c
      else "invalid character '" ++ c.toString ++ "' (U+" ++ codeText c ++ ")"

end Fault

/-- The tokens of a text up to its end or to the first fault. -/
structure Scan where
  tokens : List Token
  fault : Option Fault

end BotCanvas.Layout
