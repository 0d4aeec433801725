import BotCanvas.Text.Basic

/-!
# Brackets in programs with braces

One pass over the text keeps a stack of open brackets. Line comments, block comments and literals
are passed over; a backslash in a literal takes the next character along. The first fault ends the
pass; brackets still open at the end are all reported, the outermost first.
-/

namespace BotCanvas

/-- What is wrong with the brackets of a text, and the line it is about. -/
inductive BracketIssue
  | unterminatedComment (line : Nat)
  | unterminatedLiteral (line : Nat)
  | unexpected (bracket : Char) (line : Nat)
  | unclosed (bracket : Char) (line : Nat)
  deriving DecidableEq

namespace BracketIssue

/-- The wording of an issue. -/
def message : BracketIssue → String
  | unterminatedComment line => "Unterminated block comment starting at line " ++ toString line
  | unterminatedLiteral line => "Unterminated string starting at line " ++ toString line
  | unexpected bracket line =>
      "Unexpected '" ++ bracket.toString ++ "' at line " ++ toString line
  | unclosed bracket line =>
      "Unclosed '" ++ bracket.toString ++ "' opened at line " ++ toString line

end BracketIssue

namespace Brackets

/-- Where the pass stands: in code, in a comment, or in a literal. -/
inductive Mode
  | code
  | lineComment
  | blockComment (opened : Nat)
  | literal (quote : Char) (opened : Nat)
  deriving DecidableEq

/-- An open bracket and its line. -/
abbrev Opened := Char × Nat

/-- Tests for a character that opens and closes a literal. -/
def isQuote (c : Char) : Bool :=
  c == '\x27' || c == '\x22' || c == '\x60'

/-- Tests for an opening bracket. -/
def isOpening (c : Char) : Bool :=
  c == '(' || c == '[' || c == '\x7b'

/-- The opening bracket that a closing bracket belongs to. -/
def partner? (c : Char) : Option Char :=
  if c = ')' then some '(' else if c = ']' then some '[' else if c = '\x7d' then some '\x7b'
  else none

/-- Passes over a text from a line on, with the open brackets, innermost first. -/
def scan : Mode → (line : Nat) → List Opened → List Char → List BracketIssue
  | .code, _, stack, [] => stack.reverse.map fun (c, opened) => .unclosed c opened
  | .lineComment, _, stack, [] => stack.reverse.map fun (c, opened) => .unclosed c opened
  | .blockComment opened, _, _, [] => [.unterminatedComment opened]
  | .literal _ opened, _, _, [] => [.unterminatedLiteral opened]
  | .lineComment, line, stack, c :: r =>
      if c = '\n' then scan .code (line + 1) stack r else scan .lineComment line stack r
  | .blockComment _, line, stack, '*' :: '/' :: r => scan .code line stack r
  | .blockComment opened, line, stack, c :: r =>
      scan (.blockComment opened) (if c = '\n' then line + 1 else line) stack r
  | .literal quote opened, line, stack, '\\' :: _ :: r =>
      scan (.literal quote opened) line stack r
  | .literal quote opened, line, stack, c :: r =>
      if c = quote then scan .code line stack r
      else if c = '\n' then
        if quote = '\x60' then scan (.literal quote opened) (line + 1) stack r
        else [.unterminatedLiteral opened]
      else scan (.literal quote opened) line stack r
  | .code, line, stack, '/' :: '/' :: r => scan .lineComment line stack r
  | .code, line, stack, '/' :: '*' :: r => scan (.blockComment line) line stack r
  | .code, line, stack, c :: r =>
      if c = '\n' then scan .code (line + 1) stack r
      else if isQuote c then scan (.literal c line) line stack r
      else if isOpening c then scan .code line ((c, line) :: stack) r
      else
        match partner? c with
        | none => scan .code line stack r
        | some opening =>
            match stack with
            | (top, _) :: below =>
                if top = opening then scan .code line below r else [.unexpected c line]
            | [] => [.unexpected c line]

/-- The issues with the brackets of a text. -/
def check (source : Text) : List BracketIssue :=
  scan .code 1 [] source

end Brackets

end BotCanvas
