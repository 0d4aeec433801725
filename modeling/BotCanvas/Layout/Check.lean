import BotCanvas.Layout.Grammar
import BotCanvas.Layout.Lexer

/-!
# Checking programs with layout

A text is sound if the grammar goes through all of its tokens. Otherwise there is one issue: the
fault that ends the tokens if the grammar gets there or the fault is loud, else the place where the
grammar is broken.
-/

namespace BotCanvas.Layout

/-- What is wrong with a text. -/
inductive Issue
  | zeroByte
  | tooDeep
  | broken (message : String) (line : Nat)
  deriving DecidableEq

namespace Issue

/-- The wording of an issue. -/
def message : Issue → String
  | zeroByte =>
      "Python source could not be parsed: source code string cannot contain null bytes"
  | tooDeep => "Python source is nested too deeply to parse"
  | broken message line => "Python syntax error at line " ++ toString line ++ ": " ++ message

end Issue

namespace Notice

/-- The wording of a notice. -/
def message : Notice → String
  | suiteMissing opening line =>
      "expected an indented block after " ++ opening ++ " on line " ++ toString line
  | colonMissing => "expected ':'"
  | parametersMissing => "expected '('"
  | handlerMissing => "expected 'except' or 'finally' block"
  | elseMissing _ => "expected 'else' after 'if' expression"
  | commaMissing _ => "invalid syntax. Perhaps you forgot a comma?"
  | deep => "invalid syntax"

/-- The line of a notice about a token of the given line. -/
def line (found : Nat) : Notice → Nat
  | elseMissing line => line
  | commaMissing line => line
  | _ => found

end Notice

/-- The issue with a token that cannot stand where it is, given the fault that ends the tokens.
Indentation is blamed before any later fault. -/
def tokenIssue (fault : Option Fault) (notice : Option Notice) (t : Token) : Issue :=
  match notice, t.kind with
  | none, .indent => .broken "unexpected indent" t.line
  | none, .dedent => .broken "unexpected unindent" t.line
  | _, _ =>
      match fault.filter (Fault.isLoud t.line), notice with
      | some f, _ => .broken f.message f.line
      | none, some n => .broken n.message (n.line t.line)
      | none, none => .broken "invalid syntax" t.line

/-- The issue where the grammar is broken, given the fault that ends the tokens. -/
def breakIssue (fault : Option Fault) (b : Break) : Issue :=
  match b.notice, b.rest with
  | some .deep, _ => .tooDeep
  | _, [] => (fault.map fun f => .broken f.message f.line).getD .tooDeep
  | notice, t :: _ => tokenIssue fault notice t

/-- The issue with a text, if it has one. -/
def check (source : Text) : Option Issue :=
  if source.any fun c => c.toNat == 0 then some .zeroByte
  else
    let s := scan source
    match recognise s.tokens with
    | .ok _ => none
    | .error b => some (breakIssue s.fault b)

end BotCanvas.Layout
