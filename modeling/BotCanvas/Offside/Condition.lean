import BotCanvas.Text.Replace
import BotCanvas.Text.Trim
import BotCanvas.Value.Basic

/-!
# Conditions for the language with suites

Users spell conditions with the operators of the language with braces. The common ones are
replaced here; what stands between quotes is left alone.
-/

namespace BotCanvas.Offside

/-- A part of a condition: code, or a literal with its quotes. -/
inductive ConditionPart
  | code (t : Text)
  | literal (t : Text)
  deriving DecidableEq

/-- Splits off the rest of a literal up to its closing quote, which is included. A backslash takes
the next character along, which may not be a line feed. -/
def literalRest? (quote : Char) : List Char → Option (Text × Text)
  | [] => none
  | '\\' :: c :: r =>
      if c = '\n' then none
      else (literalRest? quote r).map fun (body, rest) => ('\\' :: c :: body, rest)
  | c :: r =>
      if c = quote then some ([c], r)
      else if c = '\\' then none
      else (literalRest? quote r).map fun (body, rest) => (c :: body, rest)

/-- The parts of a condition after passing over the given number of characters. A quote without a
partner is code. -/
def partsAfter : (passing : Nat) → List Char → List ConditionPart
  | _, [] => [.code []]
  | passing + 1, _ :: r => partsAfter passing r
  | 0, c :: r =>
      let literal? := if c = '\x22' ∨ c = '\x27' then literalRest? c r else none
      match literal? with
      | some (body, _) => .code [] :: .literal (c :: body) :: partsAfter body.length r
      | none =>
          match partsAfter 0 r with
          | .code t :: rest => .code (c :: t) :: rest
          | rest => .code [c] :: rest

/-- The parts of a condition in order. -/
def conditionParts (s : Text) : List ConditionPart :=
  partsAfter 0 s

/-- Replaces the operators and words of code, one after another, and narrows its blanks. -/
def respellCode (s : Text) : Text :=
  let s := Text.replaceAll "===" "==" s
  let s := Text.replaceAll "!==" "!=" s
  let s := Text.replaceAll "&&" " and " s
  let s := Text.replaceAll "||" " or " s
  let s := Text.replaceWord "true" "True" s
  let s := Text.replaceWord "false" "False" s
  Text.narrow (Text.replaceWord "null" "None" s)

/-- A part of a condition in the language with suites. -/
def respellPart : ConditionPart → Text
  | .code t => respellCode t
  | .literal t => t

/-- A value as a condition in the language with suites. -/
def conditionCode (v : Value) : Text :=
  let spelled := Text.strip v.displayPresent
  (conditionParts (if spelled.isEmpty then "True" else spelled)).flatMap respellPart

end BotCanvas.Offside
