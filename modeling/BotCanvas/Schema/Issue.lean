import BotCanvas.Text.Trim

/-!
# Issues found in a document

A document that does not fit its schema is answered with a list of issues. Each names a problem
and the place of the value it is about: the fields and list positions that lead there.
-/

namespace BotCanvas

/-- One step of the way to a value. -/
inductive Place
  | field (name : String)
  | item (index : Nat)
  deriving DecidableEq

/-- What can be wrong with a value. -/
inductive Problem
  | missing
  | notText
  | notModel (model : String)
  | notObject
  | notNumber
  | unreadableNumber
  | notInteger
  | unreadableInteger
  | fractional
  | oversized
  | notFinite
  | notFlag
  | unreadableFlag
  | below (bound : Int)
  | above (bound : Int)
  | notOneOf (first second : String)
  | notAmong (choices : List String)
  | notSequence
  | unreadableDocument
  deriving DecidableEq

namespace Problem

/-- Choices in a message: quoted, separated by commas, `or` before the last. -/
def choicesText : List String → String
  | [] => ""
  | [a] => "'" ++ a ++ "'"
  | [a, b] => "'" ++ a ++ "' or '" ++ b ++ "'"
  | a :: rest => "'" ++ a ++ "', " ++ choicesText rest

/-- The short code of a problem. -/
def code : Problem → String
  | missing => "missing"
  | notText => "string_type"
  | notModel _ => "model_type"
  | notObject => "model_type"
  | notNumber => "float_type"
  | unreadableNumber => "float_parsing"
  | notInteger => "int_type"
  | unreadableInteger => "int_parsing"
  | fractional => "int_from_float"
  | oversized => "int_parsing_size"
  | notFinite => "finite_number"
  | notFlag => "bool_type"
  | unreadableFlag => "bool_parsing"
  | below _ => "greater_than_equal"
  | above _ => "less_than_equal"
  | notOneOf _ _ => "literal_error"
  | notAmong _ => "enum"
  | notSequence => "tuple_type"
  | unreadableDocument => "json_invalid"

/-- The wording of a problem. The fault of an unreadable document has no wording of its own. -/
def message : Problem → String
  | missing => "Field required"
  | notText => "Input should be a valid string"
  | notModel model => "Input should be a valid dictionary or instance of " ++ model
  | notObject => "Input should be an object"
  | notNumber => "Input should be a valid number"
  | unreadableNumber => "Input should be a valid number, unable to parse string as a number"
  | notInteger => "Input should be a valid integer"
  | unreadableInteger => "Input should be a valid integer, unable to parse string as an integer"
  | fractional => "Input should be a valid integer, got a number with a fractional part"
  | oversized => "Unable to parse input string as an integer, exceeded maximum size"
  | notFinite => "Input should be a finite number"
  | notFlag => "Input should be a valid boolean"
  | unreadableFlag => "Input should be a valid boolean, unable to interpret input"
  | below bound => "Input should be greater than or equal to " ++ toString bound
  | above bound => "Input should be less than or equal to " ++ toString bound
  | notOneOf first second => "Input should be " ++ choicesText [first, second]
  | notAmong choices => "Input should be " ++ choicesText choices
  | notSequence => "Input should be a valid tuple"
  | unreadableDocument => ""

end Problem

/-- A problem at a place. -/
structure Issue where
  place : List Place
  problem : Problem
  deriving DecidableEq

/-- The outcome of checking a value: what it stands for, or all issues in order. -/
inductive Checked (α : Type)
  | valid (a : α)
  | invalid (issues : List Issue)

namespace Checked

/-- Applies a function to a valid outcome. -/
def map {α β : Type} (f : α → β) : Checked α → Checked β
  | valid a => valid (f a)
  | invalid issues => invalid issues

/-- Combines two outcomes; the issues of both are kept. -/
def seq {α β : Type} : Checked (α → β) → Checked α → Checked β
  | valid f, valid a => valid (f a)
  | valid _, invalid issues => invalid issues
  | invalid issues, valid _ => invalid issues
  | invalid issues, invalid more => invalid (issues ++ more)

instance : Functor Checked where
  map f := map f

instance : Applicative Checked where
  pure := valid
  seq f x := seq f (x ())

/-- One issue with the value itself. -/
def refuse {α : Type} (problem : Problem) : Checked α :=
  invalid [⟨[], problem⟩]

/-- Continues with a valid outcome. -/
def andThen {α β : Type} (x : Checked α) (f : α → Checked β) : Checked β :=
  match x with
  | valid a => f a
  | invalid issues => invalid issues

/-- Places every issue one step further down. -/
def under {α : Type} (step : Place) : Checked α → Checked α
  | valid a => valid a
  | invalid issues => invalid (issues.map fun i => { i with place := step :: i.place })

/-- The valid outcome, if it is one. -/
def toOption {α : Type} : Checked α → Option α
  | valid a => some a
  | invalid _ => none

/-- Checks the items of a list, each under its position. -/
def itemsFrom {α β : Type} (check : α → Checked β) : Nat → List α → Checked (List β)
  | _, [] => valid []
  | n, a :: rest =>
      seq (map List.cons (under (.item n) (check a))) (itemsFrom check (n + 1) rest)

end Checked

end BotCanvas
