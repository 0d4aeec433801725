import BotCanvas.Number.Shortest
import BotCanvas.Text.Quoted

/-!
# Values

The values that documents hold and block properties carry. Whole numbers have any size and are
kept apart from binary64 numbers; an object keeps its fields in the order of first appearance.

**Display** is the text of a value inside a message or a program: a text stands for itself, and
everything inside a list or an object is shown the way messages quote it.
-/

namespace BotCanvas

/-- A value of a document. -/
inductive Value
  | null
  | bool (b : Bool)
  | int (n : Int)
  | float (x : Binary64)
  | str (s : String)
  | arr (items : List Value)
  | obj (fields : List (String × Value))
  deriving Inhabited

/-- Sets a field: in place if the key is there, at the end otherwise. -/
def setField {α : Type} (key : String) (value : α) : List (String × α) → List (String × α)
  | [] => [(key, value)]
  | (k, v) :: rest => if k = key then (k, value) :: rest else (k, v) :: setField key value rest

/-- The value under a key. -/
def getField? {α : Type} (key : String) : List (String × α) → Option α
  | [] => none
  | (k, v) :: rest => if k = key then some v else getField? key rest

/-- Tests for a key. -/
def hasField {α : Type} (key : String) (fields : List (String × α)) : Bool :=
  fields.any fun p => p.1 == key

/-- Drops the fields under a key. -/
def eraseField {α : Type} (key : String) (fields : List (String × α)) : List (String × α) :=
  fields.filter fun p => p.1 != key

/-- A field that was set is found. -/
theorem getField?_setField_self {α : Type} (key : String) (value : α)
    (fields : List (String × α)) : getField? key (setField key value fields) = some value := by
  induction fields with
  | nil => simp [setField, getField?]
  | cons p rest ih =>
    obtain ⟨k, v⟩ := p
    by_cases h : k = key <;> simp [setField, getField?, h, ih]

/-- Setting a field leaves the others alone. -/
theorem getField?_setField_of_ne {α : Type} {key other : String} (h : key ≠ other) (value : α)
    (fields : List (String × α)) :
    getField? other (setField key value fields) = getField? other fields := by
  induction fields with
  | nil => simp [setField, getField?, h]
  | cons p rest ih =>
    obtain ⟨k, v⟩ := p
    by_cases hk : k = key
    · subst hk
      simp [setField, getField?, h]
    · by_cases ho : k = other
      · subst ho
        simp [setField, getField?, hk]
      · simp [setField, getField?, hk, ho, ih]

namespace Value

/-- Tests for a value that counts as present: not null, false, a zero or empty. -/
def isPresent : Value → Bool
  | null => false
  | bool b => b
  | int n => n != 0
  | float x => !x.isZero
  | str s => !s.isEmpty
  | arr items => !items.isEmpty
  | obj fields => !fields.isEmpty

/-- Tests for null. -/
def isNull : Value → Bool
  | null => true
  | _ => false

/-- The text of an integer. -/
def intText (n : Int) : Text :=
  (if n < 0 then ['-'] else []) ++ natDigits n.natAbs

mutual

/-- A value as messages show it. -/
def shown : Value → Text
  | null => "None".toList
  | bool b => (if b then "True" else "False").toList
  | int n => intText n
  | float x => x.text
  | str s => Text.quoted s.toList
  | arr items => '[' :: (shownItems items ++ [']'])
  | obj fields => '\x7b' :: (shownFields fields ++ ['\x7d'])

/-- The items of a list, separated by commas. -/
def shownItems : List Value → Text
  | [] => []
  | [v] => shown v
  | v :: w :: rest => shown v ++ ',' :: ' ' :: shownItems (w :: rest)

/-- The fields of an object, separated by commas. -/
def shownFields : List (String × Value) → Text
  | [] => []
  | [(k, v)] => Text.quoted k.toList ++ ':' :: ' ' :: shown v
  | (k, v) :: p :: rest =>
      Text.quoted k.toList ++ ':' :: ' ' :: (shown v ++ ',' :: ' ' :: shownFields (p :: rest))

end

/-- The text that a value stands for. -/
def display : Value → Text
  | str s => s.toList
  | other => shown other

/-- The text that a value stands for, where a value that does not count as present is empty. -/
def displayPresent (v : Value) : Text :=
  if v.isPresent then v.display else []

end Value

end BotCanvas
