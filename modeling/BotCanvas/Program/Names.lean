import BotCanvas.Text.Basic
import BotCanvas.Number.Shortest

/-!
# Names given out while a program is written

A tally counts how often a base name was asked for: the first time it is the name itself, later it
gets the count behind it. Names of local variables are counted for each trigger, names of
functions for the whole program. A scope also remembers which variables were declared.
-/

namespace BotCanvas

/-- How often each base name was asked for. -/
abbrev Tally := List (Text × Nat)

namespace Tally

/-- How often a base name was asked for. -/
def count (base : Text) : Tally → Nat
  | [] => 0
  | (b, n) :: rest => if b = base then n else count base rest

/-- Counts a base name once more. -/
def bump (base : Text) : Tally → Tally
  | [] => [(base, 1)]
  | (b, n) :: rest => if b = base then (b, n + 1) :: rest else (b, n) :: bump base rest

/-- The name for the next request of a base name. -/
def nextName (t : Tally) (base : Text) : Text :=
  let n := t.count base + 1
  if n = 1 then base else base ++ natDigits n

end Tally

/-- The local names of one trigger. -/
structure Scope where
  locals : Tally
  declared : List Text

namespace Scope

/-- A scope in which nothing is named. -/
def empty : Scope := ⟨[], []⟩

/-- Gives out a local name. -/
def fresh (s : Scope) (base : Text) : Text × Scope :=
  (s.locals.nextName base, { s with locals := s.locals.bump base })

/-- Declares a variable; the flag says whether this is the first time. -/
def declare (s : Scope) (name : Text) : Bool × Scope :=
  if s.declared.contains name then (false, s)
  else (true, { s with declared := name :: s.declared })

end Scope

end BotCanvas
