import BotCanvas.Braced.Spelling
import BotCanvas.Proofs.Program.Rows
import BotCanvas.Proofs.Text.Parts

/-!
# Blocks and the names in them

A row of a program may end the block that it stands in, declare a constant or a variable, assign to a
variable, and open a block. This is read from the row without the blanks in front of it, so that code
does the same at every depth (`effects_nest`).

Each declaration and each assignment has a place: the blocks that are open around it, told by numbers
in the order in which they were opened (`occurrences`).
-/

namespace BotCanvas

namespace Text

section Blank

variable {lead : Text}

/-- Indentation by blanks inside a text keeps what follows the blanks in front of it. -/
theorem dropWhile_inner
    (hlead : ∀ c ∈ lead, isBlank c = true)
    (s : Text) :
    (inner lead s).dropWhile isBlank = inner lead (s.dropWhile isBlank) := by
  have hopening : ∀ r : Text, (opening lead r ++ inner lead r).dropWhile isBlank =
      (inner lead r).dropWhile isBlank := by
    intro r
    refine List.dropWhile_append_of_pos fun c hc => hlead c ?_
    unfold opening at hc
    split at hc
    · exact absurd hc List.not_mem_nil
    · exact hc
  fun_induction inner lead s with
  | case1 => rfl
  | case2 r ih =>
      rw [List.dropWhile_cons_of_pos (by decide), List.dropWhile_cons_of_pos (by decide),
        List.dropWhile_cons_of_pos (by decide), List.dropWhile_cons_of_pos (by decide), hopening, ih]
  | case3 c r hcr hbreak ih =>
      have hblank := isBlank_of_isLineBreak hbreak
      rw [List.dropWhile_cons_of_pos hblank, List.dropWhile_cons_of_pos hblank, hopening, ih]
  | case4 c r hcr hbreak ih =>
      cases hblank : isBlank c with
      | true => rw [List.dropWhile_cons_of_pos hblank, List.dropWhile_cons_of_pos hblank, ih]
      | false =>
          rw [List.dropWhile_cons_of_neg (by simp [hblank]),
            List.dropWhile_cons_of_neg (by simp [hblank]), inner, if_neg hbreak]
          exact hcr

/-- So does indentation of the text. -/
theorem dropWhile_indent
    (hlead : ∀ c ∈ lead, isBlank c = true)
    (s : Text) :
    (indent lead s).dropWhile isBlank = inner lead (s.dropWhile isBlank) := by
  rw [indent_eq, ← dropWhile_inner hlead]
  refine List.dropWhile_append_of_pos fun c hc => hlead c ?_
  unfold opening at hc
  split at hc
  · exact absurd hc List.not_mem_nil
  · exact hc

end Blank

end Text

namespace Braced

/-! ## Reading rows -/

/-- What a row does with a name. -/
inductive Binding
  /-- It declares a constant. -/
  | constant (name : Text)
  /-- It declares a variable. -/
  | var (name : Text)
  /-- It assigns to a variable and does not declare it. -/
  | assignment (name : Text)
  deriving DecidableEq

/-- What happens to the blocks around a place in a program, or at the place itself. -/
inductive Effect (α : Type)
  /-- A block is opened. -/
  | opens
  /-- The innermost block ends. -/
  | closes
  /-- Something is done there. -/
  | item (a : α)
  deriving DecidableEq

/-- The name that a text assigns to, if it begins with an assignment. -/
def assigned? (t : Text) : Option Text :=
  if t.takeWhile Text.isWord ≠ [] ∧ " = ".toList <+: t.dropWhile Text.isWord then
    some (t.takeWhile Text.isWord)
  else none

/-- What the first line of a row does with a name. -/
def binding? (line : Text) : Option Binding :=
  match line.dropPrefix? "const ".toList with
  | some r => (assigned? r).map .constant
  | none =>
      match line.dropPrefix? "let ".toList with
      | some r => (assigned? r).map .var
      | none => (assigned? line).map .assignment

/-- What a row without blanks in front of it does: it ends a block if it begins with a closing brace,
and opens one if it ends with an opening brace. A remark does nothing. -/
def statementEffects (t : Text) : List (Effect Binding) :=
  if "//".toList <+: Text.firstLine t then []
  else
    (if t.head? = some '\x7d' then [.closes] else []) ++
      ((binding? (Text.firstLine t)).toList.map .item ++
        (if t.getLast? = some '\x7b' then [.opens] else []))

/-- What a row does. -/
def rowEffects (row : Text) : List (Effect Binding) :=
  statementEffects (row.dropWhile Text.isBlank)

/-- A row does the same behind more spaces. -/
theorem rowEffects_indent
    (n : Nat)
    (row : Text) :
    rowEffects (Text.indent (List.replicate n ' ') row) = rowEffects row := by
  have hspaces : ∀ c ∈ List.replicate n ' ', Text.isBlank c = true := by
    intro c hc
    rw [List.eq_of_mem_replicate hc]
    decide
  rw [rowEffects, Text.dropWhile_indent hspaces, statementEffects, Text.firstLine_inner,
    Text.head?_inner, Text.getLast?_inner]
  rfl

/-- What the rows of a text do, one after another. -/
def effects (t : Text) : List (Effect Binding) :=
  (Text.splitOn '\n' t).flatMap rowEffects

/-- What written code does. -/
def codeEffects (c : Code) : List (Effect Binding) :=
  effects (c.write spelling)

/-- A stack does what its parts do. -/
theorem codeEffects_stack
    {parts : List Code}
    (hne : parts ≠ []) :
    codeEffects (.stack parts) = parts.flatMap codeEffects := by
  have hrows : Text.splitOn '\n' ((Code.stack parts).write spelling) =
      parts.flatMap (Code.rows spelling) := Code.rows_stack hne
  rw [codeEffects, effects, hrows, List.flatMap_assoc]
  rfl

/-- Code does the same at every depth. -/
theorem codeEffects_nest
    (levels : Nat)
    (c : Code) :
    codeEffects (.nest levels c) = codeEffects c := by
  have hrows : Text.splitOn '\n' ((Code.nest levels c).write spelling) =
      (Code.rows spelling c).map (Text.indent (List.replicate (levels * 2) ' ')) :=
    Code.rows_nest rfl levels c
  rw [codeEffects, effects, hrows, List.flatMap_map]
  exact List.flatMap_congr fun row _ => rowEffects_indent _ row

/-! ## Places -/

section Places

variable {α : Type}

/-- The items among effects, each with the blocks around it, innermost first. Blocks are numbered in
the order in which they are opened; `next` is the number of the next one. -/
def placed (next : Nat) (blocks : List Nat) : List (Effect α) → List (List Nat × α)
  | [] => []
  | .opens :: rest => placed (next + 1) (next :: blocks) rest
  | .closes :: rest => placed next blocks.tail rest
  | .item a :: rest => (blocks, a) :: placed next blocks rest

/-- What has a place is one of the items. -/
theorem item_mem_of_mem_placed
    {next : Nat}
    {blocks place : List Nat}
    {a : α}
    {effects : List (Effect α)}
    (h : (place, a) ∈ placed next blocks effects) :
    .item a ∈ effects := by
  induction effects generalizing next blocks with
  | nil => cases h
  | cons x rest ih =>
      cases x with
      | opens => exact List.mem_cons_of_mem _ (ih h)
      | closes => exact List.mem_cons_of_mem _ (ih h)
      | item a' =>
          rcases List.mem_cons.1 h with heq | h
          · obtain ⟨-, rfl⟩ := Prod.mk.inj heq
            exact List.mem_cons_self
          · exact List.mem_cons_of_mem _ (ih h)

end Places

/-- The declarations and assignments of a program, each with the blocks around it. -/
def occurrences (t : Text) : List (List Nat × Binding) :=
  placed 0 [] (effects t)

end Braced

end BotCanvas
