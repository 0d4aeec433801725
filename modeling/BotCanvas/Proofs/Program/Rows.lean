import BotCanvas.Program.Code
import BotCanvas.Proofs.Text.Rows

/-!
# Rows of code

The rows of a stack are those of its parts, and the rows of nested code are indented one by one. The
last part ends what is written (`suffix_writeParts`).
-/

namespace BotCanvas.Code

variable {sp : Spelling}

/-- The rows that code is written in. -/
def rows (sp : Spelling) (c : Code) : List Text :=
  Text.splitOn '\n' (c.write sp)

/-- The rows of a stack are those of its parts. -/
theorem rows_stack
    {parts : List Code}
    (hne : parts ≠ []) :
    rows sp (.stack parts) = parts.flatMap (rows sp) := by
  unfold rows
  rw [write]
  induction parts with
  | nil => exact absurd rfl hne
  | cons c rest ih =>
      cases rest with
      | nil => simp [writeParts]
      | cons d rest =>
          rw [writeParts, Text.splitOn_append, ih (by simp)]
          simp only [List.flatMap_cons]

/-- The rows of nested code are indented by spaces. -/
theorem rows_nest
    {n : Nat}
    (hsp : sp.indentUnit = List.replicate n ' ')
    (levels : Nat)
    (c : Code) :
    rows sp (.nest levels c) =
      (rows sp c).map (Text.indent (List.replicate (levels * n) ' ')) := by
  have hlead : (List.replicate levels sp.indentUnit).flatten =
      List.replicate (levels * n) ' ' := by
    rw [hsp, List.flatten_replicate_replicate]
  unfold rows
  rw [write, Spelling.indent, hlead, Text.splitOn_indent (by simp)]

/-- Code without line feeds is a single row. -/
theorem rows_of_not_mem
    {c : Code}
    (h : '\n' ∉ c.write sp) :
    rows sp c = [c.write sp] :=
  Text.splitOn_of_not_mem h

/-- Pieces without line feeds are a single row. -/
theorem rows_line
    {pieces : List Piece}
    (h : ∀ x ∈ pieces, '\n' ∉ x.write sp) :
    rows sp (.line pieces) = [pieces.flatMap (Piece.write sp)] := by
  refine rows_of_not_mem ?_
  rw [write, List.mem_flatMap]
  rintro ⟨x, hx, hmem⟩
  exact h x hx hmem

/-- The last of parts ends what is written. -/
theorem suffix_writeParts
    (sp : Spelling)
    (parts : List Code)
    (last : Code) :
    last.write sp <:+ writeParts sp (parts ++ [last]) := by
  induction parts with
  | nil => exact List.suffix_refl _
  | cons p rest ih =>
      cases rest with
      | nil =>
          rw [List.cons_append, List.nil_append, writeParts]
          exact (ih.trans (List.suffix_cons _ _)).trans (List.suffix_append _ _)
      | cons q rest =>
          rw [List.cons_append, List.cons_append, writeParts]
          exact (ih.trans (List.suffix_cons _ _)).trans (List.suffix_append _ _)

/-- A text of the program is written as it is. -/
theorem write_code
    (sp : Spelling)
    (s : String) :
    (Code.line [.code s]).write sp = s.toList := by
  simp [write, Piece.write]

/-- A row among others in a stack. -/
theorem row_mem_rows_stack
    {parts : List Code}
    {row : String}
    (hrow : '\n' ∉ row.toList)
    (h : .line [.code row] ∈ parts) :
    row.toList ∈ rows sp (.stack parts) := by
  rw [rows_stack (List.ne_nil_of_mem h)]
  refine List.mem_flatMap.2 ⟨_, h, ?_⟩
  rw [rows_of_not_mem (by rwa [write_code]), write_code]
  exact List.mem_singleton_self _

/-- A stack whose last row ends with another character than a line feed does so too. -/
theorem stripEndChar_stack
    (sp : Spelling)
    (parts : List Code)
    {row : String}
    {front : Text}
    {c : Char}
    (hrow : row.toList = front ++ [c])
    (hc : c ≠ '\n') :
    Text.stripEndChar '\n' ((Code.stack (parts ++ [.line [.code row]])).write sp) =
      (Code.stack (parts ++ [.line [.code row]])).write sp := by
  obtain ⟨others, hothers⟩ := suffix_writeParts sp parts (.line [.code row])
  rw [write, ← hothers, write_code, hrow, ← List.append_assoc, Text.stripEndChar_append '\n' _ hc]

end BotCanvas.Code
