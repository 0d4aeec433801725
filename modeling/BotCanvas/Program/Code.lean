import BotCanvas.Text.Lines
import BotCanvas.Text.Trim

/-!
# Program code

Code is kept as a tree until it is written. A leaf is a piece of a line or of a few lines: fixed
program text with the user's texts between. Code is stacked, one part under another, and nested,
which indents it.

Writing is the only place where a user's text is escaped, so a program can be examined by what its
pieces are: a text inside a literal, a name, a condition or a remark.
-/

namespace BotCanvas

/-- A piece of a line. -/
inductive Piece
  /-- Text of the program itself. -/
  | code (s : String)
  /-- A user's text inside a literal, escaped when it is written. -/
  | literal (t : Text)
  /-- An identifier, a number or a flag, written as it is. -/
  | name (t : Text)
  /-- A condition that the user spelled out, written as it is. -/
  | condition (t : Text)
  /-- The text of a remark, on one line, written as it is. -/
  | remark (t : Text)
  deriving DecidableEq

instance : Coe String Piece := ⟨.code⟩

/-- Code before it is written. -/
inductive Code
  /-- Pieces one after another. -/
  | line (pieces : List Piece)
  /-- Code that is already written. -/
  | written (t : Text)
  /-- Parts one under another. -/
  | stack (parts : List Code)
  /-- Code some levels deeper. -/
  | nest (levels : Nat) (body : Code)

instance : Coe String Code := ⟨fun s => .line [.code s]⟩

/-- How a language writes literals and indents. -/
structure Spelling where
  escape : Text → Text
  indentUnit : Text

namespace Spelling

/-- Indents code by some levels. -/
def indent (sp : Spelling) (levels : Nat) (t : Text) : Text :=
  Text.indent (List.replicate levels sp.indentUnit).flatten t

end Spelling

namespace Piece

/-- Writes a piece. -/
def write (sp : Spelling) : Piece → Text
  | code s => s.toList
  | literal t => sp.escape t
  | name t => t
  | condition t => t
  | remark t => t

end Piece

namespace Code

mutual

/-- Writes code. -/
def write (sp : Spelling) : Code → Text
  | line pieces => pieces.flatMap (Piece.write sp)
  | written t => t
  | stack parts => writeParts sp parts
  | nest levels body => sp.indent levels (write sp body)

/-- Writes parts with a line feed between neighbours. -/
def writeParts (sp : Spelling) : List Code → Text
  | [] => []
  | [c] => write sp c
  | c :: d :: rest => write sp c ++ '\n' :: writeParts sp (d :: rest)

end

/-- Code one level deeper. -/
def deeper (c : Code) : Code :=
  nest 1 c

/-- A remark: a mark and a text, brought onto one line. -/
def remarkLine (mark : String) (t : Text) : Code :=
  line [.code mark, " ", .remark (Text.squeeze t)]

/-- Tests for code that is nothing but a given line. -/
def amountsTo (sp : Spelling) (t : Text) (c : Code) : Bool :=
  Text.strip (c.write sp) == t

end Code

end BotCanvas
