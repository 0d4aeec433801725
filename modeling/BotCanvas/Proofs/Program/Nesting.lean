import BotCanvas.Program.Target
import BotCanvas.Proofs.Text.Rows

/-!
# Nested code

Code that is nested is indented as a whole. For this to make sense at any depth, indentation by some
levels and by more levels has to be indentation by all of them, and code that stands in a stack has
to be indented as it would be on its own. Both hold of every text, since the indent of a dialect ends
no line (`Dialect.indent_composes`): a carriage return or one of the rarer line ends may stand in
the code, also right where two parts meet.
-/

namespace BotCanvas

open Text (Line)

namespace Spelling

variable {sp : Spelling}

/-- What stands before a line some levels deep. -/
def lead (sp : Spelling) (levels : Nat) : Text :=
  (List.replicate levels sp.indentUnit).flatten

/-- The leads of some levels and of more levels make one. -/
theorem lead_append_lead
    (sp : Spelling)
    (a b : Nat) :
    sp.lead b ++ sp.lead a = sp.lead (a + b) := by
  rw [lead, lead, lead, ← List.flatten_append, List.replicate_append_replicate, Nat.add_comm]

/-- A lead ends a line only if the indent of one level does. -/
theorem unbroken_lead
    (hsp : ∀ c ∈ sp.indentUnit, Text.isLineBreak c = false)
    (levels : Nat) :
    ∀ c ∈ sp.lead levels, Text.isLineBreak c = false := by
  intro c hc
  obtain ⟨unit, hunit, hc⟩ := List.mem_flatten.1 hc
  rw [List.eq_of_mem_replicate hunit] at hc
  exact hsp c hc

end Spelling

namespace Dialect

/-- The indent of a dialect ends no line. -/
theorem unbroken_indentUnit
    {d : Dialect}
    (hd : d ∈ all) :
    ∀ c ∈ d.spelling.indentUnit, Text.isLineBreak c = false := by
  have hspaces : ∃ n, d.spelling.indentUnit = List.replicate n ' ' := by
    rcases mem_all.1 hd with rfl | rfl
    · exact ⟨2, rfl⟩
    · exact ⟨4, rfl⟩
  obtain ⟨n, hn⟩ := hspaces
  rw [hn]
  exact Text.unbroken_spaces n

/--
The lines of a text are its only cut behind every line end. Those that are not blank are moved by
indentation and nothing else is changed. So indentation by some levels and by more levels is
indentation by all of them, and what stands in front of a line feed and what stands behind it are
indented apart.
-/
theorem indent_composes
    {d : Dialect}
    (hd : d ∈ all)
    (s t : Text)
    (a b : Nat) :
    (∀ ls, Text.lines s = ls ↔ Text.IsCut ls ∧ ls.flatMap Line.full = s) ∧
      Text.lines (d.spelling.indent a s) = (Text.lines s).map (Line.moved (d.spelling.lead a)) ∧
      d.spelling.indent b (d.spelling.indent a s) = d.spelling.indent (a + b) s ∧
      d.spelling.indent a (s ++ '\n' :: t) =
        d.spelling.indent a s ++ '\n' :: d.spelling.indent a t := by
  have hlead := Spelling.unbroken_lead (unbroken_indentUnit hd) a
  refine ⟨fun ls => Text.lines_eq_iff, Text.lines_indent hlead s, ?_,
    Text.indent_append_lineFeed _ s t⟩
  calc
    d.spelling.indent b (d.spelling.indent a s)
      = Text.indent (d.spelling.lead b) (Text.indent (d.spelling.lead a) s) := rfl
    _ = Text.indent (d.spelling.lead b ++ d.spelling.lead a) s :=
        Text.indent_indent_of_unbroken hlead _ s
    _ = d.spelling.indent (a + b) s := by
        rw [Spelling.lead_append_lead]
        rfl

/-- Code with line ends of several kinds: two of one character, a blank line, and a carriage return
at the end. -/
def raggedCode : Text :=
  "a\r\n \u2028b\x0b\t\r\nc\r"

/-- The carriage return meets the line feed behind it, and the blank lines stay where they are. -/
theorem indent_composes_raggedCode :
    Offside.dialect ∈ all ∧
      Offside.dialect.spelling.indent 1 (Offside.dialect.spelling.indent 1 raggedCode) =
        Offside.dialect.spelling.indent 2 raggedCode ∧
      Offside.dialect.spelling.indent 1 (raggedCode ++ '\n' :: raggedCode) =
        "    a\r\n \u2028    b\x0b\t\r\n    c\r\n    a\r\n \u2028    b\x0b\t\r\n    c\r".toList := by
  have hd : Offside.dialect ∈ all := mem_all.2 (.inr rfl)
  obtain ⟨-, -, htwice, happend⟩ := indent_composes hd raggedCode raggedCode 1 1
  exact ⟨hd, htwice, happend.trans (by decide +kernel)⟩

end Dialect

end BotCanvas
