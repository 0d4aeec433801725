import BotCanvas.Proofs.Braced.Blocks
import BotCanvas.Proofs.Program.Literals
import BotCanvas.Proofs.Program.Variables

/-!
# First words of lines

What a line does with a name is told by its first word and by what follows it: `const` and `let` in
front of a variable declare it (`binding?_constant`, `binding?_variable`), a variable in front of an
equals sign is assigned to (`binding?_assignment`), and any other line binds nothing
(`binding?_eq_none`).
-/

namespace BotCanvas.Braced

open Text (IsVariable)

/-- How a name is bound. -/
inductive Keyword
  | constant
  | var
  | assignment
  deriving DecidableEq

/-- A name that is bound. -/
def Keyword.bind : Keyword → Text → Binding
  | .constant, name => .constant name
  | .var, name => .var name
  | .assignment, name => .assignment name

/-- The words in front of a name that is declared. -/
def declarators : List Text := ["const".toList, "let".toList]

/-- A name that a keyword may bind. Without a declarator in front of it, it must not look like one. -/
def Keyword.Suits : Keyword → Text → Prop
  | .assignment, name => IsVariable name ∧ name ∉ declarators
  | _, name => IsVariable name

/-- A name, or names with dots between them: it begins with a variable. -/
def IsPath (t : Text) : Prop :=
  IsVariable (t.takeWhile (· != '.'))

/-- A variable is a path. -/
theorem isPath_of_isVariable
    {t : Text}
    (h : IsVariable t) :
    IsPath t := by
  have hdots : t.takeWhile (· != '.') = t := by
    refine List.takeWhile_eq_self_iff.2 fun c hc => bne_iff_ne.2 ?_
    rintro rfl
    exact absurd (h.2 '.' hc) (by decide)
  rw [IsPath, hdots]
  exact h

/-- A variable in front of an assignment is what is assigned to. -/
theorem assigned?_append
    {name : Text}
    (hname : IsVariable name)
    (r : Text) :
    assigned? (name ++ (" = ".toList ++ r)) = some name := by
  have hshape : name ++ (" = ".toList ++ r) = name ++ ' ' :: ("= ".toList ++ r) := rfl
  rw [assigned?, hshape, hname.takeWhile_append (by decide), hname.dropWhile_append (by decide)]
  exact if_pos ⟨hname.1, List.prefix_append " = ".toList r⟩

/-- A line with another first word does not begin with a declarator. -/
theorem dropPrefix?_declarator
    (declarator : String)
    (hdeclarator : IsVariable declarator.toList)
    {line : Text}
    (h : line.takeWhile Text.isWord ≠ declarator.toList ∨
      (line.dropWhile Text.isWord).head? ≠ some ' ') :
    line.dropPrefix? (declarator ++ " ").toList = none := by
  cases hdrop : line.dropPrefix? (declarator ++ " ").toList with
  | none => rfl
  | some r =>
      obtain ⟨start, hline, hstart⟩ := List.dropPrefix?_eq_some_iff.1 hdrop
      rw [beq_iff_eq.1 hstart, String.toList_append, List.append_assoc] at hline
      have hshape : line = declarator.toList ++ ' ' :: r := hline
      rw [hshape, hdeclarator.takeWhile_append (by decide),
        hdeclarator.dropWhile_append (by decide)] at h
      simp at h

/-- A line whose first word is no declarator, and is not assigned to, does nothing with a name. -/
theorem binding?_eq_none
    {line : Text}
    (hassign : ¬" = ".toList <+: line.dropWhile Text.isWord)
    (hword : line.takeWhile Text.isWord ∉ declarators ∨
      (line.dropWhile Text.isWord).head? ≠ some ' ') :
    binding? line = none := by
  have hassigned : assigned? line = none := if_neg fun h => hassign h.2
  have hdeclarator : ∀ declarator : String, declarator.toList ∈ declarators →
      line.takeWhile Text.isWord ≠ declarator.toList ∨
        (line.dropWhile Text.isWord).head? ≠ some ' ' := fun declarator hmem =>
    hword.imp_left fun hnot heq => hnot (heq ▸ hmem)
  have hconst : line.dropPrefix? "const ".toList = none :=
    dropPrefix?_declarator "const" (.ofString (by decide))
      (hdeclarator "const" (by decide))
  have hlet : line.dropPrefix? "let ".toList = none :=
    dropPrefix?_declarator "let" (.ofString (by decide))
      (hdeclarator "let" (by decide))
  rw [binding?, hconst, hlet, hassigned]
  rfl

/-- A line that assigns to a name. -/
theorem binding?_assignment
    {name : Text}
    (hname : Keyword.assignment.Suits name)
    (r : Text) :
    binding? (name ++ (" = ".toList ++ r)) = some (.assignment name) := by
  obtain ⟨hvariable, hdeclarators⟩ := hname
  have htake : (name ++ (" = ".toList ++ r)).takeWhile Text.isWord = name :=
    hvariable.takeWhile_append (by decide) ("= ".toList ++ r)
  have hword : ∀ declarator : String, declarator.toList ∈ declarators →
      (name ++ (" = ".toList ++ r)).takeWhile Text.isWord ≠ declarator.toList := by
    intro declarator hmem heq
    exact hdeclarators (htake ▸ heq ▸ hmem)
  have hconst : (name ++ (" = ".toList ++ r)).dropPrefix? "const ".toList = none :=
    dropPrefix?_declarator "const" (.ofString (by decide))
      (.inl (hword "const" (by decide)))
  have hlet : (name ++ (" = ".toList ++ r)).dropPrefix? "let ".toList = none :=
    dropPrefix?_declarator "let" (.ofString (by decide))
      (.inl (hword "let" (by decide)))
  rw [binding?, hconst, hlet, assigned?_append hvariable]
  rfl

/-- A line that declares a constant. -/
theorem binding?_constant
    {name : Text}
    (hname : IsVariable name)
    (r : Text) :
    binding? ("const ".toList ++ (name ++ (" = ".toList ++ r))) = some (.constant name) := by
  rw [binding?, Text.dropPrefix?_append]
  exact congrArg (Option.map Binding.constant) (assigned?_append hname r)

/-- A line that declares a variable. -/
theorem binding?_variable
    {name : Text}
    (hname : IsVariable name)
    (r : Text) :
    binding? ("let ".toList ++ (name ++ (" = ".toList ++ r))) = some (.var name) := by
  have hconst : ("let ".toList ++ (name ++ (" = ".toList ++ r))).dropPrefix? "const ".toList =
      none := by
    refine dropPrefix?_declarator "const" (.ofString (by decide)) (.inl ?_)
    have hlet : IsVariable "let".toList := .ofString (by decide)
    have hshape : "let ".toList ++ (name ++ (" = ".toList ++ r)) =
        "let".toList ++ ' ' :: (name ++ (" = ".toList ++ r)) := rfl
    rw [hshape, hlet.takeWhile_append (by decide)]
    decide
  rw [binding?, hconst, Text.dropPrefix?_append]
  exact congrArg (Option.map Binding.var) (assigned?_append hname r)

end BotCanvas.Braced
