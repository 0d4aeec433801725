import BotCanvas.Braced.Actions
import BotCanvas.Offside.Actions
import BotCanvas.Program.Assembly

/-!
# Target languages

The dialects that an export can ask for by name.
-/

namespace BotCanvas

/-- A request for a target language that has no dialect. -/
structure UnsupportedLanguage where
  language : String
  supported : List String
  deriving DecidableEq

namespace UnsupportedLanguage

/-- The wording of the error: the language asked for and those to choose from. -/
def message (e : UnsupportedLanguage) : String :=
  "Unsupported target language: " ++ String.ofList (Text.quoted e.language.toList) ++
    (if e.supported.isEmpty then ""
     else " (expected one of: " ++ ", ".intercalate e.supported ++ ")")

end UnsupportedLanguage

namespace Dialect

/-- All dialects. -/
def all : List Dialect := [Braced.dialect, Offside.dialect]

/-- There is one dialect with braces and one with suites. -/
theorem mem_all
    {d : Dialect} :
    d ∈ all ↔ d = Braced.dialect ∨ d = Offside.dialect := by
  simp [all]

/-- The names of the target languages. -/
def languages : List String := all.map Dialect.language

/-- The dialect of a target language. -/
def ofLanguage (language : String) : Except UnsupportedLanguage Dialect :=
  (all.find? fun d => d.language == language).elim (.error ⟨language, languages⟩) .ok

end Dialect

end BotCanvas
