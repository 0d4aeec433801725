import BotCanvas.Program.Code
import BotCanvas.Text.Class
import BotCanvas.Value.Basic

/-!
# Spelling in the language with braces

Texts are escaped so that they fit between single quotes, double quotes and backticks alike.
Names that the program takes from properties keep ASCII letters and digits only.
-/

namespace BotCanvas.Braced

/-- Escapes a text for every kind of literal: quotes and backslashes, the opening of a
placeholder, and line feeds and carriage returns. -/
def escape : List Char → Text
  | [] => []
  | c :: r =>
      if c = '\\' ∨ c = '\x27' ∨ c = '\x22' ∨ c = '\x60' then '\\' :: c :: escape r
      else if c = '$' ∧ r.head? = some '\x7b' then '\\' :: c :: escape r
      else if c = '\r' then '\\' :: 'r' :: escape r
      else if c = '\n' then '\\' :: 'n' :: escape r
      else c :: escape r

/-- How the language writes literals and indents: by two spaces. -/
def spelling : Spelling := ⟨escape, [' ', ' ']⟩

/-- A value as the name of a flag: its ASCII letters and digits, or the default. -/
def flagName (fallback : Text) (v : Value) : Text :=
  let kept := v.displayPresent.filter Text.isAsciiAlnum
  if kept.isEmpty then fallback else kept

/-- The name of a permission. -/
def permissionName (v : Value) : Text :=
  flagName "Administrator" v

/-- The library's name for an event: its ASCII letters, digits and low lines. -/
def eventName (event : Text) : Text :=
  let kept := event.filter fun c => Text.isAsciiAlnum c || c == '_'
  if kept.isEmpty then "ready" else kept

end BotCanvas.Braced
