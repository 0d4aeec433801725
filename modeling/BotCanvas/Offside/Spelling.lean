import BotCanvas.Name.Basic
import BotCanvas.Program.Code
import BotCanvas.Value.Basic

/-!
# Spelling in the language with suites

Texts are escaped so that they fit between single and double quotes. Names that the program takes
from properties are small letters, digits and low lines.
-/

namespace BotCanvas.Offside

/-- A character of an escaped text. -/
def escapeChar (c : Char) : Text :=
  if c = '\\' ∨ c = '\x22' ∨ c = '\x27' then ['\\', c]
  else if c = '\r' then ['\\', 'r']
  else if c = '\n' then ['\\', 'n']
  else [c]

/-- Escapes a text for both kinds of literal. -/
def escape (t : Text) : Text :=
  t.flatMap escapeChar

/-- Texts one after another are escaped one after another. -/
theorem escape_append (s t : Text) : escape (s ++ t) = escape s ++ escape t :=
  List.flatMap_append

/-- How the language writes literals and indents: by four spaces. -/
def spelling : Spelling := ⟨escape, [' ', ' ', ' ', ' ']⟩

/-- A value as the name of an attribute, or the default. -/
def attributeName (fallback : Text) (v : Value) : Text :=
  let name := Name.snake v.displayPresent
  if name.isEmpty then fallback else name

/-- The name of a permission. -/
def permissionName (v : Value) : Text :=
  attributeName "administrator" v

/-- The names that the library has for the editor's events. -/
def eventNames : List (String × String) :=
  [("ready", "ready"), ("messageCreate", "message"), ("messageUpdate", "message_edit"),
   ("messageDelete", "message_delete"), ("guildMemberAdd", "member_join"),
   ("guildMemberRemove", "member_remove"), ("messageReactionAdd", "reaction_add"),
   ("messageReactionRemove", "reaction_remove"), ("interactionCreate", "interaction"),
   ("guildCreate", "guild_join")]

/-- The library's name for an event: from the table, or made from the words of the event. -/
def eventName (event : Text) : Text :=
  match eventNames.lookup (String.ofList event) with
  | some name => name
  | none =>
      let name := Name.snake event
      if name.isEmpty then "ready" else name

/-- A value as an identifier of the library: a row of digits as it is, anything else as a text
that the program converts. -/
def snowflake (v : Value) : List Piece :=
  let spelled := Text.strip v.display
  if Text.isNumeral spelled then [.name spelled] else ["int(\"", .literal spelled, "\")"]

end BotCanvas.Offside
