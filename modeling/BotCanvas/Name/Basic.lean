import BotCanvas.Text.Lower
import BotCanvas.Text.Trim

/-!
# Names made from free text

Slugs for files, names of slash commands, and the small letters with low lines that library
attributes are spelled in.
-/

namespace BotCanvas.Name

open Text

/-- The characters of a slug. -/
def isSlugChar (c : Char) : Bool :=
  isAsciiAlnum c || c == '_' || c == '-'

/-- A lower-case slug: every run of other characters becomes one hyphen, and none stands at an
end. -/
def slug (s : Text) : Text :=
  let spelled := (lower (strip s)).map fun c => if isSlugChar c then c else '-'
  stripBy (· == '-') (collapse (· == '-') '-' spelled)

/-- The longest name of a command. -/
def commandNameLimit : Nat := 32

/-- The name of a command: lower case, hyphens for runs of blanks, nothing but word characters
and hyphens, at most 32 characters. An empty name gives way to the default. -/
def command (fallback : Text) (s : Text) : Text :=
  let spelled := (collapse isBlank '-' (lower (strip s))).filter fun c => isWord c || c == '-'
  let cut := spelled.take commandNameLimit
  if cut.isEmpty then fallback else cut

/-- The limit holds for every name, if it does for the default. -/
theorem length_command_le {fallback : Text} (h : fallback.length ≤ commandNameLimit) (s : Text) :
    (command fallback s).length ≤ commandNameLimit := by
  simp only [command]
  split
  · exact h
  · simp only [List.length_take]
    omega

/-- Puts a low line before a capital that follows a small letter or a digit. -/
def splitHumps (previous : Option Char) : List Char → Text
  | [] => []
  | c :: r =>
      if 'A' ≤ c && c ≤ 'Z' && previous.any fun p => ('a' ≤ p && p ≤ 'z') || isAsciiDigit p then
        '_' :: c :: splitHumps (some c) r
      else c :: splitHumps (some c) r

/-- The words of a text in small letters, joined by low lines. Words are runs of ASCII letters
and digits, and a capital after a small letter or a digit begins one. -/
def snake (s : Text) : Text :=
  let spelled := collapse (fun c => !isAsciiAlnum c) '_' (splitHumps none (strip s))
  lower (stripBy (· == '_') spelled)

end BotCanvas.Name
