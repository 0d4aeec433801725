import BotCanvas.Text.Trim

/-!
# Identifiers

Names of variables and functions in emitted programs, made from free text. The reserved words are
those of both target languages and the names that every emitted program binds itself.
-/

namespace BotCanvas.Name

open Text

/-- Keywords of the language with indented suites. -/
def offsideKeywords : List String :=
  ["False", "None", "True", "and", "as", "assert", "async", "await", "break", "class", "continue",
   "def", "del", "elif", "else", "except", "finally", "for", "from", "global", "if", "import",
   "in", "is", "lambda", "nonlocal", "not", "or", "pass", "raise", "return", "try", "while",
   "with", "yield"]

/-- Keywords of the language with braces. -/
def bracedKeywords : List String :=
  ["await", "break", "case", "catch", "class", "const", "continue", "debugger", "default",
   "delete", "do", "else", "enum", "export", "extends", "false", "finally", "for", "function",
   "if", "import", "in", "instanceof", "let", "new", "null", "return", "super", "switch", "this",
   "throw", "true", "try", "typeof", "var", "void", "while", "with", "yield"]

/-- Names that emitted programs bind themselves. -/
def programNames : List String :=
  ["client", "interaction", "bot", "discord"]

/-- Tests for a name that no variable may take. -/
def isReserved (s : Text) : Bool :=
  let name := String.ofList s
  offsideKeywords.contains name || bracedKeywords.contains name || programNames.contains name

/-- An identifier: runs of other than word characters become low lines, none of them at an end; a
digit in front gets a low line before it and a reserved word one behind. An empty name gives way
to the default. -/
def identifier (fallback : Text) (s : Text) : Text :=
  let spelled := stripBy (· == '_') (collapse (fun c => !isWord c) '_' (strip s))
  if spelled.isEmpty then fallback
  else
    let spelled := if spelled.head?.any isDigit then '_' :: spelled else spelled
    if isReserved spelled then spelled ++ ['_'] else spelled

end BotCanvas.Name
