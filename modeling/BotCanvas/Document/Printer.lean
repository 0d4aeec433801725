import BotCanvas.Value.Basic

/-!
# Printing documents

Documents are printed with two spaces of indentation for each level, one item or field to a line,
and characters beyond ASCII as they are.
-/

namespace BotCanvas.Document

/-- A character of a printed string. -/
def printedChar (c : Char) : Text :=
  if c = '"' ∨ c = '\\' then ['\\', c]
  else if c = '\n' then ['\\', 'n']
  else if c = '\r' then ['\\', 'r']
  else if c = '\t' then ['\\', 't']
  else if c.toNat = 8 then ['\\', 'b']
  else if c.toNat = 12 then ['\\', 'f']
  else if c.toNat < 32 then '\\' :: 'u' :: Text.hexDigits 4 c.toNat
  else [c]

/-- A printed string. -/
def printedString (s : Text) : Text :=
  '"' :: (s.flatMap printedChar ++ ['"'])

/-- A printed number; NaN and the infinities are words. -/
def printedNumber : Binary64 → Text
  | .nan => "NaN".toList
  | .infinite negative => (if negative then ['-'] else []) ++ "Infinity".toList
  | x => x.text

/-- A new line at a level. -/
def newLine (level : Nat) : Text :=
  '\n' :: List.replicate (2 * level) ' '

mutual

/-- A printed value that starts at a level. -/
def printed (level : Nat) : Value → Text
  | .null => "null".toList
  | .bool b => (if b then "true" else "false").toList
  | .int n => Value.intText n
  | .float x => printedNumber x
  | .str s => printedString s.toList
  | .arr [] => ['[', ']']
  | .arr (v :: rest) =>
      '[' :: (printedItems (level + 1) (v :: rest) ++ newLine level ++ [']'])
  | .obj [] => ['\x7b', '\x7d']
  | .obj (p :: rest) =>
      '\x7b' :: (printedFields (level + 1) (p :: rest) ++ newLine level ++ ['\x7d'])

/-- The printed items of a list, each on its line. -/
def printedItems (level : Nat) : List Value → Text
  | [] => []
  | [v] => newLine level ++ printed level v
  | v :: w :: rest => newLine level ++ printed level v ++ ',' :: printedItems level (w :: rest)

/-- The printed fields of an object, each on its line. -/
def printedFields (level : Nat) : List (String × Value) → Text
  | [] => []
  | [(k, v)] => newLine level ++ printedString k.toList ++ ':' :: ' ' :: printed level v
  | (k, v) :: p :: rest =>
      newLine level ++ printedString k.toList ++ ':' :: ' ' :: (printed level v ++
        ',' :: printedFields level (p :: rest))

end

/-- A printed document. -/
def print (v : Value) : Text :=
  printed 0 v

end BotCanvas.Document
