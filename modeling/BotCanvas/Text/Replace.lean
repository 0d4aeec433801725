import BotCanvas.Text.Class

/-!
# Replacing inside a text

Replacements go from left to right and never overlap: what was written is not read again.
-/

namespace BotCanvas.Text

/-- Replaces occurrences of a text, after passing over the given number of characters. -/
def replaceAfter (old new : Text) : (passing : Nat) → List Char → Text
  | _, [] => []
  | passing + 1, _ :: r => replaceAfter old new passing r
  | 0, c :: r =>
      if old.isPrefixOf (c :: r) then new ++ replaceAfter old new (old.length - 1) r
      else c :: replaceAfter old new 0 r

/-- Replaces every occurrence of a text that is not empty. -/
def replaceAll (old new s : Text) : Text :=
  replaceAfter old new 0 s

/-- Replaces occurrences of a word, after passing over the given number of characters; `previous`
is the character before. -/
def replaceWordAfter (old new : Text) : (passing : Nat) → (previous : Option Char) →
    List Char → Text
  | _, _, [] => []
  | passing + 1, _, c :: r => replaceWordAfter old new passing (some c) r
  | 0, previous, c :: r =>
      if !previous.any isWord && old.isPrefixOf (c :: r) &&
          !((c :: r).drop old.length).head?.any isWord then
        new ++ replaceWordAfter old new (old.length - 1) (some c) r
      else c :: replaceWordAfter old new 0 (some c) r

/-- Replaces a word wherever no word character stands next to it. -/
def replaceWord (old new s : Text) : Text :=
  replaceWordAfter old new 0 none s

/-- Writes one space for each run of two or more blanks; inside such a run the rest is dropped. -/
def narrowAfter : (inRun : Bool) → List Char → Text
  | _, [] => []
  | inRun, c :: r =>
      if isBlank c then
        if inRun then narrowAfter true r
        else if r.head?.any isBlank then ' ' :: narrowAfter true r
        else c :: narrowAfter false r
      else c :: narrowAfter false r

/-- Writes one space for each run of two or more blanks. A blank on its own stays. -/
def narrow (s : Text) : Text :=
  narrowAfter false s

end BotCanvas.Text
