import BotCanvas.Text.Class
import BotCanvas.Text.Table.Case

/-!
# Small letters

Lower-casing a text. Two capitals need more than a table: the dotted capital I becomes two
characters, and capital sigma becomes the final form at the end of a word.
-/

namespace BotCanvas.Text

/-- The small letter of a character by the table; a character without one stays. -/
def lowerChar (c : Char) : Char :=
  let n := c.toNat
  if n < 128 then
    if 65 ≤ n ∧ n ≤ 90 then Char.ofNat (n + 32) else c
  else
    match Table.lowerRuns.find? fun (first, last, step, _) =>
      decide (first ≤ n ∧ n ≤ last) && (n - first) % step == 0 with
    | some (first, _, _, small) => Char.ofNat (small + (n - first))
    | none => c

/-- Tests whether the first character that letter case does not look through has case. -/
def meetsCased : Text → Bool
  | [] => false
  | c :: r =>
      if inRanges Table.caseIgnorable c.toNat then meetsCased r
      else inRanges Table.cased c.toNat

/-- Lower-cases a text that follows the given characters, the nearest of them first. -/
def lowerAfter (before : Text) : Text → Text
  | [] => []
  | c :: r =>
      if c.toNat = 0x3a3 then
        Char.ofNat (if meetsCased before && !meetsCased r then 0x3c2 else 0x3c3) ::
          lowerAfter (c :: before) r
      else if c.toNat = 0x130 then 'i' :: Char.ofNat 0x307 :: lowerAfter (c :: before) r
      else lowerChar c :: lowerAfter (c :: before) r

/-- Lower-cases a text. -/
def lower (s : Text) : Text :=
  lowerAfter [] s

end BotCanvas.Text
