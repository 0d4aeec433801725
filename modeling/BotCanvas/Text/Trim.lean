import BotCanvas.Text.Class

/-!
# Trimming, words and replacing

Cutting a text at its ends, into words and at a separator. Blank is meant in the sense of
`isBlank` throughout.
-/

namespace BotCanvas.Text

/-- Drops the characters of a class from both ends. -/
def stripBy (p : Char → Bool) (s : Text) : Text :=
  ((s.dropWhile p).reverse.dropWhile p).reverse

/-- Drops blank characters from both ends. -/
def strip (s : Text) : Text :=
  stripBy isBlank s

/-- Drops blank characters from the end. -/
def stripEnd (s : Text) : Text :=
  (s.reverse.dropWhile isBlank).reverse

/-- Drops one character, however often it is repeated, from the end. -/
def stripEndChar (c : Char) (s : Text) : Text :=
  (s.reverse.dropWhile (· == c)).reverse

/-- The maximal runs of characters that are not blank, in order. -/
def words : Text → List Text
  | [] => []
  | c :: r =>
      if isBlank c then words r
      else
        match r with
        | [] => [[c]]
        | d :: _ =>
            if isBlank d then [c] :: words r
            else
              match words r with
              | [] => [[c]]
              | w :: ws => (c :: w) :: ws

/-- Texts one after another with a separator between neighbours. -/
def join (separator : Text) (parts : List Text) : Text :=
  separator.intercalate parts

/-- The words of a text with single spaces between them. -/
def squeeze (s : Text) : Text :=
  join [' '] (words s)

/-- The parts of a text between occurrences of one character; one part more than occurrences. -/
def splitOn (separator : Char) : Text → List Text
  | [] => [[]]
  | c :: r =>
      if c = separator then [] :: splitOn separator r
      else
        match splitOn separator r with
        | [] => [[c]]
        | w :: ws => (c :: w) :: ws

/-- Writes one character for each maximal run of characters of a class. -/
def collapse (p : Char → Bool) (mark : Char) : Text → Text
  | [] => []
  | c :: r =>
      if p c then
        match r with
        | [] => [mark]
        | d :: _ => if p d then collapse p mark r else mark :: collapse p mark r
      else c :: collapse p mark r

/-- Replaces every occurrence of one character by a text. -/
def replaceChar (old : Char) (new : Text) (s : Text) : Text :=
  s.flatMap fun c => if c = old then new else [c]

/-- Tests whether a text occurs inside another. -/
def occursIn (needle : Text) : Text → Bool
  | [] => needle.isEmpty
  | c :: r => needle.isPrefixOf (c :: r) || occursIn needle r

/-- How often a character occurs. -/
def occurrences (c : Char) (s : Text) : Nat :=
  s.count c

/-- Trimming never makes a text longer. -/
theorem length_stripBy_le (p : Char → Bool) (s : Text) : (stripBy p s).length ≤ s.length := by
  have front := (List.dropWhile_sublist p (l := s)).length_le
  have back := (List.dropWhile_sublist p (l := (s.dropWhile p).reverse)).length_le
  simp only [List.length_reverse] at back
  simp only [stripBy, List.length_reverse]
  omega

/-- Every text has a part, if only an empty one. -/
theorem splitOn_ne_nil (separator : Char) (s : Text) : splitOn separator s ≠ [] := by
  cases s with
  | nil => simp [splitOn]
  | cons c r =>
    by_cases h : c = separator
    · simp [splitOn, h]
    · simp only [splitOn, h, if_false]
      split <;> simp

/-- Joining the parts at the separator gives the text back. -/
theorem join_splitOn (separator : Char) (s : Text) :
    join [separator] (splitOn separator s) = s := by
  induction s with
  | nil => simp [splitOn, join]
  | cons c r ih =>
    obtain ⟨w, ws, hw⟩ := List.exists_cons_of_ne_nil (splitOn_ne_nil separator r)
    rw [hw] at ih
    by_cases h : c = separator
    · subst h
      simpa [splitOn, hw, join, List.intercalate, List.intersperse] using ih
    · simp only [splitOn, h, if_false, hw]
      rw [← ih]
      cases ws <;> simp [join, List.intercalate, List.intersperse]

end BotCanvas.Text
