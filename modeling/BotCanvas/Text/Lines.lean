import BotCanvas.Text.Class

/-!
# Lines and indentation

A line ends at a line feed, a carriage return (the two together are one end), a vertical tab, a
form feed, one of the separators `U+001C` to `U+001E`, the next-line control or one of the two
Unicode separators. Indentation puts the same text before every line that holds more than blanks.
-/

namespace BotCanvas.Text

/-- Characters that end a line. -/
def isLineBreak (c : Char) : Bool :=
  let n := c.toNat
  (10 ≤ n && n ≤ 13) || (28 ≤ n && n ≤ 30) || n == 0x85 || n == 0x2028 || n == 0x2029

/-- A line: its text and the line end that closes it, empty for an unfinished last line. -/
structure Line where
  body : Text
  ending : Text
  deriving DecidableEq, Repr

namespace Line

/-- The line as it stands in the text. -/
def full (l : Line) : Text :=
  l.body ++ l.ending

/-- Tests whether a line holds nothing but blanks. -/
def isBlankLine (l : Line) : Bool :=
  l.body.all isBlank

end Line

/-- The lines of a text. Joining their full forms gives the text back. -/
def lines : Text → List Line
  | [] => []
  | '\r' :: '\n' :: r => ⟨[], ['\r', '\n']⟩ :: lines r
  | c :: r =>
      if isLineBreak c then ⟨[], [c]⟩ :: lines r
      else
        match lines r with
        | [] => [⟨[c], []⟩]
        | l :: ls => ⟨c :: l.body, l.ending⟩ :: ls

/-- The texts of the lines without their ends. -/
def lineBodies (s : Text) : List Text :=
  (lines s).map Line.body

/-- Puts a text before every line that is not blank. -/
def indent (lead : Text) (s : Text) : Text :=
  (lines s).flatMap fun l => if l.isBlankLine then l.full else lead ++ l.full

/-- Reads every carriage return, alone or before a line feed, as a line feed. -/
def unifyLineFeeds : Text → Text
  | [] => []
  | '\r' :: '\n' :: r => '\n' :: unifyLineFeeds r
  | c :: r => (if c = '\r' then '\n' else c) :: unifyLineFeeds r

/-- Splitting loses no character. -/
theorem flatMap_full_lines (s : Text) : (lines s).flatMap Line.full = s := by
  fun_induction lines s <;> simp_all [Line.full]

/-- What was read with every line end as a line feed holds no carriage return. -/
theorem not_mem_unifyLineFeeds (s : Text) : '\r' ∉ unifyLineFeeds s := by
  fun_induction unifyLineFeeds s with
  | case1 => simp
  | case2 r ih => simp [ih]
  | case3 c r _ ih =>
    by_cases h : c = '\r'
    · simp [h, ih]
    · simp [h, ih, Ne.symm h]

end BotCanvas.Text
