import BotCanvas.Layout.Token
import BotCanvas.Text.Lines

/-!
# From text to tokens

The lexer goes through the text line by line. At the start of a line outside brackets it compares
the indentation with the columns that are open; lines that hold nothing but a comment do not count.
A tab goes to the next multiple of eight columns, and the columns must be in the same order if a tab
counts as one.
-/

namespace BotCanvas.Layout

/-- What the lexer knows: the line, the open columns with tabs counted both ways, and the open
brackets with their lines, innermost first. -/
structure Lexer where
  line : Nat
  columns : List (Nat × Nat)
  brackets : List (Char × Nat)

namespace Lexer

/-- The most brackets that may be open at once. -/
def bracketLimit : Nat := 200

/-- The most columns that may be open at once. -/
def columnLimit : Nat := 100

/-- A token at the current line. -/
def token (s : Lexer) (kind : TokenKind) (text : String) : Token :=
  ⟨kind, text, s.line, s.brackets.length⟩

/-- Measures the blanks at the start of a line, with tabs counted both ways. -/
def measure : (column narrow : Nat) → Text → (Nat × Nat) × Text
  | column, narrow, ' ' :: r => measure (column + 1) (narrow + 1) r
  | column, narrow, '\t' :: r => measure ((column / 8 + 1) * 8) (narrow + 1) r
  | column, narrow, c :: r =>
      if c.toNat = 12 then measure 0 0 r else ((column, narrow), c :: r)
  | column, narrow, [] => ((column, narrow), [])

/-- Closes the columns beyond one, and says how many were closed. -/
def closeColumns (column : Nat) : List (Nat × Nat) → Nat × List (Nat × Nat)
  | [] => (0, [])
  | (c, n) :: outer =>
      if column < c then
        let (closed, rest) := closeColumns column outer
        (closed + 1, rest)
      else (0, (c, n) :: outer)

/-- The tokens for the indentation of a line, the last first. -/
def indentTo (s : Lexer) (column narrow : Nat) : Except Fault (Lexer × List Token) :=
  let (top, topNarrow) := s.columns.headD (0, 0)
  if column = top then
    if narrow = topNarrow then .ok (s, []) else .error (.mixedIndent s.line)
  else if top < column then
    if columnLimit ≤ s.columns.length + 1 then .error (.deepIndent s.line)
    else if narrow ≤ topNarrow then .error (.mixedIndent s.line)
    else .ok ({ s with columns := (column, narrow) :: s.columns }, [s.token .indent ""])
  else
    let (closed, left) := closeColumns column s.columns
    let (now, nowNarrow) := left.headD (0, 0)
    if column ≠ now then .error (.strayDedent s.line)
    else if narrow ≠ nowNarrow then .error (.mixedIndent s.line)
    else .ok ({ s with columns := left }, List.replicate closed (s.token .dedent ""))

/-- Tests for a character that names may hold. -/
def isNameChar (c : Char) : Bool :=
  Text.isAsciiAlnum c || c == '_' || 128 ≤ c.toNat

/-- The first character that a name may not hold after all. -/
def strayChar? (name : Text) : Option Char :=
  name.find? fun c => !Text.isWord c

/-- The letters that may stand before a string. -/
def stringLeads : List String :=
  ["b", "u", "r", "f", "br", "rb", "fr", "rf"]

/-- Tests for a quotation mark. -/
def isQuote (c : Char) : Bool :=
  c == '\x22' || c == '\x27'

/-- Passes over the inside of a string on one line. An error is the line where it ends too early. -/
def skipShort (quote : Char) : (line : Nat) → Text → Except Nat (Nat × Text)
  | line, '\\' :: c :: r => skipShort quote (if c = '\n' then line + 1 else line) r
  | line, c :: r =>
      if c = quote then .ok (line, r)
      else if c = '\n' then .error line
      else skipShort quote line r
  | line, [] => .error (line - 1)

/-- Passes over the inside of a string between three quotation marks each. -/
def skipLong (quote : Char) : (line : Nat) → Text → Except Nat (Nat × Text)
  | line, '\\' :: c :: r => skipLong quote (if c = '\n' then line + 1 else line) r
  | line, c :: d :: e :: r =>
      if c = quote && d = quote && e = quote then .ok (line, r)
      else skipLong quote (if c = '\n' then line + 1 else line) (d :: e :: r)
  | line, c :: r => skipLong quote (if c = '\n' then line + 1 else line) r
  | line, [] => .error (line - 1)

/-- Passes over a string from its first quotation mark on. -/
def skipString (line : Nat) (quote : Char) (r : Text) : Except Fault (Nat × Text) :=
  match r with
  | c :: d :: rest =>
      if c = quote && d = quote then
        (skipLong quote line rest).mapError fun last => .unterminated true line last
      else if c = quote then .ok (line, d :: rest)
      else (skipShort quote line r).mapError fun last => .unterminated false line last
  | _ => (skipShort quote line r).mapError fun last => .unterminated false line last

/-- Tests for a decimal digit or the mark between digits. -/
def isDigitOrGap (c : Char) : Bool :=
  Text.isAsciiDigit c || c == '_'

/-- Tests for a digit of any base or the mark between digits. -/
def isBaseDigit (c : Char) : Bool :=
  Text.isAsciiAlnum c || c == '_'

/-- The exponent at the start of a text, empty if there is none. -/
def exponentOf : Text → Text
  | e :: sign :: d :: r =>
      if e != 'e' && e != 'E' then []
      else if (sign == '+' || sign == '-') && Text.isAsciiDigit d then
        e :: sign :: d :: r.takeWhile isDigitOrGap
      else if Text.isAsciiDigit sign then e :: sign :: (d :: r).takeWhile isDigitOrGap
      else []
  | _ => []

/-- The number at the start of a text. -/
def numberOf (s : Text) : Text :=
  match s with
  | '0' :: c :: r =>
      if "xXoObB".toList.contains c then '0' :: c :: r.takeWhile isBaseDigit else decimal s
  | _ => decimal s
where
  /-- A number of base ten. -/
  decimal (s : Text) : Text :=
    let whole := s.takeWhile isDigitOrGap
    let r := s.drop whole.length
    let fraction := match r with
      | '.' :: f => '.' :: f.takeWhile isDigitOrGap
      | _ => []
    let r := r.drop fraction.length
    let exponent := exponentOf r
    let r := r.drop exponent.length
    let mark := match r with
      | c :: _ => if c == 'j' || c == 'J' then [c] else []
      | [] => []
    whole ++ fraction ++ exponent ++ mark

/-- The words that may follow a number directly. -/
def wordsAfterNumber : List String :=
  ["and", "else", "for", "if", "in", "is", "not", "or"]

/-- Tests for a mark that is not between digits. -/
def hasStrayGap : Text → Bool
  | [] => false
  | ['_'] => true
  | '_' :: c :: r => !isBaseDigit c || c == '_' || hasStrayGap (c :: r)
  | _ :: r => hasStrayGap r

/-- What is wrong with a number, given what comes after it. -/
def numberFault? (line : Nat) (number rest : Text) : Option Fault :=
  let word := rest.takeWhile isNameChar
  let digits := number.filter Text.isAsciiDigit
  if number.all isDigitOrGap && number.head? == some '0' && digits.any (· != '0') then
    some (.leadingZeros line)
  else if hasStrayGap number || !word.isEmpty && !wordsAfterNumber.contains (String.ofList word) then
    some (.badNumber line)
  else none

/-- The marks of more than one character, longer ones first. -/
def longMarks : List String :=
  ["**=", "//=", ">>=", "<<=", "...", "==", "!=", "<=", ">=", "->", ":=", "+=", "-=", "*=", "/=",
   "%=", "&=", "|=", "^=", "@=", "**", "//", "<<", ">>"]

/-- The mark at the start of a text. -/
def markOf (c : Char) (r : Text) : String :=
  (longMarks.find? fun m => m.toList.isPrefixOf (c :: r)).getD c.toString

/-- The closing bracket for an opening one. -/
def closingFor? (c : Char) : Option Char :=
  if c = '(' then some ')' else if c = '[' then some ']' else if c = '\x7b' then some '\x7d'
  else none

/-- Tests for a closing bracket. -/
def isClosing (c : Char) : Bool :=
  c == ')' || c == ']' || c == '\x7d'

/-- Opens or closes a bracket. -/
def bracket (s : Lexer) (c : Char) : Except Fault Lexer :=
  if (closingFor? c).isSome then
    if bracketLimit ≤ s.brackets.length then .error (.deepBrackets s.line)
    else .ok { s with brackets := (c, s.line) :: s.brackets }
  else if isClosing c then
    match s.brackets with
    | [] => .error (.unmatched c s.line)
    | (opening, opened) :: outer =>
        if closingFor? opening = some c then .ok { s with brackets := outer }
        else .error (.mismatched c opening opened s.line)
  else .ok s

/-- The next token inside a line, and what follows it. -/
def next (s : Lexer) (c : Char) (r : Text) : Except Fault (Lexer × Token × Text) :=
  let name := (c :: r).takeWhile isNameChar
  let after := (c :: r).drop name.length
  let startsString := match after with
    | q :: _ => isQuote q && (name.isEmpty ||
        stringLeads.contains (String.ofList (name.map Char.toLower)))
    | [] => false
  let startsNumber := Text.isAsciiDigit c ||
    (c == '.' && (r.head?.map Text.isAsciiDigit).getD false)
  if startsString then
    (skipString s.line (after.headD ' ') (after.drop 1)).map fun (line, rest) =>
      ({ s with line := line }, s.token .string "", rest)
  else if startsNumber then
    let number := numberOf (c :: r)
    let rest := (c :: r).drop number.length
    match numberFault? s.line number rest with
    | some fault => .error fault
    | none => .ok (s, s.token .number "", rest)
  else if isNameChar c then
    match strayChar? name with
    | some d => .error (.badCharacter d s.line)
    | none => .ok (s, s.token .name (String.ofList name), after)
  else
    let mark := markOf c r
    (s.bracket c).map fun s => (s, s.token .mark mark, (c :: r).drop mark.length)

/-- The tokens at the end of a text, the last first. -/
def closing (s : Lexer) : List Token :=
  let s := { s with line := s.line - 1 }
  s.token .finish "" :: s.columns.map fun _ => s.token .dedent ""

/-- Goes through a text. The flag says whether a line starts; tokens are kept in reverse. -/
def scanFrom : (fuel : Nat) → Lexer → (start : Bool) → Text → List Token → Scan
  | 0, _, _, _, done => ⟨done.reverse, none⟩
  | fuel + 1, s, true, text, done =>
      let ((column, narrow), r) := measure 0 0 text
      match r with
      | [] => ⟨(s.closing ++ done).reverse, none⟩
      | '\n' :: r => scanFrom fuel { s with line := s.line + 1 } true r done
      | '#' :: r => scanFrom fuel s true (r.dropWhile (· != '\n')) done
      | r =>
          match s.indentTo column narrow with
          | .error fault => ⟨done.reverse, some fault⟩
          | .ok (s, tokens) => scanFrom fuel s false r (tokens ++ done)
  | fuel + 1, s, false, text, done =>
      match text with
      | [] =>
          match s.brackets with
          | (c, line) :: _ => ⟨done.reverse, some (.unclosed c line)⟩
          | [] => ⟨(s.closing ++ done).reverse, none⟩
      | '\n' :: r =>
          let later := { s with line := s.line + 1 }
          if s.brackets.isEmpty then scanFrom fuel later true r (s.token .newline "" :: done)
          else scanFrom fuel later false r done
      | '#' :: r => scanFrom fuel s false (r.dropWhile (· != '\n')) done
      | '\\' :: '\n' :: r =>
          if r.isEmpty then ⟨done.reverse, some (.cutShort s.line)⟩
          else scanFrom fuel { s with line := s.line + 1 } false r done
      | '\\' :: _ => ⟨done.reverse, some (.continuation s.line)⟩
      | c :: r =>
          if c == ' ' || c == '\t' || c.toNat == 12 then scanFrom fuel s false r done
          else
            match s.next c r with
            | .error fault => ⟨done.reverse, some fault⟩
            | .ok (s, token, rest) => scanFrom fuel s false rest (token :: done)

end Lexer

/-- A text whose lines all end with a line feed. -/
def closedLines (s : Text) : Text :=
  let t := Text.unifyLineFeeds s
  if t.getLast? == some '\n' then t else t ++ ['\n']

/-- The tokens of a text. -/
def scan (s : Text) : Scan :=
  let t := closedLines s
  Lexer.scanFrom (2 * t.length + 2) ⟨1, [], []⟩ true t []

end BotCanvas.Layout
