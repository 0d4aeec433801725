import BotCanvas.Text.Lines
import BotCanvas.Text.Trim

/-!
# Marked-up messages

Messages for the console carry tags in square brackets that set a style. A tag starts with a small
letter, `#`, `@` or `/`; backslashes in front escape it, two for one. A closing tag must name an
open one, or close the innermost if it names none. What is shown is the text without its tags.
-/

namespace BotCanvas

/-- A piece of a message, with the place of each tag. -/
inductive MarkupPiece
  | text (s : Text)
  | tag (position : Nat) (body : Text)
  deriving DecidableEq

/-- A closing tag that closes nothing. -/
inductive MarkupError
  | unmatched (tag : Text) (position : Nat)
  | nothingOpen (position : Nat)
  deriving DecidableEq

namespace MarkupError

/-- The wording of an error. -/
def message : MarkupError → String
  | unmatched tag position =>
      "closing tag '[" ++ String.ofList tag ++ "]' at position " ++ toString position ++
        " doesn't match any open tag"
  | nothingOpen position =>
      "closing tag '[/]' at position " ++ toString position ++ " has nothing to close"

end MarkupError

namespace Markup

/-- Characters that a tag may start with. -/
def startsTag (c : Char) : Bool :=
  ('a' ≤ c && c ≤ 'z') || c == '#' || c == '/' || c == '@'

/-- The body of a tag at the start of a text. -/
def tagBody? : Text → Option Text
  | '[' :: c :: r =>
      let inner := r.takeWhile fun d => d != '[' && d != ']'
      if startsTag c && (r.drop inner.length).head? == some ']' then some (c :: inner) else none
  | _ => none

/-- Takes the backslashes off that stand before a bracket which opens no tag. -/
def unescape : Text → Text
  | '\\' :: '[' :: r => '[' :: unescape r
  | c :: r => c :: unescape r
  | [] => []

/-- The pieces of a message. The first argument counts down the characters, the text before the
next tag is kept in reverse. -/
def piecesFrom : (fuel position : Nat) → (plain : Text) → Text → List MarkupPiece
  | 0, _, plain, _ => [.text (unescape plain.reverse)]
  | _ + 1, _, plain, [] => [.text (unescape plain.reverse)]
  | fuel + 1, position, plain, c :: r =>
      let slashes := ((c :: r).takeWhile (· == '\\')).length
      let next := (c :: r).drop slashes
      match tagBody? next with
      | none => piecesFrom fuel (position + 1) (c :: plain) r
      | some body =>
          let before := [.text (unescape plain.reverse), .text (List.replicate (slashes / 2) '\\')]
          let width := body.length + 2
          let rest := piecesFrom fuel (position + slashes + width) [] (next.drop width)
          if slashes % 2 = 1 then before ++ .text (unescape (next.take width)) :: rest
          else before ++ .tag (position + slashes) body :: rest

/-- The pieces of a message. -/
def pieces (s : Text) : List MarkupPiece :=
  piecesFrom s.length 0 [] s

/-- The name of a style, told apart without regard to case and blanks around it. -/
def styleName (s : Text) : Text :=
  Text.strip (s.map Char.toLower)

/-- Drops the first occurrence of a style from the open ones. -/
def close? (name : Text) : List Text → Option (List Text)
  | [] => none
  | top :: below => if top = name then some below else (close? name below).map (top :: ·)

/-- The text of pieces, given the styles that are open, innermost first. -/
def shownPieces : (opened : List Text) → List MarkupPiece → Except MarkupError Text
  | _, [] => .ok []
  | opened, .text s :: rest => (shownPieces opened rest).map fun t => s ++ t
  | opened, .tag position body :: rest =>
      let name := body.takeWhile (· != '=')
      match name with
      | '/' :: closing =>
          let style := styleName closing
          if style.isEmpty then
            match opened with
            | [] => .error (.nothingOpen position)
            | _ :: below => shownPieces below rest
          else
            match close? style opened with
            | none => .error (.unmatched body position)
            | some left => shownPieces left rest
      | _ => shownPieces (styleName name :: opened) rest

/-- Control characters that the console does not show. -/
def isUnshown (c : Char) : Bool :=
  let n := c.toNat
  n == 7 || n == 8 || n == 11 || n == 12 || n == 13

/-- The text that the console shows for a message. -/
def shown (s : Text) : Except MarkupError Text :=
  (shownPieces [] (pieces s)).map fun t => t.filter fun c => !isUnshown c

/-- A message in a style. -/
def styled (style : String) (message : Text) : Text :=
  '[' :: (style.toList ++ ']' :: (message ++ '[' :: '/' :: (style.toList ++ [']'])))

/-- The lines of a text that are not blank, without blanks at their ends. -/
def fullLines (s : Text) : List Text :=
  ((Text.lineBodies s).map Text.stripEnd).filter fun line => !line.isEmpty

end Markup

end BotCanvas
