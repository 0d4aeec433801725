import BotCanvas.Text.Trim

/-!
# Paths

A path is a root and a list of names. Empty names and single dots are dropped when a path is read;
two dots stay. Exactly two slashes in front are a root of their own.
-/

namespace BotCanvas

/-- A path. -/
structure Path where
  root : Text
  names : List Text
  deriving DecidableEq

namespace Path

/-- Names that do not lead anywhere. -/
def isIdle (name : Text) : Bool :=
  name == [] || name == ['.']

/-- Reads a path. -/
def read (s : Text) : Path :=
  let slashes := (s.takeWhile (· == '/')).length
  let root : Text := if slashes = 0 then [] else if slashes = 2 then ['/', '/'] else ['/']
  ⟨root, (Text.splitOn '/' s).filter fun name => !isIdle name⟩

/-- The text of a path; the empty path is a dot. -/
def text (p : Path) : Text :=
  if p.root.isEmpty && p.names.isEmpty then ['.'] else p.root ++ Text.join ['/'] p.names

/-- A path under a path. -/
def append (p q : Path) : Path :=
  if q.root.isEmpty then ⟨p.root, p.names ++ q.names⟩ else q

/-- The last name of a path, empty if it has none. -/
def name (p : Path) : Text :=
  p.names.getLast?.getD []

/-- The path without its last name. -/
def parent (p : Path) : Path :=
  ⟨p.root, p.names.dropLast⟩

/-- The last name from its last dot on, unless the dot comes first or last. -/
def suffix (p : Path) : Text :=
  let after := p.name.reverse.takeWhile (· != '.')
  let before := p.name.take (p.name.length - after.length - 1)
  if after.isEmpty || after.length == p.name.length || before.isEmpty then []
  else '.' :: after.reverse

end Path

end BotCanvas
