import BotCanvas.Document.Reader
import BotCanvas.Text.Lines
import BotCanvas.Text.Quoted
import BotCanvas.Text.Trim

/-!
# Checks of dependency manifests

A manifest document must hold an object of dependencies that is not empty. A requirements list
names one package a line: a name, an optional version condition and an optional marker.
-/

namespace BotCanvas

namespace Manifest

/-- The issues with a manifest document. -/
def checkDocument (content : Text) : List String :=
  match Document.read content with
  | .error e => ["package.json is not valid JSON: " ++ e.message]
  | .ok (.obj fields) =>
      match getField? "dependencies" fields with
      | some (.obj []) => ["package.json declares no dependencies"]
      | some (.obj _) => []
      | _ => ["package.json has no dependencies object"]
  | .ok _ => ["package.json has no dependencies object"]

/-- Characters of a package name after its first. -/
def isNameChar (c : Char) : Bool :=
  Text.isAsciiAlnum c || c == '.' || c == '_' || c == '-' || c == '[' || c == ']' || c == ','

/-- Tests for nothing, or a marker that a semicolon opens. -/
def endsRequirement (s : Text) : Bool :=
  s.isEmpty || (s.dropWhile Text.isBlank).head? == some ';'

/-- The comparisons of a version condition. -/
def comparisons : List Text := ["==", ">=", "<=", "~=", "!=", ">", "<"]

/-- Tests for a comparison and a version, up to the end or a marker. -/
def isCondition (s : Text) (comparison : Text) : Bool :=
  comparison.isPrefixOf s &&
    (let r := (s.drop comparison.length).dropWhile Text.isBlank
     let isVersionChar (c : Char) : Bool := !Text.isBlank c && c != ';'
     !(r.takeWhile isVersionChar).isEmpty && endsRequirement (r.dropWhile isVersionChar))

/-- Tests for a requirement. -/
def isRequirement (s : Text) : Bool :=
  match s with
  | [] => false
  | c :: r =>
      let rest := (r.dropWhile isNameChar).dropWhile Text.isBlank
      Text.isAsciiAlnum c && (endsRequirement rest || comparisons.any (isCondition rest))

/-- The issue with a line, unless it is blank, a remark or a requirement. -/
def requirementIssue? (number : Nat) (raw : Text) : Option String :=
  let line := Text.strip raw
  if line.isEmpty || line.head? == some '#' || isRequirement line then none
  else some ("requirements.txt line " ++ toString number ++ " is not a valid requirement: " ++
    String.ofList (Text.quoted line))

/-- The issues with a requirements list. -/
def checkRequirements (content : Text) : List String :=
  (Text.lineBodies content).zipIdx.filterMap fun (line, index) =>
    requirementIssue? (index + 1) line

end Manifest

end BotCanvas
