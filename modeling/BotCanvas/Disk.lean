import BotCanvas.Archive.Layout
import BotCanvas.Path
import BotCanvas.Text.Quoted

/-!
# Files and folders

A disk is seen from the folder that a program runs in. Paths are followed name by name: every name
but the last must lead to a folder, and two dots lead to the folder above. The folder itself, those
above it and the root of all paths are always there.

Writing changes nothing but the place that it names: a folder or a file is added, or the content of
a file is replaced.
-/

namespace BotCanvas

/-- What a file holds. -/
inductive Content
  | text (s : String)
  | archive (entries : List ArchiveEntry)
  deriving DecidableEq

/-- What a place holds. -/
inductive Node
  | file (content : Content)
  | folder
  deriving DecidableEq

/-- A place: the names that lead there from the working folder. Leading double dots stand for
folders above it, a leading slash for the root of all paths. -/
abbrev Location := List Text

/-- The places that hold something, in order of creation. -/
structure Disk where
  nodes : List (Location × Node)
  deriving DecidableEq

/-- What stands in the way of an operation. -/
inductive DiskFault
  | missing
  | taken
  | notFolder
  | isFolder
  | longName
  | unusable
  deriving DecidableEq

/-- An operation that failed, and the path it was about. -/
structure DiskError where
  fault : DiskFault
  path : Text
  deriving DecidableEq

namespace DiskFault

/-- The number of a fault and its wording; a path with a NUL cannot be used at all. -/
def reason : DiskFault → Nat × String
  | missing => (2, "No such file or directory")
  | taken => (17, "File exists")
  | notFolder => (20, "Not a directory")
  | isFolder => (21, "Is a directory")
  | longName => (36, "File name too long")
  | unusable => (22, "embedded null byte")

end DiskFault

namespace DiskError

/-- The wording of an error. -/
def message (e : DiskError) : String :=
  let (number, reason) := e.fault.reason
  if e.fault = .unusable then reason
  else "[Errno " ++ toString number ++ "] " ++ reason ++ ": " ++ String.ofList (Text.quoted e.path)

end DiskError

namespace Disk

/-- The disk that holds nothing. -/
def empty : Disk := ⟨[]⟩

/-- Tests for a place that is always there. -/
def isStanding (l : Location) : Bool :=
  l == [['/']] || l.all (· == ['.', '.'])

/-- What a place holds. -/
def node? (d : Disk) (l : Location) : Option Node :=
  if isStanding l then some .folder else d.nodes.lookup l

/-- The place above a place. -/
def above (l : Location) : Location :=
  if l == [['/']] then l
  else if l.all (· == ['.', '.']) then ['.', '.'] :: l
  else l.dropLast

/-- The place that a name leads to from a place. -/
def step (l : Location) (name : Text) : Location :=
  if name == ['.', '.'] then above l else l ++ [name]

/-- The most bytes of a name. -/
def nameLimit : Nat := 255

/-- Tests for a name of too many bytes. -/
def isLong (name : Text) : Bool :=
  nameLimit < (Archive.utf8 (String.ofList name)).length

/-- Follows names from a place. All but the last must lead to folders. -/
def follow (d : Disk) : Location → List Text → Except DiskFault Location
  | l, [] => .ok l
  | l, name :: rest =>
      match d.node? l with
      | none => .error .missing
      | some (.file _) => .error .notFolder
      | some .folder => if isLong name then .error .longName else follow d (step l name) rest

/-- The place that a path leads to. -/
def locate (d : Disk) (p : Path) : Except DiskError Location :=
  if p.text.any fun c => c.toNat == 0 then .error ⟨.unusable, p.text⟩
  else
    (d.follow (if p.root.isEmpty then [] else [['/']]) p.names).mapError fun fault =>
      ⟨fault, p.text⟩

/-- What stands at a path. -/
def find? (d : Disk) (p : Path) : Option Node :=
  match d.locate p with
  | .ok l => d.node? l
  | .error _ => none

/-- Tests for a folder at a path. -/
def isFolder (d : Disk) (p : Path) : Bool :=
  d.find? p == some .folder

/-- Tests whether anything stands at a path. A name of too many bytes is an error. -/
def exists? (d : Disk) (p : Path) : Except DiskError Bool :=
  match d.locate p with
  | .ok l => .ok (d.node? l).isSome
  | .error e => if e.fault = .longName then .error e else .ok false

/-- Puts something in a place: instead of what it holds, or as its last. -/
def put (d : Disk) (l : Location) (n : Node) : Disk :=
  if (d.nodes.lookup l).isSome then
    ⟨d.nodes.map fun (k, old) => if k = l then (k, n) else (k, old)⟩
  else ⟨d.nodes ++ [(l, n)]⟩

/-- Makes a folder where there is nothing. -/
def makeFolder (d : Disk) (p : Path) : Except DiskError Disk :=
  (d.locate p).bind fun l =>
    if (d.node? l).isSome then .error ⟨.taken, p.text⟩ else .ok (d.put l .folder)

/-- Makes a folder, unless it is there. -/
def ensureFolder (d : Disk) (p : Path) : Except DiskError Disk :=
  match d.makeFolder p with
  | .ok d => .ok d
  | .error e =>
      if e.fault = .missing || e.fault = .unusable || !d.isFolder p then .error e else .ok d

/-- Makes a folder with all folders above it. The names come in reverse. -/
def ensureFoldersUp (root : Text) (d : Disk) : List Text → Except DiskError Disk
  | [] => d.ensureFolder ⟨root, []⟩
  | name :: outer =>
      let p : Path := ⟨root, (name :: outer).reverse⟩
      match d.makeFolder p with
      | .ok d => .ok d
      | .error e =>
          if e.fault = .missing then
            (ensureFoldersUp root d outer).bind fun d => d.ensureFolder p
          else if e.fault = .unusable || !d.isFolder p then .error e
          else .ok d

/-- Makes a folder with all folders above it, as far as they are not there. -/
def ensureFolders (d : Disk) (p : Path) : Except DiskError Disk :=
  ensureFoldersUp p.root d p.names.reverse

/-- Writes a file into a folder that is there. -/
def writeFile (d : Disk) (p : Path) (content : Content) : Except DiskError Disk :=
  (d.locate p).bind fun l =>
    match d.node? l with
    | some .folder => .error ⟨.isFolder, p.text⟩
    | _ => .ok (d.put l (.file content))

/-- Writes a file, with all folders above it. -/
def save (d : Disk) (p : Path) (content : Content) : Except DiskError Disk :=
  (d.ensureFolders p.parent).bind fun d => d.writeFile p content

/-- Reads a file. -/
def read (d : Disk) (p : Path) : Except DiskError Content :=
  (d.locate p).bind fun l =>
    match d.node? l with
    | none => .error ⟨.missing, p.text⟩
    | some .folder => .error ⟨.isFolder, p.text⟩
    | some (.file content) => .ok content

/-- The text of a place. -/
def locationText (l : Location) : Text :=
  Text.join ['/'] l

/-- The files of the working folder with their paths, in order of the paths. -/
def files (d : Disk) : List (String × Content) :=
  let found := d.nodes.filterMap fun (l, n) =>
    match n with
    | .file content =>
        if l.head? == some ['.', '.'] || l.head? == some ['/'] then none
        else some (String.ofList (locationText l), content)
    | .folder => none
  found.mergeSort fun a b => !decide (b.1 < a.1)

end Disk

end BotCanvas
