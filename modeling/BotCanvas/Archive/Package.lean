import BotCanvas.Archive.Layout
import BotCanvas.Project.File
import BotCanvas.Text.Quoted
import BotCanvas.Text.Trim
import BotCanvas.Value.Basic

/-!
# Packing files into an archive

The path of a file becomes the name of its entry: backslashes are read as slashes and slashes in
front are dropped. A path with an empty name or two dots is unsafe and refused, and so is a name
that was taken before. A name is stored up to its first NUL.
-/

namespace BotCanvas

/-- Why files cannot be packed. -/
inductive PackagingError
  | unknownMethod (method : Value)
  | unsafePath (path : String)
  | duplicateName (name : Text)

namespace PackagingError

/-- The wording of an error. -/
def message : PackagingError → String
  | unknownMethod method => "Unknown compression method: " ++ String.ofList method.shown
  | unsafePath path =>
      "Unsafe archive entry path: " ++ String.ofList (Text.quoted path.toList)
  | duplicateName name => "Duplicate archive entry: " ++ String.ofList name

end PackagingError

namespace Archive

/-- The method that a value names. -/
def methodOf (v : Value) : Except PackagingError Compression :=
  match v with
  | .str s => (Compression.table.lookup s).elim (.error (.unknownMethod v)) .ok
  | _ => .error (.unknownMethod v)

/-- Every method is found under its name. -/
theorem methodOf_name (m : Compression) : methodOf (.str m.name) = .ok m := by
  cases m <;> simp [methodOf, Compression.name, Compression.table, List.lookup_cons]

/-- The name that a path stands for. -/
def normalise (path : Text) : Text :=
  (path.map fun c => if c = '\\' then '/' else c).dropWhile (· == '/')

/-- No backslash is left in a name. -/
theorem not_mem_normalise (path : Text) : '\\' ∉ normalise path := by
  intro mem
  obtain ⟨c, _, hc⟩ := List.mem_map.1 ((List.dropWhile_sublist _).mem mem)
  split at hc <;> simp_all

/-- Tests for a name whose parts are neither empty nor two dots. -/
def isSafe (name : Text) : Bool :=
  (Text.splitOn '/' name).all fun part => !(part == [] || part == ['.', '.'])

/-- The name of an entry as it is stored. -/
def storedName (name : Text) : String :=
  String.ofList (name.takeWhile fun c => c.toNat != 0)

/-- The entries for files, given the names that are taken. -/
def entriesAfter (method : Compression) : (taken : List Text) → List GeneratedFile →
    Except PackagingError (List ArchiveEntry)
  | _, [] => .ok []
  | taken, f :: rest =>
      let name := normalise f.path.toList
      if !isSafe name then .error (.unsafePath f.path)
      else if taken.contains name then .error (.duplicateName name)
      else
        (entriesAfter method (name :: taken) rest).map fun entries =>
          ⟨storedName name, method, utf8 f.content⟩ :: entries

/-- The entries of an archive of files. -/
def entries (method : Compression) (files : List GeneratedFile) :
    Except PackagingError (List ArchiveEntry) :=
  entriesAfter method [] files

/-- The archive of files. -/
def package (method : Compression) (files : List GeneratedFile) : Except PackagingError Bytes :=
  (entries method files).map bytes

end Archive

end BotCanvas
