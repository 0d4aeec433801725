import BotCanvas.Cli.Run

/-!
# The program

The part of the disk that a command line may look at is read first, the command line is run on it,
and what the run has changed is written.
-/

namespace BotCanvas

/-- The files and folders that a run may look at. -/
def watchedPaths (a : Arguments) : List Path :=
  let output := Path.read a.output.toList
  let names := Dialect.all.flatMap (fun d => [d.entryPoint, d.manifestPath]) ++
    [Project.readmePath, Project.environmentPath]
  let archives := Dialect.languages.map (Command.archivePath a.output)
  [Path.read a.canvas.toList] ++ (a.config.map fun s => Path.read s.toList).toList ++
    archives ++ names.map fun n => output.append (.read n.toList)

/-- A path and all paths above it, the outermost first. -/
def pathsTo (p : Path) : List Path :=
  (List.range (p.names.length + 1)).map fun n => ⟨p.root, p.names.take n⟩

/-- Tests whether anything really stands at a path. -/
def isThere (name : String) : IO Bool := do
  match ← (IO.FS.realPath name).toBaseIO with
  | .ok _ => return true
  | .error _ => return false

/-- What really stands at a path. What cannot be read as a text is taken for a folder. -/
def lookAt (p : Path) : IO (Option Node) := do
  let name := String.ofList p.text
  if !(← isThere name) then return none
  match ← (IO.FS.readFile name).toBaseIO with
  | .ok text => return some (.file (.text text))
  | .error _ => return some .folder

/-- The disk as far as it stands at some paths. -/
def readDisk (paths : List Path) : IO Disk := do
  let mut disk := Disk.empty
  for p in paths.flatMap pathsTo do
    if let some node ← lookAt p then
      if let .ok l := disk.locate p then
        unless Disk.isStanding l do disk := disk.put l node
  return disk

/-- The path of a place. -/
def pathOf (l : Location) : Path :=
  if l.head? == some ['/'] then ⟨['/'], l.drop 1⟩ else ⟨[], l⟩

/-- Writes a file with the folders above it. -/
def writeNode (l : Location) : Node → IO Unit
  | .folder => IO.FS.createDirAll (String.ofList (pathOf l).text)
  | .file content => do
      IO.FS.createDirAll (String.ofList (pathOf l).parent.text)
      let name := String.ofList (pathOf l).text
      match content with
      | .text s => IO.FS.writeFile name s
      | .archive entries => IO.FS.writeBinFile name ⟨(Archive.bytes entries).toArray⟩

/-- Writes what a run has changed. -/
def writeChanges (before after : Disk) : IO Unit := do
  for (l, node) in after.nodes do
    unless before.nodes.lookup l == some node do writeNode l node

/-- The variables that settings are read from. -/
def watchedVariables : List String :=
  ["BOTEXPORT_TRAVERSAL", "BOTEXPORT_PREVIEW_LENGTH", "BOTEXPORT_ZIP_COMPRESSION",
   "BOTEXPORT_VERBOSE"]

/-- The environment as far as it is looked at. -/
def readEnvironment : IO (List (String × String)) := do
  let mut found := []
  for name in watchedVariables do
    if let some value ← IO.getEnv name then found := found ++ [(name, value)]
  return found

/-- Runs a command line on the real disk. -/
def runProgram (words : List String) : IO UInt32 := do
  let disk ← match Arguments.read words with
    | .ok (.run a) => readDisk (watchedPaths a)
    | _ => pure Disk.empty
  let o := Outcome.ofCommandLine words (← readEnvironment) disk
  writeChanges disk o.transcript.disk
  for line in o.transcript.output do IO.println (String.ofList line)
  for line in o.transcript.errors do IO.eprintln (String.ofList line)
  match o.ending with
  | .exit code => return UInt32.ofNat code
  | .crash c => do
      IO.eprintln c.message
      return 1

end BotCanvas

def main (words : List String) : IO UInt32 :=
  BotCanvas.runProgram words
