import BotCanvas.Advice.Rules
import BotCanvas.Cli.Input
import BotCanvas.Cli.Usage
import BotCanvas.Name.Basic
import BotCanvas.Project.Preview

/-!
# Running a command line

A run is a function of the words, the environment and the disk. It ends well, with an error that is
reported, with a complaint about the words, or with a fault that nobody expected; lines are shown
and files are written on the way.
-/

namespace BotCanvas

/-- A fault that ends a run without a report. -/
inductive Crash
  | number (e : NumberError)
  | document (e : RenderError)
  | pairing (e : PairingError)
  | markup (e : MarkupError)
  | disk (e : DiskError)

namespace Crash

/-- The wording of a fault. -/
def message : Crash → String
  | number e => e.message
  | document e => e.message
  | pairing e => e.message
  | markup e => e.message
  | disk e => e.message

end Crash

/-- How a run ends. -/
inductive Ending
  | exit (code : Nat)
  | crash (c : Crash)

/-- A run so far: the lines of both outputs, and the disk. -/
structure Transcript where
  output : List Text
  errors : List Text
  disk : Disk

/-- Doing something in a run. Ending early is the error. -/
abbrev Command := ExceptT Ending (StateM Transcript)

namespace Command

/-- Ends the run. -/
def finish {α : Type} (e : Ending) : Command α :=
  throw e

/-- Ends the run with a fault. -/
def crash {α : Type} (c : Crash) : Command α :=
  throw (.crash c)

/-- The text that the console shows for a message. -/
def shown (message : Text) : Command Text :=
  match Markup.shown message with
  | .ok t => pure t
  | .error e => crash (.markup e)

/-- Shows a message. -/
def say (message : Text) : Command Unit := do
  let t ← shown message
  modify fun s => { s with output := s.output ++ [t] }

/-- Reports an error and ends the run. -/
def report {α : Type} (message : Text) : Command α := do
  let t ← shown (Markup.styled "bold red" ("Error: ".toList ++ message))
  modify fun s => { s with errors := s.errors ++ [t] }
  finish (.exit 1)

/-- Ends the run with a complaint about the words. -/
def complain {α : Type} (e : UsageError) : Command α := do
  let lines := Usage.synopsis ++ [Usage.program ++ ": error: " ++ e.message]
  modify fun s => { s with errors := s.errors ++ lines.map String.toList }
  finish (.exit 2)

/-- The outcome of reading the input. -/
def given {α : Type} : Except InputError α → Command α
  | .ok a => pure a
  | .error e =>
      match e with
      | .pairing p =>
          if e.isReported then report e.message.toList else crash (.pairing p)
      | _ => report e.message.toList

/-- The outcome of changing the disk. -/
def written {α : Type} : Except DiskError α → Command α
  | .ok a => pure a
  | .error e =>
      if e.fault = .unusable then crash (.disk e)
      else report ("could not write output: ".toList ++ e.message.toList)

/-- The outcome of an export. -/
def exported {α : Type} : Except ExportError α → Command α
  | .ok a => pure a
  | .error e =>
      match e with
      | .number n => crash (.number n)
      | .document r => crash (.document r)
      | .disk d => written (.error d)
      | _ => report e.message.toList

/-- Shows what an exporter reports, if it is to. -/
def showProgress (x : Exporter) (reports : List Exporter.Progress) : Command Unit :=
  if x.config.verbose then reports.forM fun r => say r.line else pure ()

/-- Shows findings. -/
def showFindings (findings : List Finding) : Command Unit := do
  if findings.isEmpty then say (Markup.styled "dim" "No graph findings.".toList)
  for f in findings do
    let _ ← shown (", ".intercalate f.blocks).toList
  if Advice.hasCritical findings then
    say (Markup.styled "bold yellow"
      "Critical findings present; the bot will still be exported.".toList)

/-- Shows that a run did well. -/
def succeed (message : Text) : Command Unit :=
  say (Markup.styled "bold green" message)

/-- The project that a request asks for. -/
def project (x : Exporter) (r : ExportRequest) : Command Project := do
  let p ← exported (x.project r)
  showProgress x (x.reports r p)
  pure p

/-- Shows a preview of a project. -/
def preview (x : Exporter) (r : ExportRequest) : Command Unit := do
  let p ← project x r
  succeed ("Previewed " ++ toString (x.preview p).length ++ " files for " ++ r.language).toList

/-- Where the archive of a project goes: the path itself if it is one of an archive, else a file
under it. -/
def archivePath (output language : String) : Path :=
  let target := Path.read output.toList
  if target.suffix == ".zip".toList then target
  else target.append (.read (Name.slug language.toList ++ "-bot.zip".toList))

/-- Writes the archive of a project. -/
def archive (x : Exporter) (r : ExportRequest) (output : String) : Command Unit := do
  let target := archivePath output r.language
  let p ← project x r
  let entries ← exported (x.archive p)
  let size := (Archive.bytes entries).length
  showProgress x [.packaged p.files.length size]
  let disk ← written ((← get).disk.save target (.archive entries))
  modify fun s => { s with disk := disk }
  match formatSize size with
  | .error e => crash (.number e)
  | .ok t =>
      succeed ("Wrote ".toList ++ target.text ++ (" (" ++ t ++ ")").toList)

/-- Writes the files of a project. -/
def write (x : Exporter) (r : ExportRequest) (output : String) : Command Unit := do
  let p ← project x r
  let folder := Path.read output.toList
  let targets := Exporter.targets folder p
  let (result, disk) := Exporter.saveAll (← get).disk targets
  modify fun s => { s with disk := disk }
  written result
  showProgress x [.wrote p.files.length folder]
  for (path, _) in targets do
    let _ ← shown path.text
  succeed ("Exported " ++ r.language ++ " bot to " ++ output).toList

/-- Does what a command line asks for. -/
def perform (a : Arguments) (environment : List (String × String)) : Command Unit := do
  let disk := (← get).disk
  let path := Path.read a.canvas.toList
  match disk.exists? path with
  | .error e => crash (.disk e)
  | .ok false => report ("Canvas file not found: ".toList ++ path.text)
  | .ok true =>
      let config ← given (Input.config a environment disk)
      let r ← given (Input.request a disk)
      let x : Exporter := ⟨.builtin, config⟩
      showFindings (Advice.analyze x.catalog r.canvas)
      if a.preview then preview x r
      else if a.zip then archive x r a.output
      else write x r a.output

/-- Runs a command line. -/
def ofWords (words : List String) (environment : List (String × String)) : Command Unit :=
  match Arguments.read words with
  | .error e => complain e
  | .ok .help => do
      modify fun s => { s with output := s.output ++ Usage.help.map String.toList }
      finish (.exit 0)
  | .ok (.run a) => perform a environment

end Command

/-- A finished run. -/
structure Outcome where
  ending : Ending
  transcript : Transcript

namespace Outcome

/-- The outcome of running a command line on a disk. -/
def ofCommandLine (words : List String) (environment : List (String × String)) (disk : Disk) :
    Outcome :=
  match (Command.ofWords words environment).run.run ⟨[], [], disk⟩ with
  | (.ok _, s) => ⟨.exit 0, s⟩
  | (.error e, s) => ⟨e, s⟩

/-- Lines that are shown, as they stand on the console. -/
def shownLines (messages : List Text) : List Text :=
  messages.flatMap Markup.fullLines

/-- The paths and contents of the files that were not there before. -/
def newFiles (before : Disk) (o : Outcome) : List (String × Content) :=
  o.transcript.disk.files.filter fun (path, _) => !(before.files.any fun p => p.1 == path)

end Outcome

end BotCanvas
