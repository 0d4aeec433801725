import BotCanvas.Archive.Package
import BotCanvas.Config
import BotCanvas.Console.Markup
import BotCanvas.Disk
import BotCanvas.Program.Target
import BotCanvas.Catalog.Builtin
import BotCanvas.Project.Documents
import BotCanvas.Project.Request

/-!
# Exports

An export turns a request into a project of four files: the program, the manifest of its packages,
a readme and the environment of the bot. Packages and instructions are part of the answer. A
project is delivered as an archive or as files in a folder.
-/

namespace BotCanvas

/-- A project as it is exported. -/
structure Project where
  files : List GeneratedFile
  dependencies : List (String × String)
  instructions : String

/-- Why there is no export. -/
inductive ExportError
  | unsupported (e : UnsupportedLanguage)
  | number (e : NumberError)
  | document (e : RenderError)
  | packaging (e : PackagingError)
  | disk (e : DiskError)

namespace ExportError

/-- The wording of an error. -/
def message : ExportError → String
  | unsupported e => e.message
  | number e => e.message
  | document e => e.message
  | packaging e => e.message
  | disk e => e.message

end ExportError

namespace Project

/-- The file at a path. -/
def file? (p : Project) (path : String) : Option GeneratedFile :=
  p.files.find? fun f => f.path == path

/-- The name of every project. -/
def title : String := "discord-bot"

/-- The path of the readme. -/
def readmePath : String := "README.md"

/-- The path of the environment. -/
def environmentPath : String := ".env"

end Project

/-- What turns requests into projects: a catalog and settings. -/
structure Exporter where
  catalog : Catalog
  config : Config

namespace Exporter

/-- The exporter for a catalog; an empty one stands for the built-in catalog. -/
def ofCatalog (catalog : Catalog) (config : Config) : Exporter :=
  ⟨if catalog.entries.isEmpty then .builtin else catalog, config⟩

/-- The exporter that nothing is said about. -/
def standard : Exporter := ⟨.builtin, .standard⟩

/-- The number of triggers of each kind. -/
def counts (catalog : Catalog) (canvas : Canvas) : Value :=
  .obj (TriggerKind.all.map fun kind =>
    (kind.name, .int ((Flow.triggers catalog canvas).countP fun t =>
      TriggerKind.ofType? t.type == some kind)))

/-- Packages and versions as a value. -/
def packages (dependencies : List (String × String)) : Value :=
  .obj (dependencies.map fun (name, version) => (name, .str version))

/-- Credentials as a value. -/
def credentials (c : Credentials) : Value :=
  .obj [("bot_token", .str c.token), ("client_id", .str c.clientId),
    ("prefix", c.commandPrefix.elim .null .str)]

/-- The manifest of a project as a value. -/
def manifest (d : Dialect) (dependencies : List (String × String)) : Value :=
  let run : Value := .str ("node " ++ d.entryPoint)
  .obj [("name", .str Project.title), ("version", .str "1.0.0"), ("main", .str d.entryPoint),
    ("type", .str "commonjs"), ("scripts", .obj [("start", run), ("dev", run)]),
    ("dependencies", packages dependencies)]

/-- What the documents of a project can refer to. -/
def context (x : Exporter) (d : Dialect) (r : ExportRequest)
    (dependencies : List (String × String)) : Context :=
  [("project_name", .str Project.title), ("language", .str d.language),
   ("entry_point", .str d.entryPoint), ("manifest_path", .str d.manifestPath),
   ("install_command", .str d.installCommand), ("run_command", .str d.runCommand),
   ("docs_url", .str d.docsUrl), ("dependencies", packages dependencies),
   ("settings", credentials r.credentials), ("counts", counts x.catalog r.canvas),
   ("manifest", manifest d dependencies)]

/-- The template of the manifest at a path. -/
def manifestTemplate (path : String) : Template :=
  if path == "package.json" then Documents.manifest else Documents.requirements

/-- The text of a document. -/
def render (context : Context) (t : Template) : Except ExportError String :=
  ((Template.render context t).mapError .document).map String.ofList

/-- The project in a dialect. -/
def projectIn (x : Exporter) (d : Dialect) (r : ExportRequest) : Except ExportError Project := do
  let program ← (d.program x.catalog x.config.traversal r.canvas).mapError .number
  let dependencies := d.dependencies program r.canvas.types
  let context := x.context d r dependencies
  let manifest ← render context (manifestTemplate d.manifestPath)
  let readme ← render context Documents.readme
  let environment ← render context Documents.environment
  let instructions ← render context Documents.instructions
  .ok ⟨[⟨d.entryPoint, String.ofList program⟩, ⟨d.manifestPath, manifest⟩,
        ⟨Project.readmePath, readme⟩, ⟨Project.environmentPath, environment⟩],
       dependencies, instructions⟩

/-- The project that a request asks for. -/
def project (x : Exporter) (r : ExportRequest) : Except ExportError Project := do
  let d ← (Dialect.ofLanguage r.language).mapError .unsupported
  x.projectIn d r

/-- The entries of the archive of a project. -/
def archive (x : Exporter) (p : Project) : Except ExportError (List ArchiveEntry) :=
  (Archive.entries x.config.compression p.files).mapError .packaging

/-- Where the files of a project go in a folder. -/
def targets (folder : Path) (p : Project) : List (Path × GeneratedFile) :=
  p.files.map fun f => (folder.append (.read f.path.toList), f)

/-- Saves files one after another. After an error, what was saved before stays. -/
def saveAll (d : Disk) : List (Path × GeneratedFile) → Except DiskError Unit × Disk
  | [] => (.ok (), d)
  | (path, f) :: rest =>
      match d.save path (.text f.content) with
      | .error e => (.error e, d)
      | .ok saved => saveAll saved rest

/-- What an exporter reports while it works. -/
inductive Progress
  | exporting (blocks connections : Nat) (language : String) (order : Traversal)
  | generated (files dependencies : Nat)
  | packaged (files bytes : Nat)
  | wrote (files : Nat) (folder : Path)
  deriving DecidableEq

namespace Progress

/-- The wording of a report. -/
def message : Progress → Text
  | exporting blocks connections language order =>
      ("Exporting " ++ toString blocks ++ " blocks / " ++ toString connections ++
        " connections as " ++ language ++ " (" ++ order.name ++ " order)").toList
  | generated files dependencies =>
      ("Generated " ++ toString files ++ " files, " ++ toString dependencies ++
        " dependencies").toList
  | packaged files bytes =>
      ("Packaged " ++ toString files ++ " files into " ++ toString bytes ++ " bytes").toList
  | wrote files folder =>
      ("Wrote " ++ toString files ++ " files to ").toList ++ folder.text

/-- A report as a message for the console. -/
def line (p : Progress) : Text :=
  ' ' :: ' ' :: Markup.styled "dim" p.message

end Progress

/-- The reports on a project. -/
def reports (x : Exporter) (r : ExportRequest) (p : Project) : List Progress :=
  [.exporting r.canvas.blocks.length r.canvas.connections.length r.language x.config.traversal,
   .generated p.files.length p.dependencies.length]

end Exporter

end BotCanvas
