import BotCanvas.Lint.File
import BotCanvas.Project.Export

/-!
# Previews

A preview shows the size, the start and the issues of every file of a project.
-/

namespace BotCanvas

/-- What a preview shows of a file. -/
structure FilePreview where
  path : String
  size : Nat
  start : String
  issues : List String

namespace Exporter

/-- The preview of a file. -/
def previewFile (x : Exporter) (f : GeneratedFile) : FilePreview :=
  ⟨f.path, f.size, String.ofList (f.content.toList.take x.config.previewLength.toNat),
    Lint.check f⟩

/-- The previews of the files of a project. -/
def preview (x : Exporter) (p : Project) : List FilePreview :=
  p.files.map x.previewFile

end Exporter

end BotCanvas
