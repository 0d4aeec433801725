import BotCanvas.Document.Reader
import BotCanvas.Proofs.Offside.Statements
import BotCanvas.Proofs.Project.Checks
import BotCanvas.Proofs.Project.Totality

/-!
# What a manifest lists

A manifest is read back the way a package manager reads it (`Manifest.listed?`): a document names its
packages in an object of dependencies, a list of requirements names one package a row. Every
project comes with a manifest that lists just the packages of the answer (`listed_dependencies`).
-/

namespace BotCanvas

section Types

variable {c : Canvas}

/-- The types on a canvas are those of its blocks. -/
theorem Canvas.mem_types
    {type : String} :
    type ∈ c.types ↔ ∃ b ∈ c.blocks, b.type = type := by
  have hfold : ∀ (blocks : List Block) (seen : List String),
      type ∈ blocks.foldl
          (fun seen b => if seen.contains b.type then seen else seen ++ [b.type]) seen ↔
        type ∈ seen ∨ ∃ b ∈ blocks, b.type = type := by
    intro blocks
    induction blocks with
    | nil => simp
    | cons b rest ih =>
        intro seen
        rw [List.foldl_cons, ih]
        by_cases hseen : b.type ∈ seen
        · rw [if_pos (List.contains_iff_mem.2 hseen)]
          constructor
          · rintro (h | ⟨b', hb', rfl⟩)
            · exact .inl h
            · exact .inr ⟨b', List.mem_cons_of_mem _ hb', rfl⟩
          · rintro (h | ⟨b', hb', rfl⟩)
            · exact .inl h
            · rcases List.mem_cons.1 hb' with rfl | hb'
              · exact .inl hseen
              · exact .inr ⟨b', hb', rfl⟩
        · rw [if_neg (by simpa using hseen)]
          simp [or_assoc, eq_comm]
  simpa [Canvas.types] using hfold c.blocks []

/-- A program is told of a type among others if the canvas has a block of such a type. -/
theorem Canvas.usesAny_types_iff
    {wanted : List String} :
    usesAny c.types wanted = true ↔ ∃ b ∈ c.blocks, b.type ∈ wanted := by
  rw [usesAny, List.any_eq_true]
  constructor
  · rintro ⟨type, htype, hwanted⟩
    obtain ⟨b, hb, rfl⟩ := Canvas.mem_types.1 htype
    exact ⟨b, hb, List.contains_iff_mem.1 hwanted⟩
  · rintro ⟨b, hb, hwanted⟩
    exact ⟨b.type, Canvas.mem_types.2 ⟨b, hb, rfl⟩, List.contains_iff_mem.2 hwanted⟩

end Types

namespace Manifest

/-- A field that holds a text. -/
def textField? : String × Value → Option (String × String)
  | (name, .str version) => some (name, version)
  | _ => none

/-- The packages that a document declares, with their versions. -/
def declared? (content : Text) : Option (List (String × String)) :=
  match Document.read content with
  | .ok (.obj fields) =>
      match getField? "dependencies" fields with
      | some (.obj packages) => packages.mapM textField?
      | _ => none
  | _ => none

/-- The package that a row requires: its name, two equality signs, its version. -/
def required? (row : Text) : Option (String × String) :=
  match row.dropWhile (· ≠ '=') with
  | '=' :: '=' :: version => some (String.ofList (row.takeWhile (· ≠ '=')), String.ofList version)
  | _ => none

/-- The packages that a list of requirements names. Its last row ends with a line feed. -/
def requirements? (content : Text) : Option (List (String × String)) :=
  (Text.splitOn '\n' content).dropLast.mapM required?

/-- The packages that the manifest at a path lists. -/
def listed? (path : String) (content : Text) : Option (List (String × String)) :=
  if path = "package.json" then declared? content else requirements? content

/-- A document with either list of packages declares just these. -/
theorem declared?_manifest
    {packages : List (String × String)}
    (h : packages ∈ [Braced.basePackages, Braced.basePackages ++ Braced.voicePackages]) :
    declared? (Document.print (Exporter.manifest Braced.dialect packages) ++ ['\n']) =
      some packages := by
  revert packages
  decide +kernel

/-- A row for a package. -/
def requirement (package : String × String) : Text :=
  package.1.toList ++ "==".toList ++ package.2.toList ++ ['\n']

end Manifest

namespace Offside

/-- The lists of packages that a program can need. -/
def packageLists : List (List (String × String)) :=
  [basePackages, basePackages ++ requestPackages, basePackages ++ voicePackages,
   basePackages ++ requestPackages ++ voicePackages]

/-- A program needs the packages of the library, perhaps that for requests, perhaps that for
voice. -/
theorem dependencies_mem
    (program : Text)
    (types : List String) :
    dependencies program types ∈ packageLists := by
  unfold dependencies packageLists
  split <;> split <;> simp

/-- The package for requests is needed if a block sends some, or if the program names its import;
that for voice is needed if a block uses voice channels. -/
theorem mem_dependencies_iff
    {program : Text}
    {types : List String}
    {package : String} :
    package ∈ (dependencies program types).map Prod.fst ↔
      package ∈ basePackages.map Prod.fst ∨
      package ∈ requestPackages.map Prod.fst ∧
        (usesAny types requestTypes = true ∨ requestPhrase <:+: program) ∨
      package ∈ voicePackages.map Prod.fst ∧ usesAny types voiceTypes = true := by
  have hlist : ∀ sends speaks : Bool,
      package ∈ (basePackages ++ (if sends then requestPackages else []) ++
        (if speaks then voicePackages else [])).map Prod.fst ↔
      package ∈ basePackages.map Prod.fst ∨
      package ∈ requestPackages.map Prod.fst ∧ sends = true ∨
      package ∈ voicePackages.map Prod.fst ∧ speaks = true := by
    intro sends speaks
    cases sends <;> cases speaks <;> simp
  rw [← Text.occursIn_iff, ← Bool.or_eq_true]
  exact hlist _ _

/-- The packages that a program needs depend on what asks for the optional ones. -/
theorem dependencies_congr
    {program program' : Text}
    {types types' : List String}
    (hrequests : usesAny types' requestTypes = true ∨ requestPhrase <:+: program' ↔
      usesAny types requestTypes = true ∨ requestPhrase <:+: program)
    (hvoice : usesAny types' voiceTypes = true ↔ usesAny types voiceTypes = true) :
    dependencies program' types' = dependencies program types := by
  rw [← Text.occursIn_iff, ← Text.occursIn_iff, ← Bool.or_eq_true, ← Bool.or_eq_true] at hrequests
  exact congrArg₂ (fun sends speaks : Bool => basePackages ++
    (if sends then requestPackages else []) ++ (if speaks then voicePackages else []))
    (Bool.eq_iff_iff.2 hrequests) (Bool.eq_iff_iff.2 hvoice)

/-- The language with suites is a target language. -/
theorem dialect_mem_all :
    dialect ∈ Dialect.all :=
  List.mem_cons_of_mem _ List.mem_cons_self

end Offside

namespace Braced

/-- The packages for voice are needed if a block uses voice channels, or if the program names the
library. -/
theorem mem_dependencies_iff
    {program : Text}
    {types : List String}
    {package : String} :
    package ∈ (dependencies program types).map Prod.fst ↔
      package ∈ basePackages.map Prod.fst ∨
      package ∈ voicePackages.map Prod.fst ∧
        (usesAny types voiceTypes = true ∨ voicePhrase <:+: program) := by
  have hlist : ∀ speaks : Bool,
      package ∈ (if speaks then basePackages ++ voicePackages else basePackages).map Prod.fst ↔
      package ∈ basePackages.map Prod.fst ∨
        package ∈ voicePackages.map Prod.fst ∧ speaks = true := by
    intro speaks
    cases speaks <;> simp
  rw [← Text.occursIn_iff, ← Bool.or_eq_true]
  exact hlist _

/-- The packages that a program needs depend on what asks for the optional ones. -/
theorem dependencies_congr
    {program program' : Text}
    {types types' : List String}
    (h : usesAny types' voiceTypes = true ∨ voicePhrase <:+: program' ↔
      usesAny types voiceTypes = true ∨ voicePhrase <:+: program) :
    dependencies program' types' = dependencies program types := by
  rw [← Text.occursIn_iff, ← Text.occursIn_iff, ← Bool.or_eq_true, ← Bool.or_eq_true] at h
  exact congrArg (fun speaks : Bool => if speaks then basePackages ++ voicePackages else basePackages)
    (Bool.eq_iff_iff.2 h)

/-- The language with braces is a target language. -/
theorem dialect_mem_all :
    dialect ∈ Dialect.all :=
  List.mem_cons_self

end Braced

/-- The rows of any of these lists name just these packages. -/
theorem Manifest.requirements?_requirement
    {packages : List (String × String)}
    (h : packages ∈ Offside.packageLists) :
    requirements? (packages.flatMap requirement) = some packages := by
  revert packages
  decide +kernel

/-- A project installs a package: the manifest lists it. -/
def Project.Installs (p : Project) (d : Dialect) (package : String) : Prop :=
  ∃ f packages, p.file? d.manifestPath = some f ∧
    Manifest.listed? d.manifestPath f.content.toList = some packages ∧
    package ∈ packages.map Prod.fst

namespace Exporter

variable {x : Exporter}
variable {r : ExportRequest}
variable {p : Project}

/-- Repeating the row of a requirement for each package gives a row for each. -/
theorem repeated_requirement
    (context : Context)
    (packages : List (String × String)) :
    Template.repeated
        (fun context => Template.render context
          [.shown (.named "name"), .text "==", .shown (.named "version"), .text "\n"])
        context "name" "version" (packages.map fun (name, version) => (name, .str version)) =
      .ok (packages.flatMap Manifest.requirement) := by
  induction packages with
  | nil => rfl
  | cons package rest ih =>
      obtain ⟨name, version⟩ := package
      have hrow : Template.render (("name", .str name) :: ("version", .str version) :: context)
          [.shown (.named "name"), .text "==", .shown (.named "version"), .text "\n"] =
            .ok (Manifest.requirement (name, version)) := by
        simp only [Manifest.requirement, List.append_assoc]
        rfl
      rw [List.map_cons, Template.repeated, hrow, ih]
      rfl

/-- The manifest of a program with suites has a row for each package. -/
theorem requirements_eq
    {packages : List (String × String)}
    {content : String}
    (h : render (x.context Offside.dialect r packages) (manifestTemplate "requirements.txt") =
      .ok content) :
    content.toList = packages.flatMap Manifest.requirement := by
  have htext : Template.render (x.context Offside.dialect r packages) Documents.requirements =
      .ok (packages.flatMap Manifest.requirement ++ []) := by
    have hrows := repeated_requirement (x.context Offside.dialect r packages) packages
    rw [Documents.requirements, Template.render, Template.renderPart]
    show ((Template.repeated _ _ "name" "version" (packages.map _)).bind _) = _
    rw [hrows]
    rfl
  have hcontent := (render_ok h).symm.trans htext
  rw [List.append_nil] at hcontent
  exact Except.ok.inj hcontent

/-- A project and the dialect and program that it was made from. -/
structure MadeFrom (x : Exporter) (r : ExportRequest) (p : Project) (d : Dialect)
    (program : Text) : Prop where
  dialect : d ∈ Dialect.all
  language : d.language = r.language
  emitted : d.program x.catalog x.config.traversal r.canvas = .ok program
  dependencies : p.dependencies = d.dependencies program r.canvas.types
  entry : p.file? d.entryPoint = some ⟨d.entryPoint, String.ofList program⟩
  manifest : ∃ content, p.file? d.manifestPath = some ⟨d.manifestPath, content⟩ ∧
    render (x.context d r p.dependencies) (manifestTemplate d.manifestPath) = .ok content

/-- Every project was made from a program in the dialect of its language. -/
theorem exists_madeFrom
    (h : x.project r = .ok p) :
    ∃ d program, x.MadeFrom r p d program := by
  unfold project at h
  cases hdialect : Dialect.ofLanguage r.language with
  | error e =>
      rw [hdialect] at h
      cases h
  | ok d =>
      rw [hdialect] at h
      replace h : x.projectIn d r = .ok p := h
      obtain ⟨hd, hlanguage⟩ := Dialect.mem_of_ofLanguage hdialect
      obtain ⟨program, manifest, readme, environment, hprogram, hmanifest, -, -, hfiles⟩ :=
        exists_files h
      have hdependencies : p.dependencies = d.dependencies program r.canvas.types := by
        unfold projectIn at h
        rw [hprogram] at h
        obtain ⟨_, hsame, h⟩ := exists_of_bind h
        obtain rfl : program = _ := Except.ok.inj hsame
        obtain ⟨_, -, h⟩ := exists_of_bind h
        obtain ⟨_, -, h⟩ := exists_of_bind h
        obtain ⟨_, -, h⟩ := exists_of_bind h
        obtain ⟨_, -, h⟩ := exists_of_bind h
        rw [← Except.ok.inj h]
      have hpaths : d.entryPoint ≠ d.manifestPath := by
        rcases Dialect.mem_all.1 hd with rfl | rfl
        · decide
        · decide
      refine ⟨d, program, hd, hlanguage, hprogram, hdependencies, ?_, manifest, ?_, ?_⟩
      · simp [Project.file?, hfiles]
      · simp [Project.file?, hfiles, beq_false_of_ne hpaths]
      · rw [hdependencies]
        exact hmanifest

/-- A project in a language was made in its dialect. -/
theorem exists_madeFrom_of_language
    {d : Dialect}
    (hd : d ∈ Dialect.all)
    (h : x.project r = .ok p)
    (hlanguage : r.language = d.language) :
    ∃ program, x.MadeFrom r p d program := by
  have hsame : ∀ d' ∈ Dialect.all, d'.language = d.language → d' = d := by
    simp only [Dialect.mem_all] at hd ⊢
    rintro d' (rfl | rfl) hname
    · rcases hd with rfl | rfl
      · rfl
      · exact absurd hname (by decide)
    · rcases hd with rfl | rfl
      · exact absurd hname (by decide)
      · rfl
  obtain ⟨d', program, hmade⟩ := exists_madeFrom h
  obtain rfl := hsame d' hmade.dialect (hmade.language.trans hlanguage)
  exact ⟨program, hmade⟩

/-- The manifest of a project lists just the packages of the answer. -/
theorem MadeFrom.listed_dependencies
    {d : Dialect}
    {program : Text}
    (h : x.MadeFrom r p d program) :
    ∃ f, p.file? d.manifestPath = some f ∧
      Manifest.listed? d.manifestPath f.content.toList = some p.dependencies := by
  obtain ⟨content, hfile, hcontent⟩ := h.manifest
  refine ⟨_, hfile, ?_⟩
  have hpackages := h.dependencies
  rcases List.mem_cons.1 h.dialect with rfl | hd
  · have hmem : p.dependencies ∈
        [Braced.basePackages, Braced.basePackages ++ Braced.voicePackages] := by
      rw [hpackages]
      exact Braced.dependencies_mem _ _
    rw [manifest_eq hcontent, String.toList_ofList]
    exact Manifest.declared?_manifest hmem
  · obtain rfl := List.mem_singleton.1 hd
    have hmem : p.dependencies ∈ Offside.packageLists := by
      rw [hpackages]
      exact Offside.dependencies_mem _ _
    rw [requirements_eq hcontent]
    exact Manifest.requirements?_requirement hmem

/-- The packages that the program needs are installed, and no others. -/
theorem MadeFrom.installs_iff
    {d : Dialect}
    {program : Text}
    (h : x.MadeFrom r p d program)
    {package : String} :
    p.Installs d package ↔
      package ∈ (d.dependencies program r.canvas.types).map Prod.fst := by
  obtain ⟨f, hf, hlisted⟩ := h.listed_dependencies
  rw [← h.dependencies]
  constructor
  · rintro ⟨f', packages, hf', hpackages, hmem⟩
    obtain rfl : f = f' := Option.some.inj (hf.symm.trans hf')
    obtain rfl : p.dependencies = packages := Option.some.inj (hlisted.symm.trans hpackages)
    exact hmem
  · intro hmem
    exact ⟨f, p.dependencies, hf, hlisted, hmem⟩

end Exporter

end BotCanvas
