import BotCanvas.Proofs.Project.Checks
import BotCanvas.Proofs.Project.Totality

/-!
# Credentials stay in the environment

The credentials of a request are part of the one context that all documents of a project are
rendered in. A document sees no more of that context than the values it mentions
(`Template.render_congr`), and of all documents only the environment mentions the credentials, and
nothing else. So two exports that differ in the credentials differ in the environment at most, and
the environment depends on nothing but the credentials, whatever texts these are.
-/

namespace BotCanvas

/-! ## What a template mentions -/

namespace Term

/-- The value of the context that a term starts from. -/
def root : Term → String
  | named name => name
  | field name _ => name

end Term

mutual

/-- The values of the context that a part mentions. Names that a repeated part binds count too. -/
def TemplatePart.mentions : TemplatePart → List String
  | .text _ => []
  | .shown t => [t.root]
  | .padded _ t => [t.root]
  | .oneLine t => [t.root]
  | .document name => [name]
  | .given t body => t.root :: Template.mentions body
  | .each t _ _ body => t.root :: Template.mentions body

/-- The values of the context that a template mentions. -/
def Template.mentions : List TemplatePart → List String
  | [] => []
  | part :: rest => part.mentions ++ Template.mentions rest

end

namespace Template

variable {context context' : Context}
variable {names more : List String}

/-- Two contexts with the same values under some names. -/
def Agree (names : List String) (context context' : Context) : Prop :=
  ∀ name ∈ names, getField? name context = getField? name context'

namespace Agree

theorem append_iff :
    Agree (names ++ more) context context' ↔
      Agree names context context' ∧ Agree more context context' := by
  simp only [Agree, List.forall_mem_append]

theorem cons_iff
    {name : String} :
    Agree (name :: more) context context' ↔
      getField? name context = getField? name context' ∧ Agree more context context' := by
  simp only [Agree, List.forall_mem_cons]

/-- One more value in both contexts. -/
theorem cons
    (h : Agree names context context')
    (field : String × Value) :
    Agree names (field :: context) (field :: context') := by
  intro name hname
  rw [getField?, getField?, h name hname]

/-- A value under another name has no say. -/
theorem setField
    {key : String}
    (hkey : key ∉ names)
    (v : Value)
    (context : Context) :
    Agree names context (setField key v context) := by
  intro name hname
  have hne : key ≠ name := by
    rintro rfl
    exact hkey hname
  rw [getField?_setField_of_ne hne]

end Agree

/-- A term has the same value where its root has. -/
theorem value_congr
    {t : Term}
    (h : getField? t.root context = getField? t.root context') :
    t.value context = t.value context' := by
  cases t with
  | named name =>
      rw [Term.root] at h
      rw [Term.value, Term.value, h]
  | field name key =>
      rw [Term.root] at h
      rw [Term.value, Term.value, h]

/-- Repeating a part gives the same text if the part does for every field. -/
theorem repeated_congr
    {body : Context → Except RenderError Text}
    {key value : String}
    (h : ∀ k v, body ((key, .str k) :: (value, v) :: context) =
      body ((key, .str k) :: (value, v) :: context'))
    (fields : List (String × Value)) :
    repeated body context key value fields = repeated body context' key value fields := by
  induction fields with
  | nil => rfl
  | cons field fields ih =>
      obtain ⟨k, v⟩ := field
      rw [repeated, repeated, h, ih]

mutual

/-- The text of a part depends on the values that the part mentions. -/
theorem renderPart_congr
    {context context' : Context}
    (part : TemplatePart)
    (h : Agree part.mentions context context') :
    renderPart context part = renderPart context' part := by
  cases part with
  | text s => rfl
  | shown t =>
      rw [renderPart, renderPart, value_congr (h _ (List.mem_singleton_self _))]
  | padded width t =>
      rw [renderPart, renderPart, value_congr (h _ (List.mem_singleton_self _))]
  | oneLine t =>
      rw [renderPart, renderPart, value_congr (h _ (List.mem_singleton_self _))]
  | document name =>
      rw [renderPart, renderPart, h _ (List.mem_singleton_self _)]
  | given t body =>
      rw [TemplatePart.mentions, Agree.cons_iff] at h
      rw [renderPart, renderPart, value_congr h.1, render_congr body h.2]
  | each t key value body =>
      rw [TemplatePart.mentions, Agree.cons_iff] at h
      rw [renderPart, renderPart, Term.entries, Term.entries, value_congr h.1]
      refine congrArg _ (funext fun fields => ?_)
      exact repeated_congr (fun k v => render_congr body ((h.2.cons _).cons _)) fields

/-- The text of a template depends on the values that the template mentions. -/
theorem render_congr
    {context context' : Context}
    (t : List TemplatePart)
    (h : Agree (mentions t) context context') :
    render context t = render context' t := by
  cases t with
  | nil => rfl
  | cons part rest =>
      rw [mentions, Agree.append_iff] at h
      rw [render, render, renderPart_congr part h.1, render_congr rest h.2]

end

end Template

/-! ## Projects -/

namespace Project

/-- Projects that differ in the environment at most. -/
structure AgreesButEnvironment (p q : Project) : Prop where
  paths : q.files.map GeneratedFile.path = p.files.map GeneratedFile.path
  contents : q.files.filter (fun f => f.path != environmentPath) =
    p.files.filter (fun f => f.path != environmentPath)
  dependencies : q.dependencies = p.dependencies
  instructions : q.instructions = p.instructions

end Project

namespace Exporter

open Template (Agree mentions)

variable (x : Exporter)
variable {d : Dialect}
variable {r : ExportRequest}
variable {p : Project}

/-- Contexts of requests that differ in the credentials agree on everything else. -/
theorem agree_context
    (r : ExportRequest)
    {names : List String}
    (hnames : "settings" ∉ names)
    (c : Credentials)
    (packages : List (String × String)) :
    Agree names (x.context d r packages)
      (x.context d { r with credentials := c } packages) := by
  have hset : x.context d { r with credentials := c } packages =
      setField "settings" (credentials c) (x.context d r packages) := by
    simp [context, setField, counts]
  rw [hset]
  exact Agree.setField hnames _ _

/-- A document that does not mention the credentials is the same for all of them. -/
theorem render_of_credentials
    {t : Template}
    (ht : "settings" ∉ mentions t)
    (c : Credentials)
    (packages : List (String × String)) :
    render (x.context d { r with credentials := c } packages) t =
      render (x.context d r packages) t := by
  unfold render
  rw [Template.render_congr t (x.agree_context r ht c packages)]

/-- The environment mentions nothing but the credentials. -/
theorem render_environment_of_credentials
    {x' : Exporter}
    {d' : Dialect}
    {r' : ExportRequest}
    (h : r'.credentials = r.credentials)
    (packages packages' : List (String × String)) :
    render (x'.context d' r' packages') Documents.environment =
      render (x.context d r packages) Documents.environment := by
  have hagree : Agree (mentions Documents.environment) (x'.context d' r' packages')
      (x.context d r packages) := by
    have hmentions : ∀ name ∈ mentions Documents.environment, name = "settings" := by
      decide
    intro name hname
    obtain rfl := hmentions name hname
    simp [context, getField?, h]
  unfold render
  rw [Template.render_congr _ hagree]

/-- The manifest of no dialect mentions the credentials. -/
theorem settings_not_mem_manifestTemplate
    (path : String) :
    "settings" ∉ mentions (manifestTemplate path) := by
  unfold manifestTemplate
  split <;> decide

theorem settings_not_mem_readme :
    "settings" ∉ mentions Documents.readme := by
  decide

theorem settings_not_mem_instructions :
    "settings" ∉ mentions Documents.instructions := by
  decide

/-- Two programs that are the same become projects that differ in the environment at most. -/
theorem exists_projectIn_of_credentials
    {program : Text}
    (hprogram : d.program x.catalog x.config.traversal r.canvas = .ok program)
    (c : Credentials) :
    ∃ p q, x.projectIn d r = .ok p ∧ x.projectIn d { r with credentials := c } = .ok q ∧
      p.AgreesButEnvironment q := by
  have hsame : ∀ {t : Template}, "settings" ∉ mentions t →
      render (x.context d { r with credentials := c }
          (d.dependencies program r.canvas.types)) t =
        render (x.context d r (d.dependencies program r.canvas.types)) t :=
    fun ht => x.render_of_credentials ht c _
  obtain ⟨manifest, hmanifest⟩ := exists_render
    (x.renders_manifest d r (d.dependencies program r.canvas.types) d.manifestPath)
  obtain ⟨readme, hreadme⟩ := exists_render
    (x.renders_readme d r (d.dependencies program r.canvas.types))
  obtain ⟨instructions, hinstructions⟩ := exists_render
    (x.renders_instructions d r (d.dependencies program r.canvas.types))
  obtain ⟨environment, henvironment⟩ := exists_render
    (x.renders_environment d r (d.dependencies program r.canvas.types))
  obtain ⟨environment', henvironment'⟩ := exists_render
    (x.renders_environment d { r with credentials := c } (d.dependencies program r.canvas.types))
  have hfiles : ∀ environment : String,
      [⟨d.entryPoint, String.ofList program⟩, ⟨d.manifestPath, manifest⟩,
        ⟨Project.readmePath, readme⟩, ⟨Project.environmentPath, environment⟩].filter
          (fun f : GeneratedFile => f.path != Project.environmentPath) =
        [⟨d.entryPoint, String.ofList program⟩, ⟨d.manifestPath, manifest⟩,
          ⟨Project.readmePath, readme⟩].filter
            fun f : GeneratedFile => f.path != Project.environmentPath := by
    intro environment
    simp [List.filter_cons]
  refine ⟨⟨[⟨d.entryPoint, String.ofList program⟩, ⟨d.manifestPath, manifest⟩,
      ⟨Project.readmePath, readme⟩, ⟨Project.environmentPath, environment⟩],
      d.dependencies program r.canvas.types, instructions⟩,
    ⟨[⟨d.entryPoint, String.ofList program⟩, ⟨d.manifestPath, manifest⟩,
      ⟨Project.readmePath, readme⟩, ⟨Project.environmentPath, environment'⟩],
      d.dependencies program r.canvas.types, instructions⟩, ?_, ?_, rfl, ?_, rfl, rfl⟩
  · unfold projectIn
    simp only [hprogram, Except.mapError, bind, Except.bind, hmanifest, hreadme, henvironment,
      hinstructions]
  · unfold projectIn
    simp only [hprogram, Except.mapError, bind, Except.bind, henvironment',
      hsame (settings_not_mem_manifestTemplate _), hsame settings_not_mem_readme,
      hsame settings_not_mem_instructions, hmanifest, hreadme, hinstructions]
  · exact (hfiles environment').trans (hfiles environment).symm

/-- The environment of a project is the document of that name. -/
theorem exists_render_environment
    (h : x.project r = .ok p) :
    ∃ d packages content, render (x.context d r packages) Documents.environment = .ok content ∧
      p.file? Project.environmentPath = some ⟨Project.environmentPath, content⟩ := by
  unfold project at h
  cases hdialect : Dialect.ofLanguage r.language with
  | error e =>
      rw [hdialect] at h
      cases h
  | ok d =>
      rw [hdialect] at h
      replace h : x.projectIn d r = .ok p := h
      obtain ⟨program, manifest, readme, environment, -, -, -, henvironment, hfiles⟩ :=
        exists_files h
      have hpaths : ∀ d ∈ Dialect.all, d.entryPoint ≠ Project.environmentPath ∧
          d.manifestPath ≠ Project.environmentPath := by
        simp only [Dialect.all, List.forall_mem_cons]
        decide
      obtain ⟨hentry, hmanifest⟩ := hpaths d (Dialect.mem_of_ofLanguage hdialect).1
      have hreadme : Project.readmePath ≠ Project.environmentPath := by decide
      refine ⟨d, d.dependencies program r.canvas.types, environment, henvironment, ?_⟩
      simp [Project.file?, hfiles, beq_false_of_ne hentry, beq_false_of_ne hmanifest,
        beq_false_of_ne hreadme]

/--
Exports that differ in the credentials fail alike, or make projects that differ in the environment at
most: the paths, all other files, the packages and the instructions are the same. And the environment
is the same for equal credentials, whatever the catalog, the order, the language and the canvas are.
-/
theorem project_of_credentials
    (r : ExportRequest)
    (c : Credentials) :
    ((∃ e, x.project r = .error e ∧ x.project { r with credentials := c } = .error e) ∨
      ∃ p q, x.project r = .ok p ∧ x.project { r with credentials := c } = .ok q ∧
        p.AgreesButEnvironment q) ∧
    ∀ (x' : Exporter) (r' : ExportRequest) (p p' : Project), r'.credentials = r.credentials →
      x.project r = .ok p → x'.project r' = .ok p' →
      ∃ f, p.file? Project.environmentPath = some f ∧
        p'.file? Project.environmentPath = some f := by
  constructor
  · unfold project
    cases hdialect : Dialect.ofLanguage r.language with
    | error e => exact .inl ⟨.unsupported e, rfl, rfl⟩
    | ok d =>
        show (∃ e, x.projectIn d r = .error e ∧
            x.projectIn d { r with credentials := c } = .error e) ∨
          ∃ p q, x.projectIn d r = .ok p ∧ x.projectIn d { r with credentials := c } = .ok q ∧
            p.AgreesButEnvironment q
        -- the program does not look at the credentials, and documents are always rendered
        cases hprogram : d.program x.catalog x.config.traversal r.canvas with
        | error e =>
            refine .inl ⟨.number e, ?_, ?_⟩
            · unfold projectIn
              rw [hprogram]
              rfl
            · unfold projectIn
              rw [hprogram]
              rfl
        | ok program => exact .inr (x.exists_projectIn_of_credentials hprogram c)
  · intro x' r' p p' hcredentials hp hp'
    obtain ⟨d, packages, content, hcontent, hfile⟩ := x.exists_render_environment hp
    obtain ⟨d', packages', content', hcontent', hfile'⟩ := x'.exists_render_environment hp'
    rw [x.render_environment_of_credentials hcredentials packages packages', hcontent] at hcontent'
    obtain rfl := Except.ok.inj hcontent'
    exact ⟨_, hfile, hfile'⟩

/-- Credentials that spell out a line of the environment, a template and code. -/
def spelledCredentials : Credentials :=
  ⟨"T\nPREFIX={{ settings.bot_token }}", "'); process.exit(", some "!"⟩

/-- They change nothing but the environment of a bot, and that is the environment of any bot. -/
theorem project_of_spelledCredentials :
    ∃ p q p', standard.project (pausingRequest "discord.js" (.int 5) (.int 1)) = .ok p ∧
      standard.project
        { pausingRequest "discord.js" (.int 5) (.int 1) with credentials := spelledCredentials } =
          .ok q ∧
      p.AgreesButEnvironment q ∧
      standard.project ⟨.empty, "discord.py", spelledCredentials⟩ = .ok p' ∧
      ∃ f, q.file? Project.environmentPath = some f ∧
        p'.file? Project.environmentPath = some f := by
  obtain ⟨p, hp⟩ := exists_project (x := standard)
    (r := pausingRequest "discord.js" (.int 5) (.int 1)) (by decide) (by decide +kernel)
  obtain ⟨p', hp'⟩ := exists_project (x := standard)
    (r := ⟨.empty, "discord.py", spelledCredentials⟩) (by decide) (by decide)
  obtain ⟨e, he, -⟩ | ⟨p₁, q, hp₁, hq, hagree⟩ :=
    (standard.project_of_credentials (pausingRequest "discord.js" (.int 5) (.int 1))
      spelledCredentials).1
  · rw [hp] at he
    cases he
  · refine ⟨p₁, q, p', hp₁, hq, hagree, hp', ?_⟩
    exact (standard.project_of_credentials
      { pausingRequest "discord.js" (.int 5) (.int 1) with credentials := spelledCredentials }
      .none).2 standard ⟨.empty, "discord.py", spelledCredentials⟩ q p' rfl hq hp'

end Exporter

end BotCanvas
