import BotCanvas.Project.Export
import BotCanvas.Proofs.Braced.Runs
import BotCanvas.Proofs.Offside.Runs

/-!
# Exports come to an end

An export into a target language fails for one reason: a block on the canvas counts something that
is out of range. The documents around a program find everything they refer to, whatever the canvas,
the catalog and the credentials hold.
-/

namespace BotCanvas

namespace Template

/-- A template that has a text in a context. -/
def Renders (context : Context) (t : List TemplatePart) : Prop :=
  ∃ text, render context t = .ok text

namespace Renders

variable {context : Context}
variable {rest body : List TemplatePart}
variable {t : Term}

theorem nil :
    Renders context [] :=
  ⟨[], rfl⟩

/-- A part that has a text, before parts that have one. -/
theorem cons
    {part : TemplatePart}
    {s : Text}
    (hfirst : renderPart context part = .ok s)
    (hrest : Renders context rest) :
    Renders context (part :: rest) := by
  obtain ⟨others, hothers⟩ := hrest
  refine ⟨s ++ others, ?_⟩
  rw [render, hfirst, hothers]
  rfl

theorem text
    (s : String)
    (hrest : Renders context rest) :
    Renders context (.text s :: rest) :=
  cons (s := s.toList) rfl hrest

theorem shown
    {v : Value}
    (ht : t.value context = .ok v)
    (hrest : Renders context rest) :
    Renders context (.shown t :: rest) :=
  cons (by rw [renderPart, ht]; rfl) hrest

theorem padded
    {width : Nat}
    {v : Value}
    (ht : t.value context = .ok v)
    (hrest : Renders context rest) :
    Renders context (.padded width t :: rest) :=
  cons (by rw [renderPart, ht]; rfl) hrest

theorem oneLine
    {v : Value}
    (ht : t.value context = .ok v)
    (hrest : Renders context rest) :
    Renders context (.oneLine t :: rest) :=
  cons (by rw [renderPart, ht]; rfl) hrest

theorem document
    {name : String}
    {v : Value}
    (hname : getField? name context = some v)
    (hrest : Renders context rest) :
    Renders context (.document name :: rest) :=
  cons (by rw [renderPart, hname]; rfl) hrest

/-- Parts that stand or not have a text in either case. -/
theorem given
    {v : Value}
    (ht : t.value context = .ok v)
    (hbody : Renders context body)
    (hrest : Renders context rest) :
    Renders context (.given t body :: rest) := by
  obtain ⟨inner, hinner⟩ := hbody
  by_cases hv : v.isPresent = true
  · refine cons (s := inner) ?_ hrest
    rw [renderPart, ht, ← hinner]
    exact if_pos hv
  · refine cons (s := []) ?_ hrest
    rw [renderPart, ht]
    exact if_neg hv

/-- Parts that are repeated have a text if they have one for every field. -/
theorem each
    {key value : String}
    {fields : List (String × Value)}
    (ht : t.entries context = .ok fields)
    (hbody : ∀ k v, Renders ((key, .str k) :: (value, v) :: context) body)
    (hrest : Renders context rest) :
    Renders context (.each t key value body :: rest) := by
  have hfields : ∀ fields : List (String × Value), ∃ text,
      repeated (fun context => render context body) context key value fields = .ok text := by
    intro fields
    induction fields with
    | nil => exact ⟨[], rfl⟩
    | cons p fields ih =>
        obtain ⟨k, v⟩ := p
        obtain ⟨others, hothers⟩ := ih
        obtain ⟨first, hfirst⟩ := hbody k v
        refine ⟨first ++ others, ?_⟩
        rw [repeated, hfirst, hothers]
        rfl
  obtain ⟨inner, hinner⟩ := hfields fields
  refine cons (s := inner) ?_ hrest
  rw [renderPart, ht, ← hinner]
  rfl

end Renders

end Template

/-- The dialect of a target language is the one of that name. -/
theorem Dialect.mem_of_ofLanguage
    {language : String}
    {d : Dialect}
    (h : ofLanguage language = .ok d) :
    d ∈ all ∧ d.language = language := by
  unfold ofLanguage at h
  cases hfound : all.find? (fun d => d.language == language) with
  | none =>
      rw [hfound] at h
      cases h
  | some found =>
      rw [hfound] at h
      cases h
      exact ⟨List.mem_of_find?_eq_some hfound, by simpa using List.find?_some hfound⟩

namespace Exporter

open Template (Renders)

section Documents

variable (x : Exporter)
variable (d : Dialect)
variable (r : ExportRequest)
variable (packages : List (String × String))

theorem renders_readme :
    Renders (x.context d r packages) Documents.readme := by
  refine .text _ <| .shown rfl <| .text _ <| .given rfl ?_ <| .given rfl ?_ <| .given rfl ?_ <|
    .text _ <| .shown rfl <| .text _ <| .shown rfl <| .text _ <| .padded rfl <| .text _ <|
    .padded rfl <| .text _ <| .each rfl (fun name version => ?_) <| .text _ <| .shown rfl <|
    .text _ <| .shown rfl <| .text _ .nil
  · exact .text _ <| .shown rfl <| .text _ .nil
  · exact .text _ <| .shown rfl <| .text _ .nil
  · exact .text _ <| .shown rfl <| .text _ .nil
  · exact .text _ <| .shown rfl <| .text _ <| .shown rfl <| .text _ .nil

theorem renders_environment :
    Renders (x.context d r packages) Documents.environment := by
  refine .text _ <| .oneLine rfl <| .text _ <| .oneLine rfl <| .text _ <| .given rfl ?_ <|
    .text _ .nil
  exact .text _ <| .oneLine rfl <| .text _ .nil

theorem renders_instructions :
    Renders (x.context d r packages) Documents.instructions :=
  .text _ <| .shown rfl <| .text _ <| .shown rfl <| .text _ <| .shown rfl <| .text _ <|
    .shown rfl <| .text _ <| .shown rfl <| .text _ .nil

theorem renders_manifest
    (path : String) :
    Renders (x.context d r packages) (manifestTemplate path) := by
  unfold manifestTemplate
  split
  · exact .document rfl <| .text _ .nil
  · refine .each rfl (fun name version => ?_) .nil
    exact .shown rfl <| .text _ <| .shown rfl <| .text _ .nil

end Documents

/-- A document that has a text is rendered. -/
theorem exists_render
    {context : Context}
    {t : Template}
    (h : Renders context t) :
    ∃ content, render context t = .ok content := by
  obtain ⟨text, htext⟩ := h
  exact ⟨String.ofList text, by rw [render, htext]; rfl⟩

/-- A project ends only in the errors of its program. -/
theorem exists_project_of_program
    {x : Exporter}
    {d : Dialect}
    {r : ExportRequest}
    {program : Text}
    (h : d.program x.catalog x.config.traversal r.canvas = .ok program) :
    ∃ p, x.projectIn d r = .ok p := by
  obtain ⟨manifest, hmanifest⟩ := exists_render
    (x.renders_manifest d r (d.dependencies program r.canvas.types) d.manifestPath)
  obtain ⟨readme, hreadme⟩ := exists_render
    (x.renders_readme d r (d.dependencies program r.canvas.types))
  obtain ⟨environment, henvironment⟩ := exists_render
    (x.renders_environment d r (d.dependencies program r.canvas.types))
  obtain ⟨instructions, hinstructions⟩ := exists_render
    (x.renders_instructions d r (d.dependencies program r.canvas.types))
  refine ⟨⟨[⟨d.entryPoint, String.ofList program⟩, ⟨d.manifestPath, manifest⟩,
    ⟨Project.readmePath, readme⟩, ⟨Project.environmentPath, environment⟩],
    d.dependencies program r.canvas.types, instructions⟩, ?_⟩
  unfold projectIn
  simp only [h, Except.mapError, bind, Except.bind, hmanifest, hreadme, henvironment,
    hinstructions]

/-- What blocks count in a target language. -/
def quantities (language : String) : List Quantity :=
  if language = Offside.dialect.language then Offside.quantities else Braced.quantities

/-- A request for a target language is answered with a project if all quantities are in range. -/
theorem exists_project
    {x : Exporter}
    {r : ExportRequest}
    (hlanguage : r.language ∈ Dialect.languages)
    (hrange : ∀ b ∈ r.canvas.blocks,
      (Subject.mk x.catalog b).InRange (quantities r.language)) :
    ∃ p, x.project r = .ok p := by
  have hcases : r.language = Braced.dialect.language ∨ r.language = Offside.dialect.language := by
    simpa [Dialect.languages, Dialect.all] using hlanguage
  unfold project
  rcases hcases with h | h
  · rw [h] at hrange ⊢
    obtain ⟨program, hprogram⟩ := Braced.exists_program hrange x.config.traversal
    exact exists_project_of_program hprogram
  · rw [h] at hrange ⊢
    obtain ⟨program, hprogram⟩ := Offside.exists_program hrange x.config.traversal
    exact exists_project_of_program hprogram

/-- A request for a bot that silences a member and pauses when it is ready. -/
def pausingRequest (language : String) (minutes duration : Value) : ExportRequest where
  canvas :=
    ⟨[⟨"1", "event_listener", .zero, .zero, [("event", .str "ready")], "", ""⟩,
      ⟨"2", "member_timeout", .zero, .zero, [("userId", .str "7"), ("minutes", minutes)], "", ""⟩,
      ⟨"3", "wait", .zero, .zero, [("duration", duration)], "", ""⟩],
     []⟩
  language := language
  credentials := .none

end Exporter

end BotCanvas
