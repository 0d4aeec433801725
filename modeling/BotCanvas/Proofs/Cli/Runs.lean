import BotCanvas.Proofs.Cli.Commands
import BotCanvas.Proofs.Project.Deliveries

/-!
# Runs of a command line

A run reads the settings and the request, makes the project and delivers it. Every step can fail, and
for each it is said here how: the run ends with a report, or by one of few mishaps (`Mishap`); and the
files on the disk are those from before, the complete output, or a part of it that stands before an
obstacle (`Complete`, `Stopped`). `does_perform` puts the steps together.
-/

namespace BotCanvas

open Markup (HasCloser)

/-- A NUL in the path of an archive is one of the output that was asked for. -/
theorem Command.mem_of_hasNul_archivePath
    {output language : String}
    (h : (archivePath output language).HasNul) :
    '\x00' ∈ output.toList := by
  unfold archivePath at h
  dsimp only at h
  split at h
  · exact h.of_read
  · rcases h.of_append with h | h
    · exact h.of_read
    · rcases List.mem_append.1 h.of_read with hslug | hsuffix
      · exact absurd (Name.isSlugChar_of_mem_slug hslug) (by decide)
      · exact absurd hsuffix (by decide)

namespace Exporter

variable {x : Exporter}
variable {r : ExportRequest}
variable {p : Project}

/-- There is no project because of the language or because of a number. -/
theorem project_error
    {e : ExportError}
    (h : x.project r = .error e) :
    (∃ u, e = .unsupported u ∧ Dialect.ofLanguage r.language = .error u) ∨
      ∃ n, e = .number n := by
  unfold project at h
  rcases error_of_bind h with hlanguage | ⟨d, -, h⟩
  · obtain ⟨u, hu, rfl⟩ := exists_of_mapError hlanguage
    exact .inl ⟨u, rfl, hu⟩
  · right
    cases hprogram : d.program x.catalog x.config.traversal r.canvas with
    | ok program =>
        obtain ⟨p, hp⟩ := exists_project_of_program hprogram
        rw [hp] at h
        cases h
    | error n =>
        unfold projectIn at h
        rw [hprogram] at h
        exact ⟨n, (Except.error.inj h).symm⟩

/-- The archive of a project is made. -/
theorem exists_archive
    (h : x.project r = .ok p) :
    ∃ entries, x.archive p = .ok entries :=
  ⟨_, archive_of_project h x.config.compression⟩

end Exporter

namespace Command

section Meaning

variable (a : Arguments)
variable (environment : List (String × String))
variable (d : Disk)

/-- The settings, the request and the project that a command line asks for. -/
structure Exports (config : Config) (r : ExportRequest) (p : Project) : Prop where
  settings : Input.config a environment d = .ok config
  request : Input.request a d = .ok r
  project : (Exporter.mk .builtin config).project r = .ok p

/-- What ends a run without a report: a canvas path with a name of too many bytes, credentials that
are no credentials, a number out of range, an output path with a NUL, or a text of the user that is
taken for a closing tag. -/
inductive Mishap : Crash → Prop
  | name {e : DiskError} (h : d.exists? (.read a.canvas.toList) = .error e)
      (hlong : e.fault = .longName) :
      Mishap (.disk e)
  | pairing {e : PairingError} (h : Input.request a d = .error (.pairing e))
      (hunforeseen : e.isForeseen = false) :
      Mishap (.pairing e)
  | number {config : Config} {r : ExportRequest} {e : NumberError}
      (hconfig : Input.config a environment d = .ok config) (hr : Input.request a d = .ok r)
      (h : (Exporter.mk .builtin config).project r = .error (.number e)) :
      Mishap (.number e)
  | size {config : Config} {r : ExportRequest} {p : Project} {entries : List ArchiveEntry}
      {e : NumberError} (h : Exports a environment d config r p)
      (hentries : (Exporter.mk .builtin config).archive p = .ok entries)
      (hsize : formatSize (Archive.bytes entries).length = .error e) :
      Mishap (.number e)
  | output {e : DiskError} (h : e.fault = .unusable) (hnul : '\x00' ∈ a.output.toList) :
      Mishap (.disk e)
  | tag {e : MarkupError} (h : StrayCloser a environment d) :
      Mishap (.markup e)

/-- An ending by a mishap. -/
def Fails (e : Ending) : Prop :=
  ∃ c, e = .crash c ∧ Mishap a environment d c

/-- An ending by a report or by a mishap. -/
def Foreseen (e : Ending) : Prop :=
  e = .exit 1 ∨ Fails a environment d e

/-- The complete output is on the disk: the files of the project in the folder, or its archive. -/
inductive Complete (d' : Disk) : Prop
  | folder {config : Config} {r : ExportRequest} {p : Project}
      (h : Exports a environment d config r p) (hpreview : a.preview = false) (hzip : a.zip = false)
      (hsaved : Disk.Saved d d' (Exporter.targets (.read a.output.toList) p))
  | archive {config : Config} {r : ExportRequest} {p : Project} {entries : List ArchiveEntry}
      (h : Exports a environment d config r p) (hpreview : a.preview = false) (hzip : a.zip = true)
      (hentries : (Exporter.mk .builtin config).archive p = .ok entries)
      (hsaved : Disk.SavesFile d d' (archivePath a.output r.language) (.archive entries))

/-- The files of the project before one that cannot be saved are in the folder. -/
inductive Stopped (d' : Disk) : Prop
  | folder {config : Config} {r : ExportRequest} {p : Project}
      {saved rest : List (Path × GeneratedFile)} {t : Path × GeneratedFile} {e : DiskError}
      (h : Exports a environment d config r p) (hpreview : a.preview = false) (hzip : a.zip = false)
      (htargets : Exporter.targets (.read a.output.toList) p = saved ++ t :: rest)
      (hsaved : Disk.Saved d d' saved)
      (hobstacle : d'.save t.1 (.text t.2.content) = .error e)

/-- What an early end leaves behind: the files from before, a part of the output, or, if it comes
with a mishap, the complete output. -/
def Leaves (e : Ending) (d' : Disk) : Prop :=
  d.SameFiles d' ∨ Stopped a environment d d' ∨
    Fails a environment d e ∧ Complete a environment d d'

end Meaning

variable {a : Arguments}
variable {environment : List (String × String)}
variable {d : Disk}
variable {config : Config}
variable {r : ExportRequest}
variable {p : Project}

/-- A stray closing tag makes for a mishap. -/
theorem unclosed_fails
    (h : StrayCloser a environment d) :
    Unclosed (Fails a environment d) :=
  fun _ => ⟨_, rfl, .tag h⟩

theorem unclosed_foreseen
    (h : StrayCloser a environment d) :
    Unclosed (Foreseen a environment d) :=
  fun e => .inr (unclosed_fails h e)

/-! ## Steps of a run -/

theorem keeps_config :
    Keeps (given (Input.config a environment d)) (fun c => Input.config a environment d = .ok c)
      (Foreseen a environment d) := by
  refine keeps_given (.inl rfl) (fun e he hunforeseen => ?_) fun e he _ hcloser =>
    unclosed_foreseen (Input.strayCloser_of_config he hcloser)
  have hforeseen : e.isForeseen = true := Input.isReported_of_config he
  rw [hforeseen] at hunforeseen
  cases hunforeseen

theorem keeps_request :
    Keeps (given (Input.request a d)) (fun r => Input.request a d = .ok r)
      (Foreseen a environment d) :=
  keeps_given (.inl rfl) (fun _ hp hunforeseen => .inr ⟨_, rfl, .pairing hp hunforeseen⟩)
    fun _ he hreported hcloser =>
      unclosed_foreseen (Input.strayCloser_of_request he hreported hcloser)

/-- The project is made, unless the language is unknown or a number is out of range. -/
theorem keeps_project
    (hconfig : Input.config a environment d = .ok config)
    (hr : Input.request a d = .ok r) :
    Keeps (project ⟨.builtin, config⟩ r) (Exports a environment d config r)
      (Foreseen a environment d) := by
  have hlanguage : HasCloser r.language.toList → Unclosed (Foreseen a environment d) :=
    fun h => unclosed_foreseen ⟨_, .language hr, h⟩
  have hexported : Keeps (exported ((Exporter.mk .builtin config).project r))
      (Exports a environment d config r) (Foreseen a environment d) := by
    cases hproject : (Exporter.mk .builtin config).project r with
    | ok p => exact .pure ⟨hconfig, hr, hproject⟩
    | error e =>
        rcases Exporter.project_error hproject with ⟨u, rfl, hu⟩ | ⟨n, rfl⟩
        · show Keeps (report u.message.toList) _ _
          refine keeps_report ?_ ?_
          · exact .inl rfl
          · exact fun h => hlanguage (Dialect.hasCloser_of_unsupported hu h)
        · exact .finish (.inr ⟨_, rfl, .number hconfig hr hproject⟩)
  unfold project
  refine hexported.bind fun p hp => (keeps_showProgress ?_).bind fun _ _ => .pure hp
  intro report hreport hmessage
  obtain ⟨t, ht, hcloser⟩ := Exporter.Progress.hasCloser_of_message hmessage
  rw [Exporter.reports, List.mem_pair] at hreport
  rcases hreport with rfl | rfl
  · rw [List.mem_singleton.1 ht] at hcloser
    exact hlanguage hcloser
  · cases ht

/-- A preview leaves the disk as it is. -/
theorem keeps_preview
    (hconfig : Input.config a environment d = .ok config)
    (hr : Input.request a d = .ok r) :
    Keeps (preview ⟨.builtin, config⟩ r) (fun _ => True) (Foreseen a environment d) := by
  unfold preview
  refine (keeps_project hconfig hr).bind fun p _ => ?_
  refine keeps_succeed fun h => unclosed_foreseen ⟨_, .language hr, ?_⟩
  have hfront : '[' ∉ ("Previewed " ++ toString ((Exporter.mk .builtin config).preview p).length ++
      " files for ").toList :=
    not_mem_append (not_mem_append (by decide) (not_mem_toString _)) (by decide)
  exact hasCloser_of_append_right hfront h

/-- A mishap, once the output is complete. -/
theorem leaves_of_complete
    {d' : Disk}
    (hcomplete : Complete a environment d d')
    {e : Ending}
    (h : Fails a environment d e) :
    Foreseen a environment d e ∧ Leaves a environment d e d' :=
  ⟨.inr h, .inr (.inr ⟨h, hcomplete⟩)⟩

/-- An end before anything is changed. -/
theorem leaves_of_same
    {e : Ending}
    (h : Foreseen a environment d e) :
    Foreseen a environment d e ∧ Leaves a environment d e d :=
  ⟨h, .inl (.refl d)⟩

/-- An archive is written as a whole or not at all. -/
theorem does_archive
    (hpreview : a.preview = false)
    (hzip : a.zip = true)
    (hconfig : Input.config a environment d = .ok config)
    (hr : Input.request a d = .ok r) :
    Does (archive ⟨.builtin, config⟩ r a.output) d
      (fun _ d' => Complete a environment d d')
      (fun e d' => Foreseen a environment d e ∧ Leaves a environment d e d') := by
  unfold archive
  refine (keeps_project hconfig hr).bind_does (fun e => leaves_of_same) fun p hp => ?_
  obtain ⟨entries, hentries⟩ := Exporter.exists_archive hp.project
  rw [hentries]
  show Does (pure entries >>= _) _ _ _
  rw [pure_bind]
  refine (keeps_showProgress ?_).bind_does
    (fun e => leaves_of_same) fun _ _ => ?_
  · rw [List.forall_mem_singleton]
    intro hmessage
    obtain ⟨t, ht, -⟩ := Exporter.Progress.hasCloser_of_message hmessage
    cases ht
  · refine Does.seen.bind ?_
    rintro s _ ⟨rfl, hs⟩
    rw [hs]
    have htarget : HasCloser (archivePath a.output r.language).text →
        StrayCloser a environment d :=
      fun h => ⟨_, .archive hr, h⟩
    -- an obstacle leaves nothing but folders behind
    refine (keeps_written ?_ ?_ ?_).bind_does
      (fun e => leaves_of_same) fun disk hsave => ?_
    · exact .inl rfl
    · intro e he hfault
      exact .inr ⟨_, rfl, .output hfault
        (mem_of_hasNul_archivePath ((Disk.save_error he).hasNul hfault))⟩
    · exact fun e he hcloser => unclosed_foreseen (htarget ((Disk.save_error he).hasCloser hcloser))
    · have hcomplete : Complete a environment d disk :=
        .archive hp hpreview hzip hentries (Disk.save_ok hsave)
      refine (Does.changed disk fun _ _ => rfl).bind ?_
      rintro _ _ rfl
      split
      · exact .finish (leaves_of_complete hcomplete ⟨_, rfl, .size hp hentries ‹_›⟩)
      · refine (keeps_succeed fun h => ?_).does
          (fun _ _ => hcomplete) fun e => leaves_of_complete hcomplete
        rename_i size hsize
        exact unclosed_fails (htarget (hasCloser_of_wrote hsize h))

/-- A closing tag in the path of a file of the project is one of the user. -/
theorem strayCloser_of_target
    (hp : Exports a environment d config r p)
    {t : Path × GeneratedFile}
    (ht : t ∈ Exporter.targets (.read a.output.toList) p)
    (h : HasCloser t.1.text) :
    StrayCloser a environment d := by
  obtain ⟨f, hf, rfl⟩ := List.mem_map.1 ht
  exact ⟨_, .file ((Project.mem_paths hp.project).1 f hf), h⟩

/-- An obstacle to a file of the project is reported, unless the folder has a NUL in its path. -/
theorem keeps_obstacle
    (hp : Exports a environment d config r p)
    {t : Path × GeneratedFile}
    (ht : t ∈ Exporter.targets (.read a.output.toList) p)
    {e : DiskError}
    (habout : Disk.IsAbout e t.1) :
    Keeps (written (.error e : Except DiskError Unit)) (fun u => .error e = Except.ok u)
      (Foreseen a environment d) := by
  refine keeps_written (.inl rfl) ?_ ?_
  · rintro _ ⟨⟩ hfault
    obtain ⟨f, hf, rfl⟩ := List.mem_map.1 ht
    have hnul := ((Project.havePlainNames hp.project).plain f hf).hasNul_append.1
      (habout.hasNul hfault)
    exact .inr ⟨_, rfl, .output hfault hnul.of_read⟩
  · rintro _ ⟨⟩ hcloser
    exact unclosed_foreseen (strayCloser_of_target hp ht (habout.hasCloser hcloser))

/-- What is shown once all files are saved. -/
theorem does_showWritten
    (hp : Exports a environment d config r p)
    {d' : Disk}
    (hcomplete : Complete a environment d d') :
    Does (do
        written (.ok ())
        showProgress ⟨.builtin, config⟩ [.wrote p.files.length (.read a.output.toList)]
        for (path, _) in Exporter.targets (.read a.output.toList) p do
          let _ ← shown path.text
        succeed ("Exported " ++ r.language ++ " bot to " ++ a.output).toList) d'
      (fun _ d' => Complete a environment d d')
      (fun e d' => Foreseen a environment d e ∧ Leaves a environment d e d') := by
  show Does (pure () >>= _) _ _ _
  rw [pure_bind]
  refine (keeps_showProgress ?_).bind_does
    (fun e => leaves_of_complete hcomplete) fun _ _ => ?_
  · rw [List.forall_mem_singleton]
    intro hmessage
    obtain ⟨t, ht, hcloser⟩ := Exporter.Progress.hasCloser_of_message hmessage
    rw [List.mem_singleton.1 ht] at hcloser
    exact unclosed_fails ⟨_, .folder, hcloser⟩
  refine (Keeps.forIn fun t ht => ?_).bind_does
    (fun e => leaves_of_complete hcomplete) fun _ _ => ?_
  · exact (keeps_shown (shown_or_unclosed fun hcloser =>
      unclosed_fails (strayCloser_of_target hp ht hcloser))).bind fun _ _ => .pure rfl
  · refine (keeps_succeed fun h => unclosed_fails ?_).does
      (fun _ _ => hcomplete) fun e => leaves_of_complete hcomplete
    rcases hasCloser_of_exported h with h | h
    · exact ⟨_, .language hp.request, h⟩
    · exact ⟨_, .output, h⟩

/-- The files of a project are saved one after another, up to an obstacle if there is one. -/
theorem does_write
    (hpreview : a.preview = false)
    (hzip : a.zip = false)
    (hconfig : Input.config a environment d = .ok config)
    (hr : Input.request a d = .ok r) :
    Does (write ⟨.builtin, config⟩ r a.output) d
      (fun _ d' => Complete a environment d d')
      (fun e d' => Foreseen a environment d e ∧ Leaves a environment d e d') := by
  unfold write
  refine (keeps_project hconfig hr).bind_does (fun e => leaves_of_same) fun p hp => ?_
  refine Does.seen.bind ?_
  rintro s _ ⟨rfl, hs⟩
  rw [hs]
  have hsaving := Disk.exists_saved (Project.pairwise_apart hp.project (.read a.output.toList)) d
  show Does (modify _ >>= _) _ _ _
  refine (Does.changed (Exporter.saveAll d (Exporter.targets (.read a.output.toList) p)).2
    fun _ _ => rfl).bind ?_
  rintro _ _ rfl
  rcases hsaving with ⟨hok, hsaved⟩ | ⟨saved, t, rest, e, htargets, hsaved, hobstacle, herror⟩
  · rw [hok]
    exact does_showWritten hp (.folder hp hpreview hzip hsaved)
  · -- the files before the obstacle stay
    have ht : t ∈ Exporter.targets (.read a.output.toList) p := by
      rw [htargets]
      simp
    rw [herror]
    refine (keeps_obstacle hp ht (Disk.save_error hobstacle)).bind_does
      (fun e he => ⟨he, .inr (.inl ?_)⟩) nofun
    exact .folder hp hpreview hzip htargets hsaved hobstacle

/--
A run reads its input, makes the project and delivers it. It comes to its end with a preview or with
its complete output; or it ends early, with a report or by a mishap.
-/
theorem does_perform
    (a : Arguments)
    (environment : List (String × String))
    (d : Disk) :
    Does (perform a environment) d
      (fun _ d' => a.preview = true ∧ d' = d ∨ Complete a environment d d')
      (fun e d' => Foreseen a environment d e ∧ Leaves a environment d e d') := by
  unfold perform
  refine Does.seen.bind ?_
  rintro s _ ⟨rfl, hs⟩
  rw [hs]
  dsimp only
  cases hexists : d.exists? (.read a.canvas.toList) with
  | error e =>
      have hname : Mishap a environment d (.disk e) := .name hexists (Disk.exists?_error hexists)
      exact .finish (leaves_of_same (.inr ⟨_, rfl, hname⟩))
  | ok found =>
      cases found with
      | false =>
          have hmissing : Keeps (report ("Canvas file not found: ".toList ++
              (Path.read a.canvas.toList).text) : Command Unit) (fun _ => False)
              (Foreseen a environment d) := by
            refine keeps_report ?_ fun h => unclosed_foreseen ⟨_, .canvas, ?_⟩
            · exact .inl rfl
            · exact hasCloser_of_words (by decide) h
          exact hmissing.does nofun fun e => leaves_of_same
      | true =>
          refine keeps_config.bind_does (fun e => leaves_of_same) fun config hconfig => ?_
          refine keeps_request.bind_does (fun e => leaves_of_same) fun r hr => ?_
          refine (keeps_showFindings ?_).bind_does (fun e => leaves_of_same) fun _ _ => ?_
          · exact fun f hf id hid h => unclosed_foreseen ⟨_, .block hr hf hid, h⟩
          cases hpreview : a.preview with
          | true =>
              exact (keeps_preview hconfig hr).does (fun _ _ => .inl ⟨rfl, rfl⟩)
                fun e => leaves_of_same
          | false =>
              cases hzip : a.zip with
              | true =>
                  exact (does_archive hpreview hzip hconfig hr).mono (fun _ _ => .inr)
                    fun _ _ h => h
              | false =>
                  exact (does_write hpreview hzip hconfig hr).mono (fun _ _ => .inr)
                    fun _ _ h => h

end Command

end BotCanvas
