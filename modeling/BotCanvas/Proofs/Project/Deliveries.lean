import BotCanvas.Project.Preview
import BotCanvas.Proofs.Archive.EntryNames
import BotCanvas.Proofs.Disk.Saving

/-!
# Deliveries of a project

A project is shown in a preview, packed into an archive or saved in a folder. All three deliver the
same files in the same order (`delivers_of_project`): no path is refused or rewritten on the way, and
every content comes through.
-/

namespace BotCanvas

namespace GeneratedFile

/-- What a preview is to show of a file. -/
structure ShownAs (f : GeneratedFile) (length : Nat) (v : FilePreview) : Prop where
  path : v.path = f.path
  size : v.size = f.content.toList.length
  start : v.start.toList = f.content.toList.take length
  issues : v.issues = Lint.check f

/-- An entry with the path of a file for its name, whose data are the content in UTF-8. -/
structure PackedAs (f : GeneratedFile) (e : ArchiveEntry) : Prop where
  name : e.name = f.path
  data : e.data = Archive.utf8 f.content
  content : String.fromUTF8? e.data.toByteArray = some f.content

/-- A member with the path of a file for its name, whose data are the content in UTF-8. -/
structure UnpackedAs (f : GeneratedFile) (m : Archive.Member) : Prop where
  name : m.name = f.path
  data : m.data = Archive.utf8 f.content

end GeneratedFile

open GeneratedFile

namespace Exporter

/-- The exporter with archives of another method. -/
def withCompression (x : Exporter) (method : Compression) : Exporter :=
  { x with config := { x.config with compression := method } }

/-- A project that arrives as it is, on every way. The places in an archive are numbers of eight
bytes. -/
structure Delivers (x : Exporter) (p : Project) : Prop where
  preview : List.Forall₂ (fun f v => f.ShownAs x.config.previewLength.toNat v) p.files
    (x.preview p)
  archive : ∀ method, ∃ entries, (x.withCompression method).archive p = .ok entries ∧
    List.Forall₂ PackedAs p.files entries ∧ (∀ e ∈ entries, e.method = method) ∧
    ((Archive.bytes entries).length < 0x10000000000000000 →
      ∃ members, Archive.unpack? (Archive.bytes entries) = some members ∧
        List.Forall₂ UnpackedAs p.files members)
  folder : ∀ (d : Disk) (folder : Path) (l : Location), d.IsEmptyFolder folder l →
    ∃ d', saveAll d (targets folder p) = (.ok (), d') ∧
      (targets folder p).map Prod.fst =
        p.files.map (fun f => ⟨folder.root, folder.names ++ [f.path.toList]⟩) ∧
      (∀ t ∈ targets folder p, d'.read t.1 = .ok (.text t.2.content)) ∧
      (∀ name rest node, name ≠ ['.', '.'] → name ≠ ['/'] →
        (d'.node? (l ++ name :: rest) = some node ↔
          rest = [] ∧ ∃ f ∈ p.files, f.path.toList = name ∧ node = .file (.text f.content))) ∧
      ∀ l', (∀ name rest, l' ≠ l ++ name :: rest) → d'.node? l' = d.node? l'

variable {x : Exporter}
variable {r : ExportRequest}
variable {p : Project}

/-- The paths of a project are safe names of entries as they are. -/
theorem entryName_of_project
    (h : x.project r = .ok p)
    {f : GeneratedFile}
    (hf : f ∈ p.files) :
    f.IsSafe ∧ f.entryName = f.path.toList ∧ Archive.storedName f.entryName = f.path := by
  have hpaths : ∀ path ∈ Project.paths, Archive.isSafe (Archive.normalise path.toList) = true ∧
      Archive.normalise path.toList = path.toList := by
    decide
  obtain ⟨hsafe, hname⟩ := hpaths _ ((Project.mem_paths h).1 f hf)
  have hnul := ((Project.havePlainNames h).plain f hf).not_mem
  have hentry : f.entryName = f.path.toList := hname
  refine ⟨GeneratedFile.isSafe_iff.1 hsafe, hentry, ?_⟩
  rw [GeneratedFile.storedName_entryName hnul, hentry, String.ofList_toList]

/-- The files of a project are packed under every method. -/
theorem archive_of_project
    (h : x.project r = .ok p)
    (method : Compression) :
    (x.withCompression method).archive p = .ok (p.files.map (GeneratedFile.entry method)) := by
  have hnames : (p.files.map GeneratedFile.entryName).Nodup := by
    have hmap : p.files.map GeneratedFile.entryName =
        (p.files.map GeneratedFile.path).map String.toList := by
      rw [List.map_map]
      exact List.map_congr_left fun f hf => (entryName_of_project h hf).2.1
    rw [hmap]
    exact (Project.mem_paths h).2.map fun _ _ heq => String.toList_injective heq
  have hentries : Archive.entries method p.files =
      .ok (p.files.map (GeneratedFile.entry method)) :=
    Archive.entriesAfter_eq_ok_iff.2
      ⟨fun f hf => (entryName_of_project h hf).1, hnames, fun _ _ => List.not_mem_nil, rfl⟩
  show (Archive.entries method p.files).mapError _ = _
  rw [hentries]
  rfl

/-- The entries of a project are its files. -/
theorem entry_packs
    (h : x.project r = .ok p)
    {f : GeneratedFile}
    (hf : f ∈ p.files)
    (method : Compression) :
    f.PackedAs (f.entry method) :=
  ⟨(entryName_of_project h hf).2.2, rfl, Archive.fromUTF8?_utf8 f.content⟩

/-- The entries of a project fit into an archive, unless they are too long for its places. -/
theorem fit_of_project
    (h : x.project r = .ok p)
    (method : Compression)
    (hlength : (Archive.bytes (p.files.map (GeneratedFile.entry method))).length <
      0x10000000000000000) :
    Archive.Fit (p.files.map (GeneratedFile.entry method)) := by
  obtain ⟨hpaths, hnodup⟩ := Project.mem_paths h
  have hshort : ∀ path ∈ Project.paths, (Archive.utf8 path).length < 0x10000 := by
    simp only [Archive.utf8_eq]
    decide
  have hcount : (p.files.map GeneratedFile.path).length ≤ Project.paths.length := by
    refine (hnodup.subperm fun path hpath => ?_).length_le
    obtain ⟨f, hf, rfl⟩ := List.mem_map.1 hpath
    exact hpaths f hf
  have hfew : Project.paths.length < Archive.fullCount := by decide
  refine ⟨?_, ?_, hlength⟩
  · rw [List.forall_mem_map]
    intro f hf
    rw [(entry_packs h hf method).name]
    exact hshort _ (hpaths f hf)
  · rw [List.length_map] at hcount ⊢
    omega

/-- The preview of a project shows its files. -/
theorem preview_shows
    (x : Exporter)
    (p : Project) :
    List.Forall₂ (fun f v => f.ShownAs x.config.previewLength.toNat v) p.files (x.preview p) := by
  rw [preview, List.forall₂_map_right_iff, List.forall₂_same]
  intro f _
  exact ⟨rfl, rfl, String.toList_ofList, rfl⟩

/-- The files of a project, and no others, are in an empty folder that it is saved in. -/
theorem saveAll_of_project
    (h : x.project r = .ok p)
    {d : Disk}
    {folder : Path}
    {l : Location}
    (hempty : d.IsEmptyFolder folder l) :
    ∃ d', saveAll d (targets folder p) = (.ok (), d') ∧
      (∀ t ∈ targets folder p, d'.read t.1 = .ok (.text t.2.content)) ∧
      (∀ name rest node, name ≠ ['.', '.'] → name ≠ ['/'] →
        (d'.node? (l ++ name :: rest) = some node ↔
          rest = [] ∧ ∃ f ∈ p.files, f.path.toList = name ∧ node = .file (.text f.content))) ∧
      ∀ l', (∀ name rest, l' ≠ l ++ name :: rest) → d'.node? l' = d.node? l' := by
  have hplain := Project.havePlainNames h
  obtain ⟨d', hsave, hlocate, hfolder, hfiles, hothers⟩ := Disk.saveAll_of_free hplain
    hempty.located hempty.folder fun f hf =>
      hempty.empty _ _ (hplain.plain f hf).ne_above (hplain.plain f hf).ne_root
  refine ⟨d', hsave, ?_, fun name rest node hname hroot => ?_, fun l' hl' => ?_⟩
  · rw [targets, List.forall_mem_map]
    intro f hf
    refine Disk.read_of_file? (Disk.locate_plain (hplain.plain f hf) hlocate hfolder) ?_
    rw [Disk.file?, hfiles f hf]
  · constructor
    · intro hfile
      by_cases hnew : ∃ f ∈ p.files, l ++ name :: rest = l ++ [f.path.toList]
      · obtain ⟨f, hf, heq⟩ := hnew
        rw [heq, hfiles f hf] at hfile
        obtain ⟨rfl, rfl⟩ := List.cons.inj (List.append_cancel_left heq)
        cases hfile
        exact ⟨rfl, f, hf, rfl, rfl⟩
      · have hold := hothers _ fun f hf heq => hnew ⟨f, hf, heq⟩
        rw [hempty.empty name rest hname hroot, hfile] at hold
        cases hold
    · rintro ⟨rfl, f, hf, rfl, rfl⟩
      exact hfiles f hf
  · exact hothers l' fun f _ => hl' _ _

/--
Whenever an export succeeds, all deliveries are the same project. The preview lists its paths with
sizes, starts and issues. An archive can be made under either method and is unpacked to its files.
Saved in an empty folder, its files are all that the folder holds, and nothing outside has changed.
-/
theorem delivers_of_project
    (h : x.project r = .ok p) :
    x.Delivers p := by
  refine ⟨x.preview_shows p, fun method => ?_, fun d folder l hempty => ?_⟩
  · refine ⟨_, archive_of_project h method, ?_, ?_, fun hlength => ?_⟩
    · rw [List.forall₂_map_right_iff, List.forall₂_same]
      exact fun f hf => entry_packs h hf method
    · rw [List.forall_mem_map]
      exact fun f _ => rfl
    · refine ⟨_, (fit_of_project h method hlength).unpack?_bytes, ?_⟩
      rw [List.map_map, List.forall₂_map_right_iff, List.forall₂_same]
      exact fun f hf => ⟨(entry_packs h hf method).name, rfl⟩
  · obtain ⟨d', hsave, hread, hfiles, hothers⟩ := saveAll_of_project h hempty
    refine ⟨d', hsave, ?_, hread, hfiles, hothers⟩
    rw [targets, List.map_map]
    exact List.map_congr_left fun f hf => ((Project.havePlainNames h).plain f hf).append folder

/-- A request for a bot with a pause of five seconds is delivered in the working folder. -/
theorem delivers_pausingRequest :
    ∃ p d, standard.project (pausingRequest "discord.py" (.int 5) (.int 5)) = .ok p ∧
      standard.Delivers p ∧
      saveAll Disk.empty (targets (.read ['.']) p) = (.ok (), d) ∧
      ∀ name rest node, name ≠ ['.', '.'] → name ≠ ['/'] →
        (d.node? (name :: rest) = some node ↔
          rest = [] ∧ ∃ f ∈ p.files, f.path.toList = name ∧ node = .file (.text f.content)) := by
  obtain ⟨p, hp⟩ : ∃ p, standard.project (pausingRequest "discord.py" (.int 5) (.int 5)) = .ok p := by
    refine exists_project ?_ ?_ <;> decide +kernel
  have hempty : Disk.empty.IsEmptyFolder (.read ['.']) [] := by
    refine ⟨by decide, by decide, fun name rest hname hroot => ?_⟩
    have hstanding : Disk.isStanding (name :: rest) = false := by
      simp [Disk.isStanding, hname, hroot]
    rw [List.nil_append, Disk.node?, if_neg (by simp [hstanding])]
    rfl
  obtain ⟨d, hsave, -, -, hfiles, -⟩ := (delivers_of_project hp).folder _ _ _ hempty
  exact ⟨p, d, hp, delivers_of_project hp, hsave, hfiles⟩

end Exporter

end BotCanvas
