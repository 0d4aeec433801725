import BotCanvas.Proofs.Archive.Records
import BotCanvas.Proofs.Disk.Places
import BotCanvas.Proofs.Project.Checks
import BotCanvas.Proofs.Project.Totality

/-!
# Saving projects

The files of a project are saved one after another. If an obstacle stops this, those before it stay
saved, complete and in their places, and nothing else has changed (`exists_saved`). In a folder with
nothing in it there is no obstacle, and the project is what the folder holds then
(`saveAll_of_free`).

Later files do not undo earlier ones because no disk leads two of their paths to one place
(`Apart`): the paths of a project are plain names, and they are pairwise different.
-/

namespace BotCanvas

namespace Disk

/-- No disk leads both paths to one place. -/
def Apart (p q : Path) : Prop :=
  ∀ (d : Disk) (l : Location), d.locate p = .ok l → d.locate q ≠ .ok l

/-- The other disk holds each file where its path leads, and the files of the one elsewhere. -/
structure Saved (d d' : Disk) (targets : List (Path × GeneratedFile)) : Prop where
  folders : KeepsFolders d d'
  placed : ∀ t ∈ targets, ∃ l, d'.locate t.1 = .ok l ∧ d'.file? l = some (.text t.2.content)
  others : ∀ l, (∀ t ∈ targets, d'.locate t.1 ≠ .ok l) → d'.file? l = d.file? l

variable {d d' d'' : Disk}
variable {l l' : Location}
variable {p q : Path}
variable {f : GeneratedFile}
variable {targets : List (Path × GeneratedFile)}

/-- A file that stands where a path leads is read there. -/
theorem read_of_file?
    {content : Content}
    (hlocate : d.locate p = .ok l)
    (hfile : d.file? l = some content) :
    d.read p = .ok content := by
  unfold file? at hfile
  split at hfile
  · obtain rfl := Option.some.inj hfile
    rw [read, hlocate]
    simp only [Except.bind, ‹d.node? l = _›]
  · cases hfile

theorem Saved.nil
    (d : Disk) :
    Saved d d [] := by
  refine ⟨.refl d, ?_, fun l _ => rfl⟩
  exact nofun

/-- One file is saved, and then others apart from it. -/
theorem Saved.cons
    (hfile : SavesFile d d' p (.text f.content))
    (hrest : Saved d' d'' targets)
    (hapart : ∀ t ∈ targets, Apart p t.1) :
    Saved d d'' ((p, f) :: targets) := by
  obtain ⟨hfolders, l, hlocate, hfiles⟩ := hfile
  have hlocate' := locate_mono hrest.folders hlocate
  refine ⟨hfolders.trans hrest.folders, ?_, fun l' hothers => ?_⟩
  · rw [List.forall_mem_cons]
    refine ⟨⟨l, hlocate', ?_⟩, hrest.placed⟩
    rw [hrest.others l fun t ht => hapart t ht d'' l hlocate', hfiles, if_pos rfl]
  · rw [List.forall_mem_cons] at hothers
    have hne : l' ≠ l := by
      rintro rfl
      exact hothers.1 hlocate'
    rw [hrest.others l' hothers.2, hfiles, if_neg hne]

/-- All files are saved, or those before one that cannot be saved. -/
theorem exists_saved
    (hapart : targets.Pairwise fun t u => Apart t.1 u.1)
    (d : Disk) :
    (Exporter.saveAll d targets).1 = .ok () ∧ Saved d (Exporter.saveAll d targets).2 targets ∨
      ∃ saved t rest e, targets = saved ++ t :: rest ∧
        Saved d (Exporter.saveAll d targets).2 saved ∧
        (Exporter.saveAll d targets).2.save t.1 (.text t.2.content) = .error e ∧
        (Exporter.saveAll d targets).1 = .error e := by
  induction targets generalizing d with
  | nil => exact .inl ⟨rfl, .nil d⟩
  | cons t targets ih =>
      obtain ⟨path, f⟩ := t
      rw [List.pairwise_cons] at hapart
      rw [Exporter.saveAll]
      cases hsave : d.save path (.text f.content) with
      | error e => exact .inr ⟨[], (path, f), targets, e, rfl, .nil d, hsave, rfl⟩
      | ok d' =>
          rcases ih hapart.2 d' with ⟨hok, hsaved⟩ | ⟨saved, t, rest, e, rfl, hsaved, hrest⟩
          · exact .inl ⟨hok, .cons (save_ok hsave) hsaved hapart.1⟩
          · refine .inr ⟨(path, f) :: saved, t, rest, e, rfl, .cons (save_ok hsave) hsaved ?_, hrest⟩
            exact fun u hu => hapart.1 u (List.mem_append_left _ hu)

end Disk

/-! ## Plain names -/

/-- A path that is one short name of a file, without a NUL. -/
structure IsPlainName (path : String) : Prop where
  read : Path.read path.toList = ⟨[], [path.toList]⟩
  ne_above : path.toList ≠ ['.', '.']
  short : Disk.isLong path.toList = false
  not_mem : '\x00' ∉ path.toList

/-- Files under plain names that are pairwise different. -/
structure HavePlainNames (files : List GeneratedFile) : Prop where
  plain : ∀ f ∈ files, IsPlainName f.path
  nodup : (files.map GeneratedFile.path).Nodup

namespace IsPlainName

variable {path : String}

/-- A plain name in a folder. -/
theorem append
    (h : IsPlainName path)
    (folder : Path) :
    folder.append (.read path.toList) = ⟨folder.root, folder.names ++ [path.toList]⟩ := by
  rw [h.read]
  rfl

/-- The folder of a plain name in it. -/
theorem parent_append
    (h : IsPlainName path)
    (folder : Path) :
    (folder.append (.read path.toList)).parent = folder := by
  rw [h.append, Path.parent, List.dropLast_concat]

/-- A plain name brings no NUL into a folder. -/
theorem hasNul_append
    (h : IsPlainName path)
    {folder : Path} :
    (folder.append (.read path.toList)).HasNul ↔ folder.HasNul := by
  rw [h.append]
  unfold Path.HasNul
  simp only [List.mem_append, List.mem_singleton]
  constructor
  · rintro (hroot | ⟨name, hname | rfl, hnul⟩)
    · exact .inl hroot
    · exact .inr ⟨name, hname, hnul⟩
    · exact absurd hnul h.not_mem
  · rintro (hroot | ⟨name, hname, hnul⟩)
    · exact .inl hroot
    · exact .inr ⟨name, .inl hname, hnul⟩

theorem ne_root
    (h : IsPlainName path) :
    path.toList ≠ ['/'] := by
  intro hpath
  have hread := h.read
  rw [hpath] at hread
  exact absurd hread (by decide)

end IsPlainName

namespace Disk

variable {d : Disk}
variable {l : Location}
variable {folder : Path}
variable {path : String}
variable {files : List GeneratedFile}

/-- A plain name leads below its folder. -/
theorem locate_plain
    (h : IsPlainName path)
    (hlocate : d.locate folder = .ok l)
    (hfolder : d.node? l = some .folder) :
    d.locate (folder.append (.read path.toList)) = .ok (l ++ [path.toList]) := by
  rw [locate_eq_ok_iff] at hlocate ⊢
  refine ⟨fun hnul => hlocate.1 (h.hasNul_append.1 hnul), ?_⟩
  rw [h.append]
  show d.follow (start folder) (folder.names ++ [path.toList]) = _
  rw [follow_append, hlocate.2]
  exact follow_singleton hfolder h.short h.ne_above

/-- The path of a name leads below some place. -/
theorem locate_below
    {root name : Text}
    {names : List Text}
    (h : d.locate ⟨root, names ++ [name]⟩ = .ok l)
    (hname : name ≠ ['.', '.']) :
    ∃ above, d.follow (start ⟨root, names⟩) names = .ok above ∧ l = above ++ [name] := by
  rw [locate_eq_ok_iff, follow_append] at h
  obtain ⟨-, h⟩ := h
  obtain ⟨above, habove, hstep⟩ := exists_of_bind h
  refine ⟨above, habove, ?_⟩
  rw [follow] at hstep
  split at hstep
  · cases hstep
  · cases hstep
  · split at hstep
    · cases hstep
    · rw [follow, step, if_neg (by simpa using hname)] at hstep
      exact (Except.ok.inj hstep).symm

/-- Different plain names in a folder stay apart. -/
theorem apart_of_ne
    {path' : String}
    (h : IsPlainName path)
    (h' : IsPlainName path')
    (hne : path ≠ path')
    (folder : Path) :
    Apart (folder.append (.read path.toList)) (folder.append (.read path'.toList)) := by
  intro d l hl hl'
  rw [h.append] at hl
  rw [h'.append] at hl'
  obtain ⟨above, -, rfl⟩ := locate_below hl h.ne_above
  obtain ⟨above', -, heq⟩ := locate_below hl' h'.ne_above
  exact hne (String.toList_injective (List.append_singleton_inj.1 heq).2)

/-- Where a file goes in a folder. -/
def target (folder : Path) (f : GeneratedFile) : Path × GeneratedFile :=
  (folder.append (.read f.path.toList), f)

/-- Files under plain names stay apart in every folder. -/
theorem pairwise_apart
    (h : HavePlainNames files)
    (folder : Path) :
    (files.map (target folder)).Pairwise fun t u => Apart t.1 u.1 := by
  rw [List.pairwise_map]
  refine (List.pairwise_map.1 h.nodup).imp_of_mem ?_
  intro f g hf hg hne
  exact apart_of_ne (h.plain f hf) (h.plain g hg) hne folder

/-- Files can be saved in a folder where nothing has their names. They are in the folder then, and
everything else is as it was. -/
theorem saveAll_of_free
    (h : HavePlainNames files)
    (hlocate : d.locate folder = .ok l)
    (hfolder : d.node? l = some .folder)
    (hfree : ∀ f ∈ files, d.node? (l ++ [f.path.toList]) = none) :
    ∃ d', Exporter.saveAll d (files.map (target folder)) = (.ok (), d') ∧
      d'.locate folder = .ok l ∧ d'.node? l = some .folder ∧
      (∀ f ∈ files, d'.node? (l ++ [f.path.toList]) = some (.file (.text f.content))) ∧
      ∀ l', (∀ f ∈ files, l' ≠ l ++ [f.path.toList]) → d'.node? l' = d.node? l' := by
  induction files generalizing d with
  | nil => exact ⟨d, rfl, hlocate, hfolder, nofun, fun l' _ => rfl⟩
  | cons f files ih =>
      obtain ⟨hplain, hnodup⟩ := h
      rw [List.forall_mem_cons] at hplain hfree
      rw [List.map_cons, List.nodup_cons] at hnodup
      have hplace := locate_plain hplain.1 hlocate hfolder
      have hroom : d.locate (folder.append (.read f.path.toList)).parent = .ok l := by
        rwa [hplain.1.parent_append]
      have hsave : d.save (folder.append (.read f.path.toList)) (.text f.content) =
          .ok (d.put (l ++ [f.path.toList]) (.file (.text f.content))) :=
        save_of_free hroom hfolder hplace hfree.1
      have hstanding : isStanding (l ++ [f.path.toList]) = false := by
        refine isStanding_eq_false (d := d) ?_
        rw [hfree.1]
        exact nofun
      have hnode := node?_put (d := d) hstanding (.file (.text f.content))
      have hother : ∀ g ∈ files, l ++ [g.path.toList] ≠ l ++ [f.path.toList] := by
        intro g hg heq
        refine hnodup.1 (List.mem_map.2 ⟨g, hg, ?_⟩)
        exact String.toList_injective (List.append_singleton_inj.1 heq).2
      obtain ⟨d', hrest, hlocate', hfolder', hfiles, hothers⟩ := ih ⟨hplain.2, hnodup.2⟩
        (locate_mono (save_ok hsave).folders hlocate)
        ((save_ok hsave).folders l hfolder)
        (fun g hg => by rw [hnode, if_neg (hother g hg), hfree.2 g hg])
      refine ⟨d', ?_, hlocate', hfolder', ?_, fun l' hl' => ?_⟩
      · rw [List.map_cons, target, Exporter.saveAll, hsave]
        exact hrest
      · rw [List.forall_mem_cons]
        refine ⟨?_, hfiles⟩
        rw [hothers _ fun g hg => (hother g hg).symm, hnode, if_pos rfl]
      · rw [List.forall_mem_cons] at hl'
        rw [hothers l' hl'.2, hnode, if_neg hl'.1]

end Disk

/-- A folder with nothing in it. -/
structure Disk.IsEmptyFolder (d : Disk) (folder : Path) (l : Location) : Prop where
  located : d.locate folder = .ok l
  folder : d.node? l = some .folder
  empty : ∀ name rest, name ≠ ['.', '.'] → name ≠ ['/'] → d.node? (l ++ name :: rest) = none

namespace Project

/-- The paths that a file of a project can have. -/
def paths : List String :=
  Dialect.all.flatMap (fun d => [d.entryPoint, d.manifestPath]) ++ [readmePath, environmentPath]

variable {x : Exporter}
variable {r : ExportRequest}
variable {p : Project}

/-- These are the paths of the files, and no path comes twice. -/
theorem mem_paths
    (h : x.project r = .ok p) :
    (∀ f ∈ p.files, f.path ∈ paths) ∧ (p.files.map GeneratedFile.path).Nodup := by
  unfold Exporter.project at h
  obtain ⟨d, hd, h⟩ := exists_of_bind h
  have hdialect : Dialect.ofLanguage r.language = .ok d := by
    cases hresult : Dialect.ofLanguage r.language with
    | error e =>
        rw [hresult] at hd
        cases hd
    | ok found =>
        rw [hresult] at hd
        exact congrArg _ (Except.ok.inj hd)
  obtain ⟨program, manifest, readme, environment, -, -, -, -, hfiles⟩ := Exporter.exists_files h
  have hmem := (Dialect.mem_of_ofLanguage hdialect).1
  constructor
  · rw [hfiles]
    simp only [List.forall_mem_cons, paths, List.mem_append, List.mem_flatMap]
    exact ⟨.inl ⟨d, hmem, by simp⟩, .inl ⟨d, hmem, by simp⟩, .inr (by simp), .inr (by simp),
      List.forall_mem_nil _⟩
  · have hcases : d = Braced.dialect ∨ d = Offside.dialect := by
      simpa [Dialect.all] using hmem
    have hpaths : p.files.map GeneratedFile.path =
        [d.entryPoint, d.manifestPath, readmePath, environmentPath] := by
      rw [hfiles]
      rfl
    rw [hpaths]
    rcases hcases with rfl | rfl <;> decide

/-- The files of every project have plain names. -/
theorem havePlainNames
    (h : x.project r = .ok p) :
    HavePlainNames p.files := by
  have hshort : ∀ path ∈ paths, Disk.isLong path.toList = false := by
    simp only [Disk.isLong, Archive.utf8_eq]
    decide +kernel
  have hplain : ∀ path ∈ paths, Path.read path.toList = ⟨[], [path.toList]⟩ ∧
      path.toList ≠ ['.', '.'] ∧ '\x00' ∉ path.toList := by
    decide
  obtain ⟨hmem, hnodup⟩ := mem_paths h
  refine ⟨fun f hf => ?_, hnodup⟩
  obtain ⟨hread, hname, hnul⟩ := hplain _ (hmem f hf)
  exact ⟨hread, hname, hshort _ (hmem f hf), hnul⟩

/-- The files of every project stay apart in every folder. -/
theorem pairwise_apart
    (h : x.project r = .ok p)
    (folder : Path) :
    (Exporter.targets folder p).Pairwise fun t u => Disk.Apart t.1 u.1 :=
  Disk.pairwise_apart (havePlainNames h) folder

end Project

end BotCanvas
