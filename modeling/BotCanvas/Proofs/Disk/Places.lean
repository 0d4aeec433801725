import BotCanvas.Disk
import BotCanvas.Proofs.Fallible
import BotCanvas.Proofs.Text.Words

/-!
# Places on a disk

What an operation does to a disk is said by what the places hold before and after it.

**One place.** Putting something in a place changes this place only (`node?_put`).

**Folders.** Making folders turns places that held nothing into folders and changes nothing else
(`AddsFolders`). A path that leads somewhere leads there as long as no folder is lost
(`locate_mono`).

**One file.** A saved file is in the place that its path leads to, and every other place holds the
file that it held before (`SavesFile`).
-/

namespace BotCanvas

namespace Path

/-- A path with a NUL in its root or in a name. -/
def HasNul (p : Path) : Prop :=
  '\x00' ∈ p.root ∨ ∃ name ∈ p.names, '\x00' ∈ name

variable {p : Path}

/-- The NULs of a path are those of its text. -/
theorem hasNul_iff :
    p.HasNul ↔ (p.text.any fun c => c.toNat == 0) = true := by
  have hany : (p.text.any fun c => c.toNat == 0) = true ↔ '\x00' ∈ p.text := by
    rw [List.any_eq_true]
    constructor
    · rintro ⟨c, hc, hzero⟩
      have hnul : c = '\x00' := Char.toNat_inj.1 (by simpa using hzero)
      exact hnul ▸ hc
    · intro h
      exact ⟨_, h, rfl⟩
  rw [hany, HasNul, text]
  constructor
  · rintro (hroot | ⟨name, hname, hnul⟩)
    · rw [if_neg (by rintro h; simp_all)]
      exact List.mem_append_left _ hroot
    · rw [if_neg (by rintro h; simp_all)]
      exact List.mem_append_right _ (Text.mem_join_of_mem hname hnul)
  · intro h
    split at h
    · exact absurd h (by decide)
    · rcases List.mem_append.1 h with hroot | hnames
      · exact .inl hroot
      · rcases Text.mem_join hnames with hslash | hname
        · exact absurd hslash (by decide)
        · exact .inr hname

/-- A NUL in a path under a path is one of either. -/
theorem HasNul.of_append
    {q : Path}
    (h : (p.append q).HasNul) :
    p.HasNul ∨ q.HasNul := by
  unfold append at h
  split at h
  · rcases h with hroot | ⟨name, hname, hnul⟩
    · exact .inl (.inl hroot)
    · rcases List.mem_append.1 hname with hname | hname
      · exact .inl (.inr ⟨name, hname, hnul⟩)
      · exact .inr (.inr ⟨name, hname, hnul⟩)
  · exact .inr h

/-- A NUL in a path is one of the text that it was read from. -/
theorem HasNul.of_read
    {s : Text}
    (h : (read s).HasNul) :
    '\x00' ∈ s := by
  rcases h with hroot | ⟨name, hname, hnul⟩
  · unfold read at hroot
    dsimp only at hroot
    split at hroot
    · cases hroot
    · split at hroot
      · exact absurd hroot (by decide)
      · exact absurd hroot (by decide)
  · rw [← Text.join_splitOn '/' s]
    exact Text.mem_join_of_mem (List.mem_of_mem_filter hname) hnul

end Path

namespace Disk

/-! ## Places -/

/-- The file in a place, if there is one. -/
def file? (d : Disk) (l : Location) : Option Content :=
  match d.node? l with
  | some (.file content) => some content
  | _ => none

/-- Two disks with the same files. -/
def SameFiles (d d' : Disk) : Prop :=
  ∀ l, d'.file? l = d.file? l

/-- The folders of one disk are folders of the other. -/
def KeepsFolders (d d' : Disk) : Prop :=
  ∀ l, d.node? l = some .folder → d'.node? l = some .folder

/-- The other disk has folders where the one holds nothing, and is the same everywhere else. -/
def AddsFolders (d d' : Disk) : Prop :=
  ∀ l, d'.node? l = d.node? l ∨ d.node? l = none ∧ d'.node? l = some .folder

variable {d d' d'' : Disk}
variable {l l' : Location}
variable {n : Node}
variable {p q : Path}
variable {content : Content}

/-- Places that hold the same hold the same file. -/
theorem file?_congr
    (h : d'.node? l' = d.node? l) :
    d'.file? l' = d.file? l := by
  rw [file?, file?, h]

theorem SameFiles.refl
    (d : Disk) :
    SameFiles d d := by
  intro l
  rfl

namespace KeepsFolders

theorem refl
    (d : Disk) :
    KeepsFolders d d := by
  intro l h
  exact h

theorem trans
    (h : KeepsFolders d d')
    (h' : KeepsFolders d' d'') :
    KeepsFolders d d'' := by
  intro l hl
  exact h' l (h l hl)

end KeepsFolders

namespace AddsFolders

theorem refl
    (d : Disk) :
    AddsFolders d d := by
  intro l
  exact .inl rfl

theorem trans
    (h : AddsFolders d d')
    (h' : AddsFolders d' d'') :
    AddsFolders d d'' := by
  intro l
  rcases h l with hl | ⟨hnone, hfolder⟩ <;> rcases h' l with hl' | ⟨hnone', hfolder'⟩
  · exact .inl (hl'.trans hl)
  · exact .inr ⟨hl.symm.trans hnone', hfolder'⟩
  · exact .inr ⟨hnone, hl'.trans hfolder⟩
  · exact .inr ⟨hnone, hfolder'⟩

theorem keepsFolders
    (h : AddsFolders d d') :
    KeepsFolders d d' := by
  intro l hl
  rcases h l with heq | ⟨hnone, -⟩
  · rw [heq, hl]
  · rw [hl] at hnone
    cases hnone

theorem sameFiles
    (h : AddsFolders d d') :
    SameFiles d d' := by
  intro l
  rcases h l with heq | ⟨hnone, hfolder⟩
  · exact file?_congr heq
  · rw [file?, file?, hnone, hfolder]

end AddsFolders

/-! ## Putting -/

/-- A place that does not hold a folder is not always there. -/
theorem isStanding_eq_false
    (h : d.node? l ≠ some .folder) :
    isStanding l = false := by
  cases hstanding : isStanding l with
  | false => rfl
  | true =>
      rw [node?, if_pos hstanding] at h
      exact absurd rfl h

theorem lookup_map_update
    (nodes : List (Location × Node))
    (l l' : Location)
    (n : Node) :
    (nodes.map fun (k, old) => if k = l then (k, n) else (k, old)).lookup l' =
      if l' = l then (nodes.lookup l).map fun _ => n else nodes.lookup l' := by
  induction nodes with
  | nil => simp
  | cons node nodes ih =>
      obtain ⟨k, old⟩ := node
      rw [List.map_cons, List.lookup_cons, List.lookup_cons, List.lookup_cons]
      by_cases hk : k = l
      · subst hk
        by_cases hl' : l' = k
        · simp [hl']
        · simp [hl', ih, beq_false_of_ne hl']
      · by_cases hl' : l' = k
        · subst hl'
          simp [hk]
        · simp [hk, ih, beq_false_of_ne hl', beq_false_of_ne (Ne.symm hk)]

theorem lookup_nodes_put
    (d : Disk)
    (l l' : Location)
    (n : Node) :
    (d.put l n).nodes.lookup l' = if l' = l then some n else d.nodes.lookup l' := by
  unfold put
  cases hfound : d.nodes.lookup l with
  | some old =>
      simp only [Option.isSome_some, if_true]
      rw [lookup_map_update, hfound]
      rfl
  | none =>
      simp only [Option.isSome_none, Bool.false_eq_true, if_false]
      rw [List.lookup_append, List.lookup_cons, List.lookup_nil]
      by_cases hl' : l' = l
      · subst hl'
        simp [hfound]
      · simp [hl', beq_false_of_ne hl']

/-- Putting something in a place changes this place only. -/
theorem node?_put
    (h : isStanding l = false)
    (n : Node)
    (l' : Location) :
    (d.put l n).node? l' = if l' = l then some n else d.node? l' := by
  unfold node?
  rw [lookup_nodes_put]
  by_cases hl' : l' = l
  · simp [hl', h]
  · simp [hl']

/-! ## Following paths -/

/-- As long as no folder is lost, names lead where they lead. -/
theorem follow_mono
    (h : KeepsFolders d d')
    {names : List Text}
    (hfollow : d.follow l names = .ok l') :
    d'.follow l names = .ok l' := by
  induction names generalizing l with
  | nil => exact hfollow
  | cons name rest ih =>
      rw [follow] at hfollow ⊢
      cases hl : d.node? l with
      | none =>
          rw [hl] at hfollow
          cases hfollow
      | some node =>
          rw [hl] at hfollow
          cases node with
          | file content => cases hfollow
          | folder =>
              rw [h l hl]
              dsimp only at hfollow ⊢
              split at hfollow
              · cases hfollow
              · rw [if_neg ‹_›]
                exact ih hfollow

/-- Names are followed one after another. -/
theorem follow_append
    (d : Disk)
    (l : Location)
    (names rest : List Text) :
    d.follow l (names ++ rest) = (d.follow l names).bind fun l' => d.follow l' rest := by
  induction names generalizing l with
  | nil => rfl
  | cons name names ih =>
      rw [List.cons_append, follow, follow]
      cases d.node? l with
      | none => rfl
      | some node =>
          cases node with
          | file content => rfl
          | folder =>
              dsimp only
              split
              · rfl
              · exact ih _

/-- A name below a folder leads there. -/
theorem follow_singleton
    {name : Text}
    (hfolder : d.node? l = some .folder)
    (hshort : isLong name = false)
    (hname : name ≠ ['.', '.']) :
    d.follow l [name] = .ok (l ++ [name]) := by
  have hstep : step l name = l ++ [name] := by
    rw [step, if_neg (by simpa using hname)]
  rw [follow, hfolder, ← hstep]
  simp only [hshort, Bool.false_eq_true, if_false, follow]

/-- The place that names are followed from. -/
def start (p : Path) : Location :=
  if p.root.isEmpty then [] else [['/']]

/-- A path leads somewhere if it has no NUL and its names lead there. -/
theorem locate_eq_ok_iff :
    d.locate p = .ok l ↔ ¬p.HasNul ∧ d.follow (start p) p.names = .ok l := by
  rw [Path.hasNul_iff, locate, start]
  by_cases hnul : (p.text.any fun c => c.toNat == 0) = true
  · rw [if_pos hnul]
    simp [hnul]
  · rw [if_neg hnul]
    cases d.follow (if p.root.isEmpty then [] else [['/']]) p.names with
    | error e => simp [Except.mapError]
    | ok found => simp [Except.mapError, hnul]

/-- As long as no folder is lost, a path leads where it leads. -/
theorem locate_mono
    (h : KeepsFolders d d')
    (hlocate : d.locate p = .ok l) :
    d'.locate p = .ok l := by
  rw [locate_eq_ok_iff] at hlocate ⊢
  exact ⟨hlocate.1, follow_mono h hlocate.2⟩

/-! ## Making folders -/

theorem makeFolder_ok
    (h : d.makeFolder p = .ok d') :
    AddsFolders d d' := by
  obtain ⟨l, -, h⟩ := exists_of_bind h
  cases hl : d.node? l with
  | some node =>
      rw [hl] at h
      cases h
  | none =>
      rw [hl] at h
      have hput : d.put l .folder = d' := by
        simpa using h
      have hstanding : isStanding l = false :=
        isStanding_eq_false (d := d) (by rw [hl]; exact nofun)
      intro l'
      rw [← hput, node?_put hstanding]
      split
      · subst l'
        exact .inr ⟨hl, rfl⟩
      · exact .inl rfl

theorem ensureFolder_ok
    (h : d.ensureFolder p = .ok d') :
    AddsFolders d d' := by
  unfold ensureFolder at h
  cases hmake : d.makeFolder p with
  | ok made =>
      rw [hmake] at h
      cases h
      exact makeFolder_ok hmake
  | error e =>
      rw [hmake] at h
      dsimp only at h
      split at h
      · cases h
      · cases h
        exact .refl d

theorem ensureFoldersUp_ok
    {root : Text}
    {names : List Text}
    (h : ensureFoldersUp root d names = .ok d') :
    AddsFolders d d' := by
  induction names generalizing d d' with
  | nil => exact ensureFolder_ok h
  | cons name outer ih =>
      rw [ensureFoldersUp] at h
      cases hmake : d.makeFolder ⟨root, (name :: outer).reverse⟩ with
      | ok made =>
          rw [hmake] at h
          cases h
          exact makeFolder_ok hmake
      | error e =>
          rw [hmake] at h
          dsimp only at h
          split at h
          · obtain ⟨above, habove, h⟩ := exists_of_bind h
            exact (ih habove).trans (ensureFolder_ok h)
          · split at h
            · cases h
            · cases h
              exact .refl d

/-- Making folders changes nothing but places that held nothing. -/
theorem ensureFolders_ok
    (h : d.ensureFolders p = .ok d') :
    AddsFolders d d' :=
  ensureFoldersUp_ok h

/-- A folder that is there need not be made. -/
theorem ensureFolders_of_folder
    (hlocate : d.locate p = .ok l)
    (hfolder : d.node? l = some .folder) :
    d.ensureFolders p = .ok d := by
  have hmake : d.makeFolder p = .error ⟨.taken, p.text⟩ := by
    rw [makeFolder, hlocate]
    simp only [Except.bind, hfolder, Option.isSome_some, if_true]
  have hthere : d.isFolder p = true := by
    rw [isFolder, find?, hlocate]
    simp only [hfolder, beq_self_eq_true]
  have hensure : d.ensureFolder p = .ok d := by
    rw [ensureFolder, hmake]
    simp [hthere]
  obtain ⟨root, names⟩ := p
  unfold ensureFolders
  cases hnames : names.reverse with
  | nil =>
      obtain rfl := List.reverse_eq_nil_iff.1 hnames
      exact hensure
  | cons name outer =>
      have hback : (name :: outer).reverse = names := by
        rw [← hnames, List.reverse_reverse]
      rw [ensureFoldersUp, hback, hmake]
      simp [hthere]

/-! ## One file -/

/-- The other disk holds a file where a path leads, the files of the one elsewhere, and all its
folders. -/
structure SavesFile (d d' : Disk) (p : Path) (content : Content) : Prop where
  folders : KeepsFolders d d'
  placed : ∃ l, d'.locate p = .ok l ∧ ∀ l', d'.file? l' = if l' = l then some content else d.file? l'

/-- A file that is written is in its place. -/
theorem writeFile_ok
    (h : d.writeFile p content = .ok d') :
    SavesFile d d' p content := by
  obtain ⟨l, hlocate, h⟩ := exists_of_bind h
  have hfree : d.node? l ≠ some .folder := by
    intro hfolder
    rw [hfolder] at h
    cases h
  have hput : d.put l (.file content) = d' := by
    split at h
    · exact absurd ‹_› hfree
    · exact Except.ok.inj h
  have hnode := node?_put (d := d) (isStanding_eq_false hfree) (.file content)
  rw [hput] at hnode
  have hfolders : KeepsFolders d d' := by
    intro l' hl'
    rw [hnode, if_neg ?_, hl']
    rintro rfl
    exact hfree hl'
  refine ⟨hfolders, l, locate_mono hfolders hlocate, fun l' => ?_⟩
  by_cases hl' : l' = l
  · rw [file?, hnode, if_pos hl', if_pos hl']
  · rw [if_neg hl']
    exact file?_congr ((hnode l').trans (if_neg hl'))

/-- A file that is saved is in its place. -/
theorem save_ok
    (h : d.save p content = .ok d') :
    SavesFile d d' p content := by
  obtain ⟨made, hmade, hwrite⟩ := exists_of_bind h
  have hadds := ensureFolders_ok hmade
  obtain ⟨hfolders, l, hlocate, hfiles⟩ := writeFile_ok hwrite
  refine ⟨hadds.keepsFolders.trans hfolders, l, hlocate, fun l' => ?_⟩
  rw [hfiles, hadds.sameFiles]

/-- A file can be saved in a folder where nothing has its name. -/
theorem save_of_free
    {name : Text}
    (hroom : d.locate p.parent = .ok l)
    (hfolder : d.node? l = some .folder)
    (hlocate : d.locate p = .ok (l ++ [name]))
    (hfree : d.node? (l ++ [name]) = none) :
    d.save p content = .ok (d.put (l ++ [name]) (.file content)) := by
  rw [save, ensureFolders_of_folder hroom hfolder]
  show d.writeFile p content = _
  rw [writeFile, hlocate]
  simp only [Except.bind, hfree]

/-! ## Errors -/

/-- An error about a path, or about one above it. Only a NUL makes a path unusable. -/
def IsAbout (e : DiskError) (p : Path) : Prop :=
  ∃ q : Path, q.root = p.root ∧ q.names <+: p.names ∧ e.path = q.text ∧
    (e.fault = .unusable → q.HasNul)

variable {e : DiskError}

/-- An error about a path above is one about the path. -/
theorem IsAbout.of_above
    (h : IsAbout e q)
    (hroot : q.root = p.root)
    (hnames : q.names <+: p.names) :
    IsAbout e p := by
  obtain ⟨above, habove, hprefix, hpath, hnul⟩ := h
  exact ⟨above, habove.trans hroot, hprefix.trans hnames, hpath, hnul⟩

/-- A path that cannot be used has a NUL. -/
theorem IsAbout.hasNul
    (h : IsAbout e p)
    (hfault : e.fault = .unusable) :
    p.HasNul := by
  obtain ⟨q, hroot, hnames, -, hnul⟩ := h
  rcases hnul hfault with hq | ⟨name, hname, hq⟩
  · exact .inl (hroot ▸ hq)
  · exact .inr ⟨name, hnames.mem hname, hq⟩

/-- An error about the path itself that has another cause than a NUL. -/
theorem IsAbout.of_fault
    {fault : DiskFault}
    (h : fault ≠ .unusable)
    (p : Path) :
    IsAbout ⟨fault, p.text⟩ p :=
  ⟨p, rfl, List.prefix_refl _, rfl, fun hfault => absurd hfault h⟩

theorem follow_ne_unusable
    {names : List Text}
    {fault : DiskFault}
    (h : d.follow l names = .error fault) :
    fault ≠ .unusable := by
  fun_induction follow d l names with
  | case1 => cases h
  | case2 l name rest hl =>
      cases h
      decide
  | case3 l name rest content hl =>
      cases h
      decide
  | case4 l name rest hl hlong =>
      cases h
      decide
  | case5 l name rest hl hlong ih => exact ih h

theorem locate_error
    (h : d.locate p = .error e) :
    IsAbout e p := by
  unfold locate at h
  split at h
  · cases h
    exact ⟨p, rfl, List.prefix_refl _, rfl, fun _ => Path.hasNul_iff.2 ‹_›⟩
  · obtain ⟨fault, hfollow, rfl⟩ := exists_of_mapError h
    exact .of_fault (follow_ne_unusable hfollow) p

theorem makeFolder_error
    (h : d.makeFolder p = .error e) :
    IsAbout e p := by
  rcases error_of_bind h with hlocate | ⟨l, -, h⟩
  · exact locate_error hlocate
  · split at h
    · cases h
      exact .of_fault (by decide) p
    · cases h

theorem ensureFolder_error
    (h : d.ensureFolder p = .error e) :
    IsAbout e p := by
  unfold ensureFolder at h
  cases hmake : d.makeFolder p with
  | ok made =>
      rw [hmake] at h
      cases h
  | error e' =>
      rw [hmake] at h
      dsimp only at h
      split at h
      · cases h
        exact makeFolder_error hmake
      · cases h

theorem ensureFoldersUp_error
    {root : Text}
    {names : List Text}
    (h : ensureFoldersUp root d names = .error e) :
    IsAbout e ⟨root, names.reverse⟩ := by
  induction names generalizing d with
  | nil => exact ensureFolder_error h
  | cons name outer ih =>
      rw [ensureFoldersUp] at h
      cases hmake : d.makeFolder ⟨root, (name :: outer).reverse⟩ with
      | ok made =>
          rw [hmake] at h
          cases h
      | error e' =>
          rw [hmake] at h
          dsimp only at h
          split at h
          · rcases error_of_bind h with habove | ⟨above, -, h⟩
            · refine (ih habove).of_above rfl ?_
              rw [List.reverse_cons]
              exact List.prefix_append _ _
            · exact ensureFolder_error h
          · split at h
            · cases h
              exact makeFolder_error hmake
            · cases h

/-- A folder that cannot be made is in the way itself, or one above it is. -/
theorem ensureFolders_error
    (h : d.ensureFolders p = .error e) :
    IsAbout e p := by
  have habout := ensureFoldersUp_error h
  rwa [List.reverse_reverse] at habout

theorem writeFile_error
    (h : d.writeFile p content = .error e) :
    IsAbout e p := by
  rcases error_of_bind h with hlocate | ⟨l, -, h⟩
  · exact locate_error hlocate
  · split at h
    · cases h
      exact .of_fault (by decide) p
    · cases h

/-- A file that cannot be saved has an obstacle in its place or above it. -/
theorem save_error
    (h : d.save p content = .error e) :
    IsAbout e p := by
  rcases error_of_bind h with hfolders | ⟨made, -, hwrite⟩
  · exact (ensureFolders_error hfolders).of_above rfl (List.dropLast_prefix _)
  · exact writeFile_error hwrite

/-- A file that cannot be read has an obstacle in its place or above it. -/
theorem read_error
    (h : d.read p = .error e) :
    IsAbout e p := by
  rcases error_of_bind h with hlocate | ⟨l, -, h⟩
  · exact locate_error hlocate
  · split at h
    · cases h
      exact .of_fault (by decide) p
    · cases h
      exact .of_fault (by decide) p
    · cases h

/-- Only a name of too many bytes keeps a run from seeing whether something is there. -/
theorem exists?_error
    (h : d.exists? p = .error e) :
    e.fault = .longName := by
  unfold exists? at h
  split at h
  · cases h
  · split at h
    · cases h
      assumption
    · cases h

end Disk

end BotCanvas
