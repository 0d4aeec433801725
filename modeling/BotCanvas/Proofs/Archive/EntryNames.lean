import BotCanvas.Proofs.Archive.RoundTrip
import BotCanvas.Proofs.Text.Rows

/-!
# Names of entries

An archive is safe to unpack if each of its names leads to a place of its own below the directory
that it is unpacked in (`SafeNames`). Files are looked through for that before they are packed, but
a name is cut at its first NUL only afterwards, when it is stored.

**What a cut can do.** All parts of a cut name but the last one are parts of the whole name. So only
the last part can turn out empty or as two dots, and two names can turn out the same
(`safeNames_iff`). Without a NUL nothing is cut, and the names that were looked through are the
names that are stored.
-/

namespace BotCanvas

namespace Archive

/-- A name that leads to a place below the directory that an archive is unpacked in. -/
structure IsSafeName (name : Text) : Prop where
  ne_nil : name ≠ []
  relative : name.head? ≠ some '/'
  parts : ∀ part ∈ Text.splitOn '/' name, part ≠ [] ∧ part ≠ ['.', '.']

/-- Safe names that are pairwise different. -/
def SafeNames (names : List Text) : Prop :=
  (∀ name ∈ names, IsSafeName name) ∧ names.Nodup

/-- The parts of a name decide. -/
theorem isSafeName_iff
    {name : Text} :
    IsSafeName name ↔ ∀ part ∈ Text.splitOn '/' name, part ≠ [] ∧ part ≠ ['.', '.'] := by
  refine ⟨IsSafeName.parts, fun h => ⟨?_, ?_, h⟩⟩
  · rintro rfl
    exact (h [] (by simp [Text.splitOn])).1 rfl
  · intro hhead
    obtain ⟨r, rfl⟩ := List.head?_eq_some_iff.1 hhead
    exact (h [] (by simp [Text.splitOn])).1 rfl

end Archive

namespace GeneratedFile

open Archive

/-- The name that a file gets in an archive. -/
def storedName (f : GeneratedFile) : Text :=
  f.entryName.takeWhile fun c => c.toNat != 0

/-- What follows the last slash of that name. -/
def lastPart (f : GeneratedFile) : Text :=
  (Text.splitOn '/' f.storedName).getLast (Text.splitOn_ne_nil _ _)

/-- The stored name of a safe file is safe if its last part is. -/
theorem IsSafe.isSafeName_storedName_iff
    {f : GeneratedFile}
    (h : f.IsSafe) :
    IsSafeName f.storedName ↔ f.lastPart ≠ [] ∧ f.lastPart ≠ ['.', '.'] := by
  rw [isSafeName_iff]
  refine ⟨fun hparts => hparts _ (List.getLast_mem _), fun hlast part hpart => ?_⟩
  have hkept : (Text.splitOn '/' f.storedName).dropLast <+: Text.splitOn '/' f.entryName := by
    conv_rhs => rw [← List.takeWhile_append_dropWhile (p := fun c : Char => c.toNat != 0)
      (l := f.entryName)]
    exact Text.dropLast_splitOn_prefix '/' _ _
  rw [← List.dropLast_concat_getLast (Text.splitOn_ne_nil '/' f.storedName), List.mem_append,
    List.mem_singleton] at hpart
  rcases hpart with hpart | rfl
  · exact h part (hkept.mem hpart)
  · exact hlast

/-- Without a NUL the whole name is stored. -/
theorem storedName_of_nul
    {f : GeneratedFile}
    (h : '\x00' ∉ f.path.toList) :
    f.storedName = f.entryName :=
  String.ofList_injective (storedName_entryName h)

end GeneratedFile

namespace Archive

variable {method : Compression}
variable {files : List GeneratedFile}
variable {archive : Bytes}

/-- A few short entries fit. -/
theorem fit_of_sum_lt
    {entries : List ArchiveEntry}
    (h : (entries.map fun e =>
      46 + (utf8 e.name).length + e.data.length + e.kept.length).sum < 0x10000) :
    Fit entries := by
  have hless : ∀ size : ArchiveEntry → Nat,
      (∀ e, size e ≤ 46 + (utf8 e.name).length + e.data.length + e.kept.length) →
        (entries.map size).sum < 0x10000 :=
    fun size hsize => (List.sum_le_sum fun e _ => hsize e).trans_lt h
  refine ⟨fun e he => ?_, ?_, ?_⟩
  · have heach := List.single_le_sum (fun _ _ => Nat.zero_le _) _ (List.mem_map_of_mem (f := fun e :
      ArchiveEntry => 46 + (utf8 e.name).length + e.data.length + e.kept.length) he)
    omega
  · have hcount := hless (fun _ => 2) fun e => by omega
    simp only [List.map_const', List.sum_replicate, smul_eq_mul] at hcount
    unfold fullCount
    omega
  · have hlength := length_bytes_le entries
    have hrecords := hless (fun e => 30 + (utf8 e.name).length + e.kept.length) fun e => by omega
    have hdirectory := hless (fun e => 46 + (utf8 e.name).length) fun e => by omega
    have hcount := hless (fun _ => 1) fun e => by omega
    simp only [List.map_const', List.sum_replicate, smul_eq_mul] at hcount
    omega

/-- The names of safe files are safe if no cut leaves an empty part or two dots at the end of a name
and no two names are cut to the same. -/
theorem safeNames_iff
    (hsafe : ∀ f ∈ files, f.IsSafe) :
    SafeNames (files.map GeneratedFile.storedName) ↔
      (∀ f ∈ files, f.lastPart ≠ [] ∧ f.lastPart ≠ ['.', '.']) ∧
        (files.map GeneratedFile.storedName).Nodup := by
  refine and_congr ?_ Iff.rfl
  rw [List.forall_mem_map]
  exact forall₂_congr fun f hf => (hsafe f hf).isSafeName_storedName_iff

/-- The names of safe files with different names are safe if no path holds a NUL. -/
theorem safeNames_of_nul
    (hsafe : ∀ f ∈ files, f.IsSafe)
    (hnodup : (files.map GeneratedFile.entryName).Nodup)
    (hnul : ∀ f ∈ files, '\x00' ∉ f.path.toList) :
    SafeNames (files.map GeneratedFile.storedName) := by
  have hsame : files.map GeneratedFile.storedName = files.map GeneratedFile.entryName :=
    List.map_congr_left fun f hf => GeneratedFile.storedName_of_nul (hnul f hf)
  rw [hsame]
  refine ⟨?_, hnodup⟩
  rw [List.forall_mem_map]
  exact fun f hf => isSafeName_iff.2 (hsafe f hf)

/-- The directory of a packed archive names the files by what their paths stand for, up to the first
NUL. These names are safe and pairwise different just if no cut ends a name with an empty part or
two dots and no two names are cut to the same; that is so if no path holds a NUL. -/
theorem names_of_package
    (hpackage : package method files = .ok archive) :
    archive = bytes (files.map (GeneratedFile.entry method)) ∧
      (Fit (files.map (GeneratedFile.entry method)) →
        names? archive = some (files.map fun f => String.ofList f.storedName)) ∧
      (SafeNames (files.map GeneratedFile.storedName) ↔
        (∀ f ∈ files, f.lastPart ≠ [] ∧ f.lastPart ≠ ['.', '.']) ∧
          (files.map GeneratedFile.storedName).Nodup) ∧
      ((∀ f ∈ files, '\x00' ∉ f.path.toList) →
        SafeNames (files.map GeneratedFile.storedName)) := by
  obtain ⟨hsafe, hnodup, rfl⟩ := package_eq_ok_iff.1 hpackage
  refine ⟨rfl, fun hfit => ?_, safeNames_iff hsafe, safeNames_of_nul hsafe hnodup⟩
  rw [hfit.names?_bytes, List.map_map]
  rfl

/-- Two files, one with a NUL in its path. -/
def nulFiles : List GeneratedFile :=
  [⟨"docs\\a.md\x00b", "1"⟩, ⟨"/docs/c.md", ""⟩]

/-- They are packed, and the names in the directory are safe. -/
theorem names_of_package_nulFiles :
    ∃ archive, package .deflate nulFiles = .ok archive ∧
      names? archive = some ["docs/a.md", "docs/c.md"] ∧
      SafeNames (nulFiles.map GeneratedFile.storedName) := by
  have hsafe : ∀ f ∈ nulFiles, f.IsSafe := by
    intro f hf
    rw [← GeneratedFile.isSafe_iff]
    revert f
    decide +kernel
  have hfit : Fit (nulFiles.map (GeneratedFile.entry .deflate)) := by
    refine fit_of_sum_lt ?_
    simp only [nulFiles, List.map_cons, List.map_nil, GeneratedFile.entry, ArchiveEntry.kept,
      utf8_eq]
    decide +kernel
  have hpackage : package .deflate nulFiles = .ok _ :=
    package_eq_ok_iff.2 ⟨hsafe, by decide +kernel, rfl⟩
  obtain ⟨-, hnames, hiff, -⟩ := names_of_package hpackage
  exact ⟨_, hpackage, (hnames hfit).trans (by decide +kernel), hiff.2 (by decide +kernel)⟩

/-- A cut can leave the way to the directory above. -/
theorem not_forall_safeNames :
    ¬∀ method files archive names, package method files = .ok archive →
      names? archive = some names → SafeNames (names.map String.toList) := by
  intro h
  have hsafe : (⟨"..\x00", "x"⟩ : GeneratedFile).IsSafe :=
    GeneratedFile.isSafe_iff.1 (by decide +kernel)
  have hfit : Fit [(⟨"..\x00", "x"⟩ : GeneratedFile).entry .store] := by
    refine fit_of_sum_lt ?_
    simp only [List.map_cons, List.map_nil, GeneratedFile.entry, ArchiveEntry.kept, utf8_eq]
    decide +kernel
  have hnames := hfit.names?_bytes
  have hpackage : package .store [⟨"..\x00", "x"⟩] = .ok _ :=
    package_eq_ok_iff.2 ⟨List.forall_mem_singleton.2 hsafe, List.nodup_singleton _, rfl⟩
  have hnot := (h _ _ _ _ hpackage hnames).1 ['.', '.'] (by decide +kernel)
  exact (hnot.parts ['.', '.'] (by decide)).2 rfl

end Archive

end BotCanvas
