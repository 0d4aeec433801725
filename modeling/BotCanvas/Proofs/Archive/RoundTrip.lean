import BotCanvas.Archive.Package
import BotCanvas.Proofs.Archive.Checksum
import BotCanvas.Proofs.Archive.Records
import Mathlib.Data.List.Nodup
import Mathlib.Data.List.TakeWhile

/-!
# Packing and reading back

An archive whose entries fit (`Fit`) is read back as these entries. Files are packed if and only if
their paths stand for safe names that are pairwise different, and an archive that keeps the data as
they are is read back as the files, in order, under these names.

The names that are taken grow along the files, so what decides about a list of files is said for any
names that are taken before (`entriesAfter_eq_ok_iff`).
-/

namespace BotCanvas

namespace Archive

/-! ## Archives -/

/-- What is found for each entry behind those before it, is found for all of them. -/
theorem mapM_headers
    {α : Type}
    {look : Bytes → Header → Option α}
    {found : ArchiveEntry → α}
    {entries : List ArchiveEntry}
    (h : ∀ e ∈ entries, ∀ front rest : Bytes,
      look (front ++ (e.localRecord ++ rest)) (e.header front.length) = some (found e))
    (front rest : Bytes) :
    (headers front.length entries).mapM
        (look (front ++ (entries.flatMap ArchiveEntry.localRecord ++ rest))) =
      some (entries.map found) := by
  induction entries generalizing front with
  | nil => rfl
  | cons e entries ih =>
      rw [List.forall_mem_cons] at h
      have hrest := ih h.2 (front ++ e.localRecord)
      rw [List.length_append, List.append_assoc] at hrest
      rw [List.flatMap_cons, List.append_assoc, headers, List.mapM_cons, h.1, hrest]
      rfl

/-- What is found for each entry is found for the directory of an archive. -/
theorem mapM_headers_bytes
    {α : Type}
    {look : Bytes → Header → Option α}
    {found : ArchiveEntry → α}
    {entries : List ArchiveEntry}
    (h : ∀ e ∈ entries, ∀ front rest : Bytes,
      look (front ++ (e.localRecord ++ rest)) (e.header front.length) = some (found e)) :
    (headers 0 entries).mapM (look (bytes entries)) = some (entries.map found) := by
  have hall := mapM_headers h []
    (directory 0 entries ++ closingRecords entries.length (directory 0 entries).length
      (entries.flatMap ArchiveEntry.localRecord).length)
  rwa [List.nil_append, ← List.append_assoc] at hall

/-- Entries that fit into an archive: names have their lengths in two bytes and places have eight,
and one count is what stands for larger ones. -/
structure Fit (entries : List ArchiveEntry) : Prop where
  names : ∀ e ∈ entries, (utf8 e.name).length < 0x10000
  count : entries.length ≠ fullCount
  size : (bytes entries).length < 0x10000000000000000

theorem length_records
    (entries : List ArchiveEntry) :
    (entries.flatMap ArchiveEntry.localRecord).length = extent entries := by
  rw [List.length_flatMap, extent]

/-- Every entry takes some bytes. -/
theorem length_le_extent
    (entries : List ArchiveEntry) :
    entries.length ≤ extent entries := by
  induction entries with
  | nil => exact Nat.zero_le _
  | cons e rest ih =>
      have hlength := e.length_localRecord
      simp only [extent, List.map_cons, List.sum_cons, List.length_cons] at ih ⊢
      omega

/-- Headers of 46 bytes stand before the names in the directory. -/
theorem length_directory_le
    (offset : Nat)
    (entries : List ArchiveEntry) :
    (directory offset entries).length ≤
      (entries.map fun e => 46 + (utf8 e.name).length).sum + 28 * entries.length := by
  induction entries generalizing offset with
  | nil => exact Nat.zero_le _
  | cons e entries ih =>
      have hrest := ih (offset + e.localRecord.length)
      have hextra := e.length_directoryExtra_le offset
      rw [directory, List.length_append, ArchiveEntry.length_directoryRecord, List.map_cons,
        List.sum_cons, List.length_cons]
      omega

/-- An archive is not much longer than the names and the data in it. -/
theorem length_bytes_le
    (entries : List ArchiveEntry) :
    (bytes entries).length ≤
      (entries.map fun e => 30 + (utf8 e.name).length + e.kept.length).sum +
        (entries.map fun e => 46 + (utf8 e.name).length).sum + 48 * entries.length + 98 := by
  have hrecords : extent entries ≤
      (entries.map fun e => 30 + (utf8 e.name).length + e.kept.length).sum +
        20 * entries.length := by
    induction entries with
    | nil => exact Nat.zero_le _
    | cons e rest ih =>
        have hlength := e.length_localRecord
        have hextra := e.length_localExtra_le
        simp only [extent, List.map_cons, List.sum_cons, List.length_cons] at ih ⊢
        omega
  have hdirectory := length_directory_le 0 entries
  have hclosing : ∀ count size offset, (closingRecords count size offset).length ≤ 98 := by
    intro count size offset
    unfold closingRecords
    split
    · exact Nat.le_refl 98
    · exact (by decide : 22 ≤ 98)
  have hclosing := hclosing entries.length (directory 0 entries).length (extent entries)
  rw [bytes, List.length_append, List.length_append, length_records]
  omega

namespace Fit

variable {entries : List ArchiveEntry}

/-- The places of an archive fit. -/
theorem extent_lt
    (h : Fit entries) :
    extent entries + (directory 0 entries).length < 0x10000000000000000 := by
  have hsize := h.size
  rw [bytes, List.length_append, List.length_append, length_records] at hsize
  omega

/-- Each entry fits. -/
theorem fits
    (h : Fit entries)
    {e : ArchiveEntry}
    (he : e ∈ entries) :
    e.Fits := by
  have hrecord : e.localRecord.length ≤ extent entries :=
    List.single_le_sum (fun _ _ => Nat.zero_le _) _ (List.mem_map_of_mem he)
  have hlength := e.length_localRecord
  have hkept := e.length_kept_bounds
  have hextent := h.extent_lt
  exact ⟨h.names e he, by omega, by omega⟩

/-- The directory of an archive is read as the headers of its entries. -/
theorem headers?_bytes
    (h : Fit entries) :
    headers? (bytes entries) = some (headers 0 entries) := by
  have hextent := h.extent_lt
  have hcount := length_le_extent entries
  have hfront : (entries.flatMap ArchiveEntry.localRecord ++ directory 0 entries).length =
      extent entries + (directory 0 entries).length := by
    rw [List.length_append, length_records]
  have hclosing : closing? (bytes entries) =
      some ⟨entries.length, (directory 0 entries).length, extent entries⟩ := by
    rw [bytes, length_records]
    exact closing?_append (by omega) h.count _ hfront hextent
  have hindex : ((bytes entries).drop (extent entries)).take (directory 0 entries).length =
      directory 0 entries := by
    rw [bytes, List.append_assoc, ← length_records, List.drop_left, List.take_left]
  simp only [headers?, hclosing, Option.bind_eq_bind, Option.bind_some, hindex]
  exact (reads_directory (fun e he => h.fits he) (by omega)).whole

/-- An archive of entries that are kept as they are is read as these entries. -/
theorem read?_bytes
    (h : Fit entries)
    (hmethod : ∀ e ∈ entries, e.method = .store) :
    read? (bytes entries) = some (entries.map ArchiveEntry.member) := by
  rw [read?_eq, h.headers?_bytes]
  exact mapM_headers_bytes fun e he front rest =>
    member?_header (h.fits he) (hmethod e he) front rest

/-- The names of entries are read from the directory. -/
theorem names?_bytes
    (h : Fit entries) :
    names? (bytes entries) = some (entries.map ArchiveEntry.name) := by
  have hnames : ∀ offset, (headers offset entries).mapM
      (fun h => decodeName h.fields.flags h.name) = some (entries.map ArchiveEntry.name) := by
    clear h
    induction entries with
    | nil => exact fun _ => rfl
    | cons e rest ih =>
        intro offset
        have hname : decodeName (e.header offset).fields.flags (e.header offset).name =
            some e.name := decodeName_utf8 e
        rw [headers, List.mapM_cons, hname, ih]
        rfl
  rw [names?, h.headers?_bytes]
  exact hnames 0

/-- An archive whose entries fit is unpacked to these entries, whatever their methods are. -/
theorem unpack?_bytes
    (h : Fit entries) :
    unpack? (bytes entries) = some (entries.map ArchiveEntry.member) := by
  rw [unpack?, h.headers?_bytes]
  exact mapM_headers_bytes fun e he front rest => unpacked?_header (h.fits he) front rest

end Fit

end Archive

/-! ## Files -/

namespace GeneratedFile

/-- The text that the path of a file stands for. -/
def entryName (f : GeneratedFile) : Text :=
  Archive.normalise f.path.toList

/-- A file whose path has neither empty parts nor steps to the directory above. -/
def IsSafe (f : GeneratedFile) : Prop :=
  ∀ part ∈ Text.splitOn '/' f.entryName, part ≠ [] ∧ part ≠ ['.', '.']

/-- The entry of a file. -/
def entry (method : Compression) (f : GeneratedFile) : ArchiveEntry :=
  ⟨Archive.storedName f.entryName, method, Archive.utf8 f.content⟩

/-- What a file is read back as. -/
def member (f : GeneratedFile) : Archive.Member where
  name := String.ofList f.entryName
  size := (Archive.utf8 f.content).length
  checksum := (Crc.checksum (Archive.utf8 f.content)).toNat
  data := Archive.utf8 f.content

/-- The test for safe names finds the safe files. -/
theorem isSafe_iff
    {f : GeneratedFile} :
    Archive.isSafe f.entryName = true ↔ f.IsSafe := by
  unfold Archive.isSafe IsSafe
  rw [List.all_eq_true]
  refine forall_congr' fun part => forall_congr' fun _ => ?_
  simp

/-- A name without a NUL is stored as it is. -/
theorem storedName_entryName
    {f : GeneratedFile}
    (h : '\x00' ∉ f.path.toList) :
    Archive.storedName f.entryName = String.ofList f.entryName := by
  have hall : ∀ c ∈ f.entryName, (c.toNat != 0) = true := by
    intro c hc
    obtain ⟨d, hd, rfl⟩ := List.mem_map.1 ((List.dropWhile_sublist _).mem hc)
    rw [bne_iff_ne]
    intro hzero
    have hnul : (if d = '\\' then '/' else d) = '\x00' :=
      Char.toNat_inj.1 hzero
    split at hnul
    · exact absurd hnul (by decide)
    · exact h (hnul ▸ hd)
  rw [Archive.storedName, List.takeWhile_eq_self_iff.2 hall]

end GeneratedFile

namespace Archive

variable {method : Compression}
variable {taken : List Text}
variable {files : List GeneratedFile}
variable {entries : List ArchiveEntry}
variable {archive : Bytes}

/-- One file is packed before others if it is safe, its name is free and the others are packed
without it. -/
theorem entriesAfter_cons_eq_ok_iff
    {f : GeneratedFile} :
    entriesAfter method taken (f :: files) = .ok entries ↔
      f.IsSafe ∧ f.entryName ∉ taken ∧
        ∃ rest, entriesAfter method (f.entryName :: taken) files = .ok rest ∧
          entries = f.entry method :: rest := by
  have hname : normalise f.path.toList = f.entryName := rfl
  rw [entriesAfter, hname, ← GeneratedFile.isSafe_iff, ← List.contains_iff_mem]
  cases isSafe f.entryName with
  | false => simp
  | true =>
      cases taken.contains f.entryName with
      | true => simp
      | false =>
          cases hrest : entriesAfter method (f.entryName :: taken) files with
          | error e => simp [Except.map]
          | ok rest => simp [Except.map, GeneratedFile.entry, eq_comm]

/-- Files are packed after others if they are safe, no name comes twice and none is taken. -/
theorem entriesAfter_eq_ok_iff :
    entriesAfter method taken files = .ok entries ↔
      (∀ f ∈ files, f.IsSafe) ∧ (files.map GeneratedFile.entryName).Nodup ∧
        (∀ f ∈ files, f.entryName ∉ taken) ∧
        entries = files.map (GeneratedFile.entry method) := by
  induction files generalizing taken entries with
  | nil => simp [entriesAfter, eq_comm]
  | cons f files ih =>
      have hfree : (∀ g ∈ files, g.entryName ∉ f.entryName :: taken) ↔
          f.entryName ∉ files.map GeneratedFile.entryName ∧
            ∀ g ∈ files, g.entryName ∉ taken := by
        simp only [List.mem_cons, not_or, List.mem_map, not_exists, not_and]
        exact forall₂_and
      rw [entriesAfter_cons_eq_ok_iff, List.forall_mem_cons, List.map_cons, List.nodup_cons,
        List.forall_mem_cons, List.map_cons]
      constructor
      · rintro ⟨hsafe, hname, rest, hrest, rfl⟩
        obtain ⟨hsafes, hnodup, hfrees, rfl⟩ := ih.1 hrest
        obtain ⟨hnew, hfrees⟩ := hfree.1 hfrees
        exact ⟨⟨hsafe, hsafes⟩, ⟨hnew, hnodup⟩, ⟨hname, hfrees⟩, rfl⟩
      · rintro ⟨⟨hsafe, hsafes⟩, ⟨hnew, hnodup⟩, ⟨hname, hfrees⟩, rfl⟩
        exact ⟨hsafe, hname, _, ih.2 ⟨hsafes, hnodup, hfree.2 ⟨hnew, hfrees⟩, rfl⟩, rfl⟩

/-- Files that stay within the limits of the fields of an archive. -/
structure WithinLimits (files : List GeneratedFile) : Prop where
  names : ∀ f ∈ files, (utf8 (String.ofList f.entryName)).length ≤ 65535
  count : files.length < 65535
  records : (files.map fun f =>
    30 + (utf8 (String.ofList f.entryName)).length + (utf8 f.content).length).sum < 2 ^ 32
  directory : (files.map fun f => 46 + (utf8 (String.ofList f.entryName)).length).sum < 2 ^ 32

/-- What a packed archive consists of, and what was found about its files. -/
theorem package_eq_ok_iff :
    package method files = .ok archive ↔
      (∀ f ∈ files, f.IsSafe) ∧ (files.map GeneratedFile.entryName).Nodup ∧
        archive = bytes (files.map (GeneratedFile.entry method)) := by
  have hmap : package method files = .ok archive ↔
      ∃ entries, entriesAfter method [] files = .ok entries ∧ archive = bytes entries := by
    rw [package, Archive.entries]
    cases entriesAfter method [] files <;> simp [Except.map, eq_comm]
  rw [hmap]
  constructor
  · rintro ⟨entries, hentries, rfl⟩
    obtain ⟨hsafe, hnodup, -, rfl⟩ := entriesAfter_eq_ok_iff.1 hentries
    exact ⟨hsafe, hnodup, rfl⟩
  · rintro ⟨hsafe, hnodup, rfl⟩
    exact ⟨_, entriesAfter_eq_ok_iff.2 ⟨hsafe, hnodup, by simp, rfl⟩, rfl⟩

/-- Files are packed if they are safe and no name comes twice. -/
theorem isOk_package_iff :
    (∃ archive, package method files = .ok archive) ↔
      (∀ f ∈ files, f.IsSafe) ∧ (files.map GeneratedFile.entryName).Nodup := by
  simp only [package_eq_ok_iff, exists_and_left, exists_eq, and_true]

/-- The entries of files within the limits fit into an archive. -/
theorem WithinLimits.fit
    (h : WithinLimits files)
    (hnul : ∀ f ∈ files, '\x00' ∉ f.path.toList) :
    Fit (files.map (GeneratedFile.entry .store)) := by
  have hname : ∀ f ∈ files, (f.entry .store).name = String.ofList f.entryName := by
    intro f hf
    exact GeneratedFile.storedName_entryName (hnul f hf)
  have hrecords : (files.map (GeneratedFile.entry .store)).map
      (fun e => 30 + (utf8 e.name).length + e.kept.length) =
        files.map fun f =>
          30 + (utf8 (String.ofList f.entryName)).length + (utf8 f.content).length := by
    rw [List.map_map]
    refine List.map_congr_left fun f hf => ?_
    rw [Function.comp_apply, hname f hf]
    rfl
  have hdirectory : (files.map (GeneratedFile.entry .store)).map
      (fun e => 46 + (utf8 e.name).length) =
        files.map fun f => 46 + (utf8 (String.ofList f.entryName)).length := by
    rw [List.map_map]
    refine List.map_congr_left fun f hf => ?_
    rw [Function.comp_apply, hname f hf]
  have hcount := h.count
  refine ⟨fun e he => ?_, ?_, ?_⟩
  · obtain ⟨f, hf, rfl⟩ := List.mem_map.1 he
    have hlength := h.names f hf
    rw [hname f hf]
    omega
  · rw [List.length_map, fullCount]
    omega
  · have hlength := length_bytes_le (files.map (GeneratedFile.entry .store))
    rw [hrecords, hdirectory, List.length_map] at hlength
    have hrecordsum := h.records
    have hdirectorysum := h.directory
    omega

/-- The archive of files within the limits is read back as the files. -/
theorem WithinLimits.read?_bytes
    (h : WithinLimits files)
    (hnul : ∀ f ∈ files, '\x00' ∉ f.path.toList) :
    read? (bytes (files.map (GeneratedFile.entry .store))) =
      some (files.map GeneratedFile.member) := by
  have hmembers : (files.map (GeneratedFile.entry .store)).map ArchiveEntry.member =
      files.map GeneratedFile.member := by
    rw [List.map_map]
    refine List.map_congr_left fun f hf => ?_
    have hname : (f.entry .store).name = String.ofList f.entryName :=
      GeneratedFile.storedName_entryName (hnul f hf)
    rw [Function.comp_apply, ArchiveEntry.member, hname]
    rfl
  rw [(h.fit hnul).read?_bytes ?_, hmembers]
  intro e he
  obtain ⟨f, -, rfl⟩ := List.mem_map.1 he
  rfl

/-- Files within the limits are packed, kept as they are, if and only if they are safe and no name
comes twice, and what is packed is read back as the files, with the right checksums. -/
theorem read?_package_store
    (hnul : ∀ f ∈ files, '\x00' ∉ f.path.toList)
    (hlimits : WithinLimits files) :
    ((∃ archive, package .store files = .ok archive) ↔
        (∀ f ∈ files, f.IsSafe) ∧ (files.map GeneratedFile.entryName).Nodup) ∧
      (¬((∀ f ∈ files, f.IsSafe) ∧ (files.map GeneratedFile.entryName).Nodup) →
        ∃ e : PackagingError, package .store files = .error e) ∧
      ∀ archive, package .store files = .ok archive →
        read? archive = some (files.map GeneratedFile.member) ∧
          ∀ f ∈ files, Crc.IsChecksum f.member.data f.member.checksum := by
  refine ⟨isOk_package_iff, ?_, ?_⟩
  · intro hnot
    cases hpackage : package .store files with
    | error e => exact ⟨e, rfl⟩
    | ok archive => exact absurd (isOk_package_iff.1 ⟨archive, hpackage⟩) hnot
  · intro archive hpackage
    rw [package, Archive.entries] at hpackage
    cases hentries : entriesAfter .store [] files with
    | error e =>
        rw [hentries] at hpackage
        cases hpackage
    | ok entries =>
        rw [hentries] at hpackage
        obtain ⟨-, -, -, rfl⟩ := entriesAfter_eq_ok_iff.1 hentries
        cases hpackage
        exact ⟨hlimits.read?_bytes hnul, fun f _ => Crc.isChecksum_checksum _⟩

/-- Two files, one with a mark of an archive in it and one without content. -/
def markedFiles : List GeneratedFile :=
  [⟨"/src\\index.js", "PK\x05\x06"⟩, ⟨"r\u00e9sum\u00e9.md", ""⟩]

/-- They are packed and read back. -/
theorem read?_package_markedFiles :
    WithinLimits markedFiles ∧ ∃ archive, package .store markedFiles = .ok archive ∧
      read? archive = some (markedFiles.map GeneratedFile.member) ∧
      markedFiles.map GeneratedFile.entryName = ["src/index.js".toList, "résumé.md".toList] := by
  have hlimits : WithinLimits markedFiles := by
    constructor
    · simp only [utf8_eq]
      decide +kernel
    · decide
    · simp only [utf8_eq]
      decide +kernel
    · simp only [utf8_eq]
      decide +kernel
  obtain ⟨hiff, -, hread⟩ := read?_package_store (by decide +kernel) hlimits
  have hsafe : ∀ f ∈ markedFiles, f.IsSafe := by
    intro f hf
    rw [← GeneratedFile.isSafe_iff]
    revert f
    decide +kernel
  obtain ⟨archive, hpackage⟩ := hiff.2 ⟨hsafe, by decide +kernel⟩
  exact ⟨hlimits, archive, hpackage, (hread archive hpackage).1, by decide +kernel⟩

end Archive

end BotCanvas
