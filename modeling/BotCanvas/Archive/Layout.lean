import BotCanvas.Archive.Crc
import BotCanvas.Text.Basic

/-!
# Archive layout

An archive is a list of entries, each with a header of its own, then a directory with one header
for each entry, and a closing record that says where the directory is. Numbers are stored with the
lowest byte first. All entries carry the first date that the format knows, and the rights of a
plain file.

**Wide numbers.** Sizes and places have four bytes. One that might not fit there is moved: its field
is full, and the number has eight bytes behind the name of the header. The closing record has a wide
one in front of it if one of its numbers is large.
-/

namespace BotCanvas

/-- How the data of an entry is kept. -/
inductive Compression
  | store
  | deflate
  deriving DecidableEq

namespace Compression

/-- The number of a method. -/
def number : Compression → Nat
  | store => 0
  | deflate => 8

/-- All methods with their names. -/
def table : List (String × Compression) :=
  [("deflate", deflate), ("store", store)]

/-- The name of a method. -/
def name : Compression → String
  | store => "store"
  | deflate => "deflate"

end Compression

/-- An entry: its name, the method and the data. -/
structure ArchiveEntry where
  name : String
  method : Compression
  data : Bytes
  deriving DecidableEq

namespace Archive

/-- A number in two bytes. -/
def two (n : Nat) : Bytes :=
  [UInt8.ofNat n, UInt8.ofNat (n / 0x100)]

/-- A number in four bytes. -/
def four (n : Nat) : Bytes :=
  [UInt8.ofNat n, UInt8.ofNat (n / 0x100), UInt8.ofNat (n / 0x10000),
   UInt8.ofNat (n / 0x1000000)]

/-- A number in eight bytes. -/
def eight (n : Nat) : Bytes :=
  four n ++ four (n / 0x100000000)

@[simp]
theorem length_two (n : Nat) : (two n).length = 2 := rfl

@[simp]
theorem length_four (n : Nat) : (four n).length = 4 := rfl

@[simp]
theorem length_eight (n : Nat) : (eight n).length = 8 := rfl

/-- The bytes of a text. -/
def utf8 (s : String) : Bytes :=
  s.toUTF8.toList

/-- The version of the format that is needed. -/
def version : Nat := 20

/-- The version of the format that is needed for wide numbers. -/
def wideVersion : Nat := 45

/-- The system that the rights of a file are meant for. -/
def system : Nat := 3

/-- The first date that the format knows. -/
def date : Nat := 0x21

/-- The rights of a plain file: its owner may write, all may read. -/
def rights : Nat := 0o644

/-- The mark of a name that goes beyond ASCII. -/
def utf8Flag : Nat := 0x800

/-- The largest size or place that is not moved. -/
def narrowLimit : Nat := 0x7fffffff

/-- What is in the field of a size or a place that is moved. -/
def full : Nat := 0xffffffff

/-- The largest count that a closing record has, and what it has for larger ones. -/
def fullCount : Nat := 0xffff

/-- What is in the field of a number. -/
def narrow (wide : Bool) (n : Nat) : Nat :=
  if wide then full else n

/-- What stands behind a name: the wide numbers, if there are any. -/
def extra (numbers : List Nat) : Bytes :=
  if numbers.isEmpty then []
  else two 1 ++ (two (8 * numbers.length) ++ numbers.flatMap eight)

theorem length_flatMap_eight (numbers : List Nat) :
    (numbers.flatMap eight).length = 8 * numbers.length := by
  induction numbers with
  | nil => rfl
  | cons n rest ih =>
    rw [List.flatMap_cons, List.length_append, length_eight, ih, List.length_cons]
    omega

/-- Wide numbers have a header of four bytes. -/
theorem length_extra_le (numbers : List Nat) :
    (extra numbers).length ≤ 4 + 8 * numbers.length := by
  unfold extra
  split
  · exact Nat.zero_le _
  · simp only [List.length_append, length_two, length_flatMap_eight]
    omega

/-- The longest block of data that is kept as it is inside a deflate stream. -/
def blockLimit : Nat := 65535

/-- A deflate stream that keeps its data as it is, in blocks. -/
def blocks : (fuel : Nat) → Bytes → Bytes
  | 0, _ => []
  | fuel + 1, data =>
      let block := data.take blockLimit
      let rest := data.drop blockLimit
      (if rest.isEmpty then 1 else 0) :: two block.length ++ two (0xffff - block.length) ++
        block ++ (if rest.isEmpty then [] else blocks fuel rest)

/-- A stream is longer than its data by five bytes for each block. -/
theorem length_blocks_bounds {fuel : Nat} {data : Bytes} (h : data.length < fuel) :
    data.length ≤ (blocks fuel data).length ∧
      (blocks fuel data).length ≤ data.length + 5 * (data.length / blockLimit + 1) := by
  induction fuel generalizing data with
  | zero => omega
  | succ fuel ih =>
    have hblock : (data.take blockLimit).length = min blockLimit data.length := List.length_take
    have hrest : (data.drop blockLimit).length = data.length - blockLimit := List.length_drop
    rw [blocks]
    unfold blockLimit at *
    cases hempty : (data.drop 65535).isEmpty with
    | true =>
      rw [List.isEmpty_iff.1 hempty, List.length_nil] at hrest
      simp only [if_true, List.length_append, List.length_cons, length_two, List.length_nil]
      omega
    | false =>
      have hne : data.drop 65535 ≠ [] := by
        intro hnil
        rw [hnil] at hempty
        cases hempty
      have hpos := List.length_pos_iff.2 hne
      have hrec := ih (show (data.drop 65535).length < fuel by omega)
      simp only [Bool.false_eq_true, if_false, List.length_append, List.length_cons, length_two]
      omega

end Archive

namespace ArchiveEntry

open Archive

/-- The flags of an entry. -/
def flags (e : ArchiveEntry) : Nat :=
  if e.name.toList.all fun c => c.toNat < 128 then 0 else utf8Flag

/-- The data as it is kept. -/
def kept (e : ArchiveEntry) : Bytes :=
  match e.method with
  | .store => e.data
  | .deflate => blocks (e.data.length + 1) e.data

/-- The data keep their length, up to the headers of their blocks. -/
theorem length_kept_bounds (e : ArchiveEntry) :
    e.data.length ≤ e.kept.length ∧
      e.kept.length ≤ e.data.length + 5 * (e.data.length / blockLimit + 1) := by
  unfold kept
  cases e.method with
  | store => exact ⟨Nat.le_refl _, Nat.le_add_right _ _⟩
  | deflate => exact length_blocks_bounds (Nat.lt_succ_self _)

/-- Tests for data that have wide sizes in the header of the entry: it is written before the data
are kept, and leaves room for a twentieth more. -/
def isWide (e : ArchiveEntry) : Bool :=
  20 * narrowLimit < 21 * e.data.length

/-- Tests for data that have wide sizes in the directory. -/
def isWideInDirectory (e : ArchiveEntry) : Bool :=
  narrowLimit < e.data.length || narrowLimit < e.kept.length

/-- The sizes of an entry, if they are wide. -/
def wideSizes (e : ArchiveEntry) (wide : Bool) : List Nat :=
  if wide then [e.data.length, e.kept.length] else []

/-- What stands behind the name in the header of the entry. -/
def localExtra (e : ArchiveEntry) : Bytes :=
  extra (e.wideSizes e.isWide)

/-- The wide numbers of an entry in the directory. -/
def directoryNumbers (e : ArchiveEntry) (offset : Nat) : List Nat :=
  e.wideSizes e.isWideInDirectory ++ if narrowLimit < offset then [offset] else []

/-- What stands behind the name in the directory. -/
def directoryExtra (e : ArchiveEntry) (offset : Nat) : Bytes :=
  extra (e.directoryNumbers offset)

/-- The version in the header of the entry. -/
def localVersion (e : ArchiveEntry) : Nat :=
  if e.isWide then wideVersion else version

/-- The version in the directory. -/
def directoryVersion (e : ArchiveEntry) (offset : Nat) : Nat :=
  if (e.directoryNumbers offset).isEmpty then e.localVersion else wideVersion

/-- The fields that both headers of an entry share. -/
def sharedFields (e : ArchiveEntry) (version : Nat) (wide : Bool) (extra : Bytes) : Bytes :=
  two version ++ two e.flags ++ two e.method.number ++ two 0 ++ two date ++
    four (Crc.checksum e.data).toNat ++ four (narrow wide e.kept.length) ++
    four (narrow wide e.data.length) ++ two (utf8 e.name).length ++ two extra.length

/-- The entry as it stands in the archive: its header, its name and its data. -/
def localRecord (e : ArchiveEntry) : Bytes :=
  [0x50, 0x4b, 3, 4] ++ e.sharedFields e.localVersion e.isWide e.localExtra ++ utf8 e.name ++
    e.localExtra ++ e.kept

/-- The header of the entry in the directory. -/
def directoryRecord (e : ArchiveEntry) (offset : Nat) : Bytes :=
  [0x50, 0x4b, 1, 2, UInt8.ofNat (e.directoryVersion offset), UInt8.ofNat system] ++
    e.sharedFields (e.directoryVersion offset) e.isWideInDirectory (e.directoryExtra offset) ++
    two 0 ++ two 0 ++ two 0 ++ four (rights * 0x10000) ++
    four (narrow (narrowLimit < offset) offset) ++ utf8 e.name ++ e.directoryExtra offset

/-- Two sizes can be wide. -/
theorem length_localExtra_le (e : ArchiveEntry) :
    e.localExtra.length ≤ 20 := by
  have hextra := length_extra_le (e.wideSizes e.isWide)
  have hsizes : (e.wideSizes e.isWide).length ≤ 2 := by
    unfold wideSizes
    split <;> simp
  unfold localExtra
  omega

/-- In the directory three numbers can be wide. -/
theorem length_directoryNumbers_le (e : ArchiveEntry) (offset : Nat) :
    (e.directoryNumbers offset).length ≤ 3 := by
  unfold directoryNumbers wideSizes
  split <;> split <;> simp

theorem length_directoryExtra_le (e : ArchiveEntry) (offset : Nat) :
    (e.directoryExtra offset).length ≤ 28 := by
  have hextra := length_extra_le (e.directoryNumbers offset)
  have hnumbers := e.length_directoryNumbers_le offset
  unfold directoryExtra
  omega

/-- A header of 30 bytes stands before the name and the data. -/
theorem length_localRecord (e : ArchiveEntry) :
    e.localRecord.length =
      30 + (utf8 e.name).length + e.localExtra.length + e.kept.length := by
  simp [localRecord, sharedFields]
  omega

/-- A header of 46 bytes stands before the name in the directory. -/
theorem length_directoryRecord (e : ArchiveEntry) (offset : Nat) :
    (e.directoryRecord offset).length =
      46 + (utf8 e.name).length + (e.directoryExtra offset).length := by
  simp [directoryRecord, sharedFields]
  omega

end ArchiveEntry

namespace Archive

/-- The headers of the directory; the first entry starts at the given offset. -/
def directory : (offset : Nat) → List ArchiveEntry → Bytes
  | _, [] => []
  | offset, e :: rest =>
      e.directoryRecord offset ++ directory (offset + e.localRecord.length) rest

/-- The closing record. -/
def closing (count size offset : Nat) : Bytes :=
  [0x50, 0x4b, 5, 6] ++ two 0 ++ two 0 ++ two count ++ two count ++ four size ++ four offset ++
    two 0

/-- The wide closing record. -/
def wideClosing (count size offset : Nat) : Bytes :=
  [0x50, 0x4b, 6, 6] ++ eight 44 ++ two wideVersion ++ two wideVersion ++ four 0 ++ four 0 ++
    eight count ++ eight count ++ eight size ++ eight offset

/-- The record that says where the wide closing record is. -/
def locator (place : Nat) : Bytes :=
  [0x50, 0x4b, 6, 7] ++ four 0 ++ eight place ++ four 1

/-- The records behind a directory, which begins at the offset. -/
def closingRecords (count size offset : Nat) : Bytes :=
  if fullCount < count ∨ narrowLimit < offset ∨ narrowLimit < size then
    wideClosing count size offset ++ (locator (offset + size) ++
      closing (min count fullCount) (min size full) (min offset full))
  else closing count size offset

/-- The bytes of an archive. -/
def bytes (entries : List ArchiveEntry) : Bytes :=
  let records := entries.flatMap ArchiveEntry.localRecord
  let index := directory 0 entries
  records ++ index ++ closingRecords entries.length index.length records.length

end Archive

end BotCanvas
