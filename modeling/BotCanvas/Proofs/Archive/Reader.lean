import BotCanvas.Archive.Layout
import Mathlib.Algebra.Order.BigOperators.Group.List
import Mathlib.Algebra.Order.Ring.Nat
import Mathlib.Data.List.Basic

/-!
# Reading archives

An archive is read from its end: the closing record says where the directory is, a header of the
directory says where its entry is, and the entry has a header of its own before the data. Where a
field is full, the number is among the wide ones.

**Reading.** A reader takes a prefix of the bytes or fails. What it finds is compared: the marks in
front of the records, the two headers of an entry, the length of the data and its checksum.

An archive is unpacked under either method: data that are kept as they are stand for themselves,
and a deflate stream is read block by block (`inflate`).

**Writing and reading.** `Reads` says that a reader takes just the given bytes from whatever begins
with them. Readers that do so one after another do so together.
-/

namespace BotCanvas.Archive

/-! ## Readers -/

/-- A reader of a prefix of bytes. -/
abbrev Reader := StateT Bytes Option

/-- So many bytes as they stand. -/
def raw (n : Nat) : Reader Bytes := fun bs =>
  if n ≤ bs.length then some (bs.take n, bs.drop n) else none

/-- The number that bytes stand for, the lowest byte first. -/
def littleEndian : Bytes → Nat
  | [] => 0
  | b :: bs => b.toNat + 0x100 * littleEndian bs

/-- A number in so many bytes. -/
def number (n : Nat) : Reader Nat := do
  return littleEndian (← raw n)

/-- The mark of a record. -/
def mark (bytes : Bytes) : Reader Unit := do
  let found ← raw bytes.length
  guard (found = bytes)

/-- What a reader finds that takes all of the bytes. -/
def whole {α : Type} (reader : Reader α) (bytes : Bytes) : Option α := do
  let (a, rest) ← reader.run bytes
  guard (rest = [])
  return a

/-- A number of things of one kind, one behind the other. -/
def repeated {α : Type} : Nat → Reader α → Reader (List α)
  | 0, _ => return []
  | n + 1, reader => do
      let first ← reader
      let rest ← repeated n reader
      return first :: rest

/-! ## Records -/

/-- The fields that both headers of an entry share. -/
structure Fields where
  version : Nat
  flags : Nat
  method : Nat
  time : Nat
  date : Nat
  checksum : Nat
  keptSize : Nat
  size : Nat
  nameLength : Nat
  extraLength : Nat
  deriving DecidableEq

/-- The shared fields in their order. -/
def fields : Reader Fields := do
  let version ← number 2
  let flags ← number 2
  let method ← number 2
  let time ← number 2
  let date ← number 2
  let checksum ← number 4
  let keptSize ← number 4
  let size ← number 4
  let nameLength ← number 2
  let extraLength ← number 2
  return ⟨version, flags, method, time, date, checksum, keptSize, size, nameLength, extraLength⟩

/-- What stands behind the name of a header: its kind and its bytes. -/
def extraField : Reader (Nat × Bytes) := do
  let kind ← number 2
  let size ← number 2
  let bytes ← raw size
  return (kind, bytes)

/-- All that stands behind the name of a header. -/
def extraFields : (fuel : Nat) → Reader (List (Nat × Bytes))
  | 0 => return []
  | fuel + 1 => do
      if (← get).isEmpty then return []
      let first ← extraField
      let rest ← extraFields fuel
      return first :: rest

/-- The wide numbers behind the name of a header. Other kinds are passed over. -/
def wideNumbers? (extra : Bytes) : Option (List Nat) := do
  let found ← whole (extraFields extra.length) extra
  match found.lookup 1 with
  | none => return []
  | some bytes => whole (repeated (bytes.length / 8) (number 8)) bytes

/-- What a field says, or the next of the wide numbers if the field is full. -/
def widen (n : Nat) : StateT (List Nat) Option Nat := fun wide =>
  if n = full then
    match wide with
    | [] => none
    | w :: rest => some (w, rest)
  else some (n, wide)

/-- The shared fields with the sizes that they stand for. -/
def widenSizes (shared : Fields) : StateT (List Nat) Option Fields := do
  let size ← widen shared.size
  let keptSize ← widen shared.keptSize
  return { shared with size := size, keptSize := keptSize }

/-- What the directory says about an entry. -/
structure Header where
  fields : Fields
  offset : Nat
  name : Bytes

/-- A header of the directory. -/
def header : Reader Header := do
  mark [0x50, 0x4b, 1, 2]
  let _writtenBy ← number 2
  let shared ← fields
  let commentLength ← number 2
  let _disk ← number 2
  let _internalRights ← number 2
  let _externalRights ← number 4
  let offset ← number 4
  let name ← raw shared.nameLength
  let extra ← raw shared.extraLength
  let _comment ← raw commentLength
  let wide ← wideNumbers? extra
  let (shared, wide) ← (widenSizes shared).run wide
  let offset ← (widen offset).run' wide
  return ⟨shared, offset, name⟩

/-- The data of an entry, behind a header that agrees with the directory. What stands behind the
names may be different, and so may the versions. -/
def content (h : Header) : Reader Bytes := do
  mark [0x50, 0x4b, 3, 4]
  let shared ← fields
  let name ← raw shared.nameLength
  let extra ← raw shared.extraLength
  let wide ← wideNumbers? extra
  let shared ← (widenSizes shared).run' wide
  guard (name = h.name ∧
    { shared with version := h.fields.version, extraLength := h.fields.extraLength } = h.fields)
  raw shared.keptSize

/-- Where the directory is, and how many headers it has. -/
structure Closing where
  count : Nat
  size : Nat
  offset : Nat

/-- The closing record of an archive on one disk, with its comment. -/
def ending : Reader Closing := do
  mark [0x50, 0x4b, 5, 6]
  let disk ← number 2
  let directoryDisk ← number 2
  let here ← number 2
  let count ← number 2
  let size ← number 4
  let offset ← number 4
  let commentLength ← number 2
  guard (disk = 0 ∧ directoryDisk = 0 ∧ here = count)
  let _comment ← raw commentLength
  return ⟨count, size, offset⟩

/-- The wide closing record of an archive on one disk. -/
def wideEnding : Reader Closing := do
  mark [0x50, 0x4b, 6, 6]
  let _size ← number 8
  let _writtenBy ← number 2
  let _version ← number 2
  let disk ← number 4
  let directoryDisk ← number 4
  let here ← number 8
  let count ← number 8
  let size ← number 8
  let offset ← number 8
  guard (disk = 0 ∧ directoryDisk = 0 ∧ here = count)
  return ⟨count, size, offset⟩

/-- Where the wide closing record is. -/
def place : Reader Nat := do
  mark [0x50, 0x4b, 6, 7]
  let disk ← number 4
  let place ← number 8
  let disks ← number 4
  guard (disk = 0 ∧ disks = 1)
  return place

/-- The wide closing record in front of the closing record. -/
def wideClosing? (front : Bytes) : Option Closing := do
  let place ← whole place (front.drop (front.length - 20))
  wideEnding.run' (front.drop place)

/-- Tests for a closing record with a full field. -/
def Closing.isFull (c : Closing) : Bool :=
  c.count = fullCount || c.size = full || c.offset = full

/-- The closing record from a place on, or the wide one in front of it if a field is full. -/
def closingAt? (archive : Bytes) (place : Nat) : Option Closing := do
  let closing ← whole ending (archive.drop place)
  if closing.isFull then return (wideClosing? (archive.take place)).getD closing
  else return closing

/-- The closing record with the shortest comment. -/
def closing? (archive : Bytes) : Option Closing :=
  (List.range 0x10000).findSome? fun commentLength =>
    closingAt? archive (archive.length - (22 + commentLength))

/-! ## Members -/

/-- The text of a name: UTF-8 if its flag is set, else ASCII. -/
def decodeName (flags : Nat) (name : Bytes) : Option String :=
  if flags.testBit 11 then String.fromUTF8? name.toByteArray
  else if name.all fun b => b < 128 then
    some (String.ofList (name.map fun b => Char.ofNat b.toNat))
  else none

/-- What an archive holds under a name. -/
structure Member where
  name : String
  size : Nat
  checksum : Nat
  data : Bytes

/-- The member that a header of the directory stands for, kept as it is. -/
def member? (archive : Bytes) (h : Header) : Option Member := do
  let data ← (content h).run' (archive.drop h.offset)
  let name ← decodeName h.fields.flags h.name
  guard (h.fields.method = Compression.store.number ∧ data.length = h.fields.size ∧
    (Crc.checksum data).toNat = h.fields.checksum)
  return ⟨name, h.fields.size, h.fields.checksum, data⟩

/-- The members of an archive in the order of its directory. -/
def read? (archive : Bytes) : Option (List Member) := do
  let closing ← closing? archive
  let headers ← whole (repeated closing.count header)
    ((archive.drop closing.offset).take closing.size)
  headers.mapM (member? archive)

/-- The headers in the directory of an archive. -/
def headers? (archive : Bytes) : Option (List Header) := do
  let closing ← closing? archive
  whole (repeated closing.count header) ((archive.drop closing.offset).take closing.size)

/-- The names in the directory of an archive, however the data are kept. -/
def names? (archive : Bytes) : Option (List String) := do
  (← headers? archive).mapM fun h => decodeName h.fields.flags h.name

/-- The data of a deflate stream whose blocks keep them as they are. A byte in front of each block
says whether it is the last one, and of which type it is; the length comes twice, the second time
with all bits flipped. -/
def inflate : (fuel : Nat) → Reader Bytes
  | 0 => failure
  | fuel + 1 => do
      let first ← number 1
      let length ← number 2
      let flipped ← number 2
      guard (first % 8 ≤ 1 ∧ length + flipped = 0xffff)
      let block ← raw length
      if first % 2 = 1 then return block
      else return block ++ (← inflate fuel)

/-- The data that an entry was made of, given its method, their size and the data as they are
kept. -/
def expand (method size : Nat) (kept : Bytes) : Option Bytes :=
  if method = Compression.store.number then some kept
  else if method = Compression.deflate.number then whole (inflate (size + 1)) kept
  else none

/-- The member that a header of the directory stands for, under either method. -/
def unpacked? (archive : Bytes) (h : Header) : Option Member := do
  let kept ← (content h).run' (archive.drop h.offset)
  let name ← decodeName h.fields.flags h.name
  let data ← expand h.fields.method h.fields.size kept
  guard (data.length = h.fields.size ∧ (Crc.checksum data).toNat = h.fields.checksum)
  return ⟨name, h.fields.size, h.fields.checksum, data⟩

/-- The members of an archive in the order of its directory, under either method. -/
def unpack? (archive : Bytes) : Option (List Member) := do
  (← headers? archive).mapM (unpacked? archive)

/-- The members are found by the headers in the directory. -/
theorem read?_eq
    (archive : Bytes) :
    read? archive = (headers? archive).bind (List.mapM (member? archive)) := by
  rw [headers?, Option.bind_eq_bind, Option.bind_assoc]
  rfl

/-! ## Reading what was written -/

/-- What a run finds, without the state that it leaves. -/
theorem run'_of_run
    {σ α : Type}
    {run : StateT σ Option α}
    {s s' : σ}
    {a : α}
    (h : run.run s = some (a, s')) :
    run.run' s = some a := by
  show (run.run s).map Prod.fst = some a
  rw [h]
  rfl

/-- A reader takes just the given bytes and finds a thing. -/
def Reads {α : Type} (reader : Reader α) (bytes : Bytes) (a : α) : Prop :=
  ∀ rest, reader.run (bytes ++ rest) = some (a, rest)

namespace Reads

variable {α β : Type}
variable {reader : Reader α}
variable {bytes bytes' : Bytes}
variable {a : α}

/-- Nothing is taken to find a thing that is given. -/
theorem pure
    (a : α) :
    Reads (Pure.pure a) [] a := by
  intro rest
  rfl

/-- One reader takes its bytes after another. -/
theorem bind
    {next : α → Reader β}
    {b : β}
    (h : Reads reader bytes a)
    (hnext : Reads (next a) bytes' b) :
    Reads (reader >>= next) (bytes ++ bytes') b := by
  intro rest
  rw [List.append_assoc, StateT.run_bind, h]
  exact hnext rest

/-- What is made of a thing is found where the thing is. -/
theorem map
    (h : Reads reader bytes a)
    (f : α → β) :
    Reads (do return f (← reader)) bytes (f a) := by
  have hbind : Reads (reader >>= fun x => Pure.pure (f x)) (bytes ++ []) (f a) :=
    h.bind (Reads.pure (f a))
  rwa [List.append_nil] at hbind

/-- A condition that holds takes nothing. -/
theorem holds
    {p : Prop}
    [Decidable p]
    (h : p) :
    Reads (guard p) [] () := by
  intro rest
  rw [guard, if_pos h]
  rfl

/-- A thing that is there without reading takes nothing. -/
theorem lift
    {found : Option α}
    (h : found = some a) :
    Reads (liftM found) [] a := by
  intro rest
  subst h
  rfl

/-- What a reader finds in front of other bytes. -/
theorem run'_append
    (h : Reads reader bytes a)
    (rest : Bytes) :
    reader.run' (bytes ++ rest) = some a :=
  run'_of_run (h rest)

/-- A reader that takes just the bytes takes all of them. -/
theorem whole
    (h : Reads reader bytes a) :
    whole reader bytes = some a := by
  have hrun := h []
  rw [List.append_nil] at hrun
  rw [Archive.whole, hrun]
  rfl

end Reads

/-- Bytes are read up to their own length. -/
theorem reads_raw
    {bytes : Bytes}
    {n : Nat}
    (h : bytes.length = n) :
    Reads (raw n) bytes bytes := by
  intro rest
  subst h
  show (if _ then _ else _) = _
  rw [if_pos (by simp), List.take_left, List.drop_left]

/-- A number below the limit is read from its two bytes. -/
theorem reads_two
    {n : Nat}
    (h : n < 0x10000) :
    Reads (number 2) (two n) n := by
  have hvalue : littleEndian (two n) = n := by
    simp only [two, littleEndian, UInt8.toNat_ofNat']
    omega
  have hmap := (reads_raw (length_two n)).map littleEndian
  rwa [hvalue] at hmap

/-- A number below the limit is read from its four bytes. -/
theorem reads_four
    {n : Nat}
    (h : n < 0x100000000) :
    Reads (number 4) (four n) n := by
  have hvalue : littleEndian (four n) = n := by
    simp only [four, littleEndian, UInt8.toNat_ofNat']
    omega
  have hmap := (reads_raw (length_four n)).map littleEndian
  rwa [hvalue] at hmap

/-- A number below the limit is read from its eight bytes. -/
theorem reads_eight
    {n : Nat}
    (h : n < 0x10000000000000000) :
    Reads (number 8) (eight n) n := by
  have hvalue : littleEndian (eight n) = n := by
    simp only [eight, four, List.cons_append, List.nil_append, littleEndian, UInt8.toNat_ofNat']
    omega
  have hmap := (reads_raw (length_eight n)).map littleEndian
  rwa [hvalue] at hmap

/-- A mark is read where it stands. -/
theorem reads_mark
    (bytes : Bytes) :
    Reads (mark bytes) bytes () := by
  have hbind : Reads (mark bytes) (bytes ++ []) () := (reads_raw rfl).bind (Reads.holds rfl)
  rwa [List.append_nil] at hbind

end BotCanvas.Archive
