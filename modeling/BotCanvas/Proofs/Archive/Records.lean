import BotCanvas.Proofs.Archive.Reader

/-!
# Records of an archive

Each record that is written is read: the headers of an entry, with its sizes and its place in their
fields or among the wide numbers (`reads_content`, `reads_header`), the directory
(`reads_directory`), the records behind it (`closing?_append`) and the data, however they are kept
(`expand_kept`).
-/

namespace BotCanvas.Archive

/-! ## Wide numbers -/

/-- Wide numbers are read one behind the other. -/
theorem reads_numbers
    {numbers : List Nat}
    (h : ∀ n ∈ numbers, n < 0x10000000000000000) :
    Reads (repeated numbers.length (number 8)) (numbers.flatMap eight) numbers := by
  induction numbers with
  | nil => exact .pure []
  | cons n rest ih =>
      rw [List.forall_mem_cons] at h
      exact .bind (reads_eight h.1) (.map (ih h.2) _)

/-- One thing behind a name is all that stands there. -/
theorem whole_extraFields
    {bytes : Bytes}
    {field : Nat × Bytes}
    (hbytes : bytes ≠ [])
    (h : Reads extraField bytes field)
    (fuel : Nat) :
    whole (extraFields (fuel + 1)) bytes = some [field] := by
  have hrest : (extraFields fuel).run [] = some ([], []) := by
    cases fuel <;> rfl
  have hfirst := h []
  rw [List.append_nil] at hfirst
  have hrun : (extraFields (fuel + 1)).run bytes = some ([field], []) := by
    rw [extraFields, StateT.run_bind]
    show StateT.run (if bytes.isEmpty then _ else _) bytes = _
    rw [if_neg (by simpa using hbytes), StateT.run_bind, hfirst]
    show ((extraFields fuel).run [] >>= _) = _
    rw [hrest]
    rfl
  rw [whole, hrun]
  rfl

/-- The wide numbers are read that were written behind a name. -/
theorem wideNumbers?_extra
    {numbers : List Nat}
    (hcount : numbers.length ≤ 3)
    (h : ∀ n ∈ numbers, n < 0x10000000000000000) :
    wideNumbers? (extra numbers) = some numbers := by
  cases numbers with
  | nil => rfl
  | cons n rest =>
      have hlength := length_flatMap_eight (n :: rest)
      have hfield : Reads extraField (extra (n :: rest)) (1, (n :: rest).flatMap eight) :=
        .bind (reads_two (by decide)) (.bind (reads_two (by omega))
          (.map (reads_raw hlength) fun bytes => (1, bytes)))
      have hall := whole_extraFields (show extra (n :: rest) ≠ [] from List.cons_ne_nil _ _) hfield
        ((extra (n :: rest)).length - 1)
      have hfuel : (extra (n :: rest)).length - 1 + 1 = (extra (n :: rest)).length := rfl
      rw [hfuel] at hall
      rw [wideNumbers?, hall]
      show whole (repeated (((n :: rest).flatMap eight).length / 8) (number 8)) _ = _
      rw [hlength, Nat.mul_div_cancel_left _ (by decide)]
      exact (reads_numbers h).whole

/-- A number is found again, be it in its field or among the wide ones. -/
theorem widen_narrow
    {wide : Bool}
    {n : Nat}
    (h : wide = false → n < full)
    (rest : List Nat) :
    (widen (narrow wide n)).run ((if wide then [n] else []) ++ rest) = some (n, rest) := by
  cases wide with
  | true => rfl
  | false =>
      show (if n = full then _ else _) = _
      rw [if_neg (Nat.ne_of_lt (h rfl))]
      rfl

end BotCanvas.Archive

namespace BotCanvas.ArchiveEntry

open Archive

/-! ## Entries and their headers -/

/-- An entry whose name and data are short enough for the fields of its headers. -/
structure Fits (e : ArchiveEntry) : Prop where
  name : (utf8 e.name).length < 0x10000
  data : e.data.length < 0x10000000000000000
  kept : e.kept.length < 0x10000000000000000

/-- The shared fields of an entry. -/
def fields (e : ArchiveEntry) (version extraLength : Nat) : Fields where
  version := version
  flags := e.flags
  method := e.method.number
  time := 0
  date := date
  checksum := (Crc.checksum e.data).toNat
  keptSize := e.kept.length
  size := e.data.length
  nameLength := (utf8 e.name).length
  extraLength := extraLength

/-- The shared fields as they stand in a header. -/
def narrowFields (e : ArchiveEntry) (version : Nat) (wide : Bool) (extraLength : Nat) : Fields :=
  { e.fields version extraLength with
    keptSize := narrow wide e.kept.length
    size := narrow wide e.data.length }

/-- The header of an entry in the directory. -/
def header (e : ArchiveEntry) (offset : Nat) : Header :=
  ⟨e.fields (e.directoryVersion offset) (e.directoryExtra offset).length, offset, utf8 e.name⟩

variable {e : ArchiveEntry}

/-- The flags fit into their field. -/
theorem flags_lt
    (e : ArchiveEntry) :
    e.flags < 0x10000 := by
  unfold flags
  split <;> decide

/-- The number of a method fits into its field. -/
theorem number_lt
    (m : Compression) :
    m.number < 0x10000 := by
  cases m <;> decide

/-- There are two versions. -/
theorem localVersion_cases
    (e : ArchiveEntry) :
    e.localVersion = version ∨ e.localVersion = wideVersion := by
  unfold localVersion
  split
  · exact .inr rfl
  · exact .inl rfl

theorem directoryVersion_cases
    (e : ArchiveEntry)
    (offset : Nat) :
    e.directoryVersion offset = version ∨ e.directoryVersion offset = wideVersion := by
  unfold directoryVersion
  split
  · exact e.localVersion_cases
  · exact .inr rfl

/-- Sizes that are not wide fit into their fields, and neither field is full. -/
theorem lt_full_of_isWide
    (h : e.isWide = false) :
    e.data.length < full ∧ e.kept.length < full := by
  have hkept := e.length_kept_bounds
  have hlimit : ¬20 * narrowLimit < 21 * e.data.length := of_decide_eq_false h
  unfold narrowLimit at hlimit
  unfold blockLimit at hkept
  unfold full
  omega

theorem lt_full_of_isWideInDirectory
    (h : e.isWideInDirectory = false) :
    e.data.length < full ∧ e.kept.length < full := by
  obtain ⟨hdata, hkept⟩ := Bool.or_eq_false_iff.1 h
  have hdata := of_decide_eq_false hdata
  have hkept := of_decide_eq_false hkept
  unfold narrowLimit at hdata hkept
  unfold full
  omega

/-- What stands in a field of four bytes is short enough for it. -/
theorem narrow_lt
    {wide : Bool}
    {n : Nat}
    (h : wide = false → n < full) :
    narrow wide n < 0x100000000 := by
  cases wide with
  | true => exact (by decide : full < 0x100000000)
  | false =>
      have hlt : n < 0xffffffff := h rfl
      show n < 0x100000000
      omega

/-- The sizes are found again, be they in their fields or among the wide numbers. -/
theorem widenSizes_narrowFields
    {wide : Bool}
    (h : wide = false → e.data.length < full ∧ e.kept.length < full)
    (version extraLength : Nat)
    (rest : List Nat) :
    (widenSizes (e.narrowFields version wide extraLength)).run (e.wideSizes wide ++ rest) =
      some (e.fields version extraLength, rest) := by
  have hsizes : e.wideSizes wide ++ rest = (if wide then [e.data.length] else []) ++
      ((if wide then [e.kept.length] else []) ++ rest) := by
    cases wide <;> rfl
  rw [widenSizes, hsizes, StateT.run_bind]
  show ((widen (narrow wide e.data.length)).run _ >>= _) = _
  rw [widen_narrow fun hwide => (h hwide).1]
  show ((widen (narrow wide e.kept.length)).run _ >>= _) = _
  rw [widen_narrow fun hwide => (h hwide).2]
  rfl

theorem reads_fields
    (hname : (utf8 e.name).length < 0x10000)
    {version : Nat}
    (hversion : version < 0x10000)
    {wide : Bool}
    (hwide : wide = false → e.data.length < full ∧ e.kept.length < full)
    {extra : Bytes}
    (hextra : extra.length < 0x10000) :
    Reads Archive.fields (e.sharedFields version wide extra)
      (e.narrowFields version wide extra.length) := by
  have hkept := narrow_lt fun h => (hwide h).2
  have hdata := narrow_lt fun h => (hwide h).1
  simp only [sharedFields, List.append_assoc]
  exact .bind (reads_two hversion) (.bind (reads_two e.flags_lt)
    (.bind (reads_two (number_lt _)) (.bind (reads_two (by decide)) (.bind (reads_two (by decide))
    (.bind (reads_four (UInt32.toNat_lt _)) (.bind (reads_four hkept) (.bind (reads_four hdata)
    (.bind (reads_two hname) (.map (reads_two hextra) _)))))))))

/-- The data of an entry are read behind its header. -/
theorem reads_content
    (h : e.Fits)
    (offset : Nat) :
    Reads (content (e.header offset)) e.localRecord e.kept := by
  have hversion : e.localVersion < 0x10000 := by
    rcases e.localVersion_cases with hv | hv <;> rw [hv] <;> decide
  have hlength := e.length_localExtra_le
  have hfields := reads_fields h.name hversion lt_full_of_isWide
    (show e.localExtra.length < 0x10000 by omega)
  have hnumbers : wideNumbers? e.localExtra = some (e.wideSizes e.isWide) := by
    refine wideNumbers?_extra ?_ ?_
    · unfold wideSizes
      split <;> simp
    · unfold wideSizes
      split
      · simpa using ⟨h.data, h.kept⟩
      · simp
  have hsizes : (widenSizes (e.narrowFields e.localVersion e.isWide e.localExtra.length)).run'
      (e.wideSizes e.isWide) = some (e.fields e.localVersion e.localExtra.length) := by
    have hrun := widenSizes_narrowFields (e := e) lt_full_of_isWide e.localVersion
      e.localExtra.length []
    rw [List.append_nil] at hrun
    exact run'_of_run hrun
  have hrecord : e.localRecord = [0x50, 0x4b, 3, 4] ++
      (e.sharedFields e.localVersion e.isWide e.localExtra ++ (utf8 e.name ++ (e.localExtra ++
        ([] ++ ([] ++ ([] ++ e.kept)))))) := by
    simp only [localRecord, List.append_assoc, List.nil_append]
  rw [hrecord]
  refine .bind (reads_mark _) ?_
  refine .bind hfields ?_
  refine .bind (reads_raw rfl) ?_
  refine .bind (reads_raw rfl) ?_
  refine .bind (.lift hnumbers) ?_
  refine .bind (.lift hsizes) ?_
  refine .bind (.holds ⟨rfl, rfl⟩) ?_
  exact reads_raw rfl

/-- The record of an entry in the directory is read as its header. -/
theorem reads_header
    (h : e.Fits)
    {offset : Nat}
    (hoffset : offset < 0x10000000000000000) :
    Reads Archive.header (e.directoryRecord offset) (e.header offset) := by
  have hversion : e.directoryVersion offset < 0x10000 := by
    rcases e.directoryVersion_cases offset with hv | hv <;> rw [hv] <;> decide
  have hwriter : two (e.directoryVersion offset + 0x100 * system) =
      [UInt8.ofNat (e.directoryVersion offset), UInt8.ofNat system] := by
    rcases e.directoryVersion_cases offset with hv | hv <;> rw [hv] <;> decide
  have hwritten : e.directoryVersion offset + 0x100 * system < 0x10000 := by
    rcases e.directoryVersion_cases offset with hv | hv <;> rw [hv] <;> decide
  have hlength := e.length_directoryExtra_le offset
  have hfields := reads_fields h.name hversion lt_full_of_isWideInDirectory
    (show (e.directoryExtra offset).length < 0x10000 by omega)
  have hplace : decide (narrowLimit < offset) = false → offset < full := by
    intro hnarrow
    have hlimit := of_decide_eq_false hnarrow
    unfold narrowLimit at hlimit
    unfold full
    omega
  have hnumbers : wideNumbers? (e.directoryExtra offset) = some (e.directoryNumbers offset) := by
    refine wideNumbers?_extra (e.length_directoryNumbers_le offset) ?_
    unfold directoryNumbers wideSizes
    split <;> split <;> simp [h.data, h.kept, hoffset]
  have hsizes := widenSizes_narrowFields (e := e) lt_full_of_isWideInDirectory
    (e.directoryVersion offset) (e.directoryExtra offset).length
    (if narrowLimit < offset then [offset] else [])
  have hoffset' : (widen (narrow (narrowLimit < offset) offset)).run'
      (if narrowLimit < offset then [offset] else []) = some offset := by
    have hrun := widen_narrow hplace []
    simp only [decide_eq_true_eq, List.append_nil] at hrun
    exact run'_of_run hrun
  have hrecord : e.directoryRecord offset =
      [0x50, 0x4b, 1, 2] ++ (two (e.directoryVersion offset + 0x100 * system) ++
        (e.sharedFields (e.directoryVersion offset) e.isWideInDirectory (e.directoryExtra offset) ++
        (two 0 ++ (two 0 ++ (two 0 ++ (four (rights * 0x10000) ++
        (four (narrow (narrowLimit < offset) offset) ++ (utf8 e.name ++ (e.directoryExtra offset ++
        ([] ++ ([] ++ ([] ++ ([] ++ []))))))))))))) := by
    rw [hwriter]
    simp only [directoryRecord, List.append_assoc, List.append_nil]
    simp only [List.cons_append, List.nil_append]
  rw [hrecord]
  refine .bind (reads_mark _) ?_
  refine .bind (reads_two hwritten) ?_
  refine .bind hfields ?_
  refine .bind (reads_two (by decide)) ?_
  refine .bind (reads_two (by decide)) ?_
  refine .bind (reads_two (by decide)) ?_
  refine .bind (reads_four (by decide)) ?_
  refine .bind (reads_four (narrow_lt hplace)) ?_
  refine .bind (reads_raw rfl) ?_
  refine .bind (reads_raw rfl) ?_
  refine .bind (reads_raw List.length_nil) ?_
  refine .bind (.lift hnumbers) ?_
  refine .bind (.lift hsizes) ?_
  exact .map (.lift hoffset') fun place =>
    (⟨e.fields (e.directoryVersion offset) (e.directoryExtra offset).length, place,
      utf8 e.name⟩ : Header)

end BotCanvas.ArchiveEntry

namespace BotCanvas.Archive

/-- The headers of entries that stand one behind the other. -/
def headers : (offset : Nat) → List ArchiveEntry → List Header
  | _, [] => []
  | offset, e :: rest => e.header offset :: headers (offset + e.localRecord.length) rest

/-- The bytes that entries take. -/
def extent (entries : List ArchiveEntry) : Nat :=
  (entries.map fun e => e.localRecord.length).sum

/-- A directory is read as the headers of its entries. -/
theorem reads_directory
    {entries : List ArchiveEntry}
    (hfits : ∀ e ∈ entries, e.Fits)
    {offset : Nat}
    (hextent : offset + extent entries < 0x10000000000000000) :
    Reads (repeated entries.length Archive.header) (directory offset entries)
      (headers offset entries) := by
  induction entries generalizing offset with
  | nil => exact .pure []
  | cons e rest ih =>
      rw [List.forall_mem_cons] at hfits
      simp only [extent, List.map_cons, List.sum_cons] at hextent
      have hless : offset + e.localRecord.length + extent rest < 0x10000000000000000 := by
        rw [extent]
        omega
      exact .bind (ArchiveEntry.reads_header hfits.1 (by omega)) (.map (ih hfits.2 hless) _)

/-! ## Closing records -/

/-- A closing record is read where its numbers fit. -/
theorem reads_ending
    {count size offset : Nat}
    (hcount : count < 0x10000)
    (hsize : size < 0x100000000)
    (hoffset : offset < 0x100000000) :
    Reads ending (closing count size offset) ⟨count, size, offset⟩ := by
  have hrecord : closing count size offset =
      [0x50, 0x4b, 5, 6] ++ (two 0 ++ (two 0 ++ (two count ++ (two count ++ (four size ++
        (four offset ++ (two 0 ++ ([] ++ [])))))))) := by
    simp only [closing, List.append_assoc, List.append_nil]
  rw [hrecord]
  refine .bind (reads_mark _) ?_
  refine .bind (reads_two (by decide)) ?_
  refine .bind (reads_two (by decide)) ?_
  refine .bind (reads_two hcount) ?_
  refine .bind (reads_two hcount) ?_
  refine .bind (reads_four hsize) ?_
  refine .bind (reads_four hoffset) ?_
  refine .bind (reads_two (by decide)) ?_
  refine .bind (.holds ⟨rfl, rfl, rfl⟩) ?_
  exact .map (reads_raw List.length_nil) fun _ => (⟨count, size, offset⟩ : Closing)

/-- So is a wide one. -/
theorem reads_wideEnding
    {count size offset : Nat}
    (hcount : count < 0x10000000000000000)
    (hsize : size < 0x10000000000000000)
    (hoffset : offset < 0x10000000000000000) :
    Reads wideEnding (wideClosing count size offset) ⟨count, size, offset⟩ := by
  have hrecord : wideClosing count size offset =
      [0x50, 0x4b, 6, 6] ++ (eight 44 ++ (two wideVersion ++ (two wideVersion ++ (four 0 ++
        (four 0 ++ (eight count ++ (eight count ++ (eight size ++ (eight offset ++
          ([] ++ [])))))))))) := by
    simp only [wideClosing, List.append_assoc, List.append_nil]
  rw [hrecord]
  refine .bind (reads_mark _) ?_
  refine .bind (reads_eight (by decide)) ?_
  refine .bind (reads_two (by decide)) ?_
  refine .bind (reads_two (by decide)) ?_
  refine .bind (reads_four (by decide)) ?_
  refine .bind (reads_four (by decide)) ?_
  refine .bind (reads_eight hcount) ?_
  refine .bind (reads_eight hcount) ?_
  refine .bind (reads_eight hsize) ?_
  refine .bind (reads_eight hoffset) ?_
  exact .map (.holds ⟨rfl, rfl, rfl⟩) fun _ => (⟨count, size, offset⟩ : Closing)

theorem reads_place
    {n : Nat}
    (h : n < 0x10000000000000000) :
    Reads place (locator n) n := by
  have hrecord : locator n =
      [0x50, 0x4b, 6, 7] ++ (four 0 ++ (eight n ++ (four 1 ++ ([] ++ [])))) := by
    simp only [locator, List.append_assoc, List.append_nil]
  rw [hrecord]
  refine .bind (reads_mark _) ?_
  refine .bind (reads_four (by decide)) ?_
  refine .bind (reads_eight h) ?_
  refine .bind (reads_four (by decide)) ?_
  exact .map (.holds ⟨rfl, rfl⟩) fun _ => n

/-- The wide closing record is found by the record behind it. -/
theorem wideClosing?_append
    {count size offset : Nat}
    (hcount : count < 0x10000000000000000)
    (front : Bytes)
    (hfront : front.length = offset + size)
    (hend : offset + size < 0x10000000000000000) :
    wideClosing? (front ++ (wideClosing count size offset ++ locator (offset + size))) =
      some ⟨count, size, offset⟩ := by
  have hlocator : (front ++ (wideClosing count size offset ++ locator (offset + size))).drop
      ((front ++ (wideClosing count size offset ++ locator (offset + size))).length - 20) =
        locator (offset + size) := by
    have hlength : (locator (offset + size)).length = 20 := rfl
    rw [← List.append_assoc, List.length_append, hlength, Nat.add_sub_cancel, List.drop_left]
  have hplace := (reads_place hend).whole
  have hclosing := (reads_wideEnding hcount (show size < _ by omega)
    (show offset < _ by omega)).run'_append (locator (offset + size))
  have hdrop : (front ++ (wideClosing count size offset ++ locator (offset + size))).drop
      (offset + size) = wideClosing count size offset ++ locator (offset + size) := by
    rw [← hfront, List.drop_left]
  simp only [wideClosing?, hlocator, hplace, Option.bind_eq_bind, Option.bind_some, hdrop]
  exact hclosing

/-- A closing record without a comment is the first that is tried. -/
theorem closing?_of_closingAt?
    {front : Bytes}
    {count size offset : Nat}
    {found : Closing}
    (h : closingAt? (front ++ closing count size offset) front.length = some found) :
    closing? (front ++ closing count size offset) = some found := by
  have hplace : (front ++ closing count size offset).length - (22 + 0) = front.length := by
    have hlength : (closing count size offset).length = 22 := rfl
    rw [List.length_append, hlength, Nat.add_sub_cancel]
  have hrange : List.range 0x10000 = 0 :: (List.range 0xffff).map Nat.succ :=
    List.range_succ_eq_map
  rw [closing?, hrange, List.findSome?_cons, hplace, h]

/-- It counts where none of its fields is full. -/
theorem closingAt?_append
    {count size offset : Nat}
    (hcount : count < 0x10000)
    (hsize : size < 0x100000000)
    (hoffset : offset < 0x100000000)
    (front : Bytes) :
    closingAt? (front ++ closing count size offset) front.length =
      if (⟨count, size, offset⟩ : Closing).isFull then
        some ((wideClosing? front).getD ⟨count, size, offset⟩)
      else some ⟨count, size, offset⟩ := by
  rw [closingAt?, List.drop_left, (reads_ending hcount hsize hoffset).whole, List.take_left]
  rfl

/-- The fields of a closing record are full where they should be. -/
theorem isFull_iff
    {c : Closing} :
    c.isFull = true ↔ c.count = fullCount ∨ c.size = full ∨ c.offset = full := by
  simp only [Closing.isFull, Bool.or_eq_true, decide_eq_true_eq, or_assoc]

/-- What is behind a directory is read, unless the count is the one that stands for larger ones. -/
theorem closing?_append
    {count size offset : Nat}
    (hcount : count < 0x10000000000000000)
    (hne : count ≠ fullCount)
    (front : Bytes)
    (hfront : front.length = offset + size)
    (hend : offset + size < 0x10000000000000000) :
    closing? (front ++ closingRecords count size offset) = some ⟨count, size, offset⟩ := by
  have hmin : ∀ {n m limit : Nat}, m < limit → min n m < limit :=
    fun h => Nat.lt_of_le_of_lt (Nat.min_le_right _ _) h
  unfold closingRecords
  split
  case isTrue =>
    rw [← List.append_assoc, ← List.append_assoc]
    refine closing?_of_closingAt? ?_
    rw [closingAt?_append (hmin (by decide)) (hmin (by decide)) (hmin (by decide)),
      List.append_assoc, wideClosing?_append hcount front hfront hend]
    split
    case isTrue => rfl
    case isFalse hfull =>
      -- no field is full, and so no number is moved
      simp only [isFull_iff, not_or] at hfull
      obtain ⟨hcountfull, hsizefull, hoffsetfull⟩ := hfull
      rw [Nat.min_eq_left (by omega), Nat.min_eq_left (by omega), Nat.min_eq_left (by omega)]
  case isFalse hsmall =>
    simp only [not_or, Nat.not_lt] at hsmall
    obtain ⟨hcountsmall, hoffsetsmall, hsizesmall⟩ := hsmall
    have hnotfull : ¬(⟨count, size, offset⟩ : Closing).isFull = true := by
      simp only [isFull_iff]
      unfold narrowLimit at hoffsetsmall hsizesmall
      unfold full
      omega
    refine closing?_of_closingAt? ?_
    unfold fullCount at hcountsmall
    unfold narrowLimit at hoffsetsmall hsizesmall
    rw [closingAt?_append (by omega) (by omega) (by omega), if_neg hnotfull]

/-! ## Deflate streams -/

/-- A byte is read as its number. -/
theorem reads_one
    (b : UInt8) :
    Reads (number 1) [b] b.toNat := by
  have hvalue : littleEndian [b] = b.toNat := by
    rw [littleEndian, littleEndian, Nat.mul_zero, Nat.add_zero]
  have hmap := (reads_raw (show [b].length = 1 from rfl)).map littleEndian
  rwa [hvalue] at hmap

/-- A stream of blocks is read as the data in it. -/
theorem reads_inflate
    {fuel : Nat}
    {data : Bytes}
    (h : data.length < fuel) :
    Reads (inflate fuel) (blocks fuel data) data := by
  induction fuel generalizing data with
  | zero => omega
  | succ fuel ih =>
      have hlimit : (data.take blockLimit).length ≤ 0xffff := List.length_take_le _ _
      have hlengths : (data.take blockLimit).length +
          (0xffff - (data.take blockLimit).length) = 0xffff := by
        omega
      cases hrest : (data.drop blockLimit).isEmpty with
      | true =>
          -- the last block holds all of the data
          have hall : data.take blockLimit = data := by
            have hsplit := List.take_append_drop blockLimit data
            rwa [List.isEmpty_iff.1 hrest, List.append_nil] at hsplit
          have hstream : blocks (fuel + 1) data = [1] ++ (two (data.take blockLimit).length ++
              (two (0xffff - (data.take blockLimit).length) ++
                ([] ++ (data.take blockLimit ++ [])))) := by
            rw [blocks]
            simp only [hrest, if_true, List.append_assoc, List.cons_append, List.nil_append]
          rw [hstream, inflate]
          refine .bind (reads_one 1) (.bind (reads_two (by omega)) (.bind (reads_two (by omega))
            (.bind (.holds ⟨by decide, hlengths⟩) (.bind (reads_raw rfl) ?_))))
          rw [if_pos (by decide), hall]
          exact .pure data
      | false =>
          have hless : (data.drop blockLimit).length < fuel := by
            have hne : data.drop blockLimit ≠ [] := by
              intro hnil
              rw [hnil] at hrest
              cases hrest
            have hpos := List.length_pos_iff.2 hne
            rw [List.length_drop] at hpos ⊢
            have hblock : 0 < blockLimit := by decide
            omega
          have hstream : blocks (fuel + 1) data = [0] ++ (two (data.take blockLimit).length ++
              (two (0xffff - (data.take blockLimit).length) ++ ([] ++ (data.take blockLimit ++
                blocks fuel (data.drop blockLimit))))) := by
            rw [blocks]
            simp only [hrest, Bool.false_eq_true, if_false, List.append_assoc, List.cons_append,
              List.nil_append]
          rw [hstream, inflate]
          refine .bind (reads_one 0) (.bind (reads_two (by omega)) (.bind (reads_two (by omega))
            (.bind (.holds ⟨by decide, hlengths⟩) (.bind (reads_raw rfl) ?_))))
          rw [if_neg (by decide)]
          have hboth := (ih hless).map fun rest => data.take blockLimit ++ rest
          rwa [List.take_append_drop] at hboth

/-- What an entry keeps is expanded to its data. -/
theorem expand_kept
    (e : ArchiveEntry) :
    expand e.method.number e.data.length e.kept = some e.data := by
  unfold expand ArchiveEntry.kept
  cases e.method with
  | store => rfl
  | deflate =>
      rw [if_neg (by decide), if_pos rfl]
      exact (reads_inflate (Nat.lt_succ_self _)).whole

/-! ## Names -/

/-- The bytes of a byte array, in order. -/
theorem toList_loop
    (bs : ByteArray)
    (i : Nat)
    (found : Bytes) :
    ByteArray.toList.loop bs i found = found.reverse ++ bs.data.toList.drop i := by
  fun_induction ByteArray.toList.loop bs i found with
  | case1 i found h ih =>
      have hi : i < bs.data.toList.length := by simpa using h
      rw [ih, List.drop_eq_getElem_cons hi]
      simp [ByteArray.get!, h]
  | case2 i found h =>
      rw [List.drop_eq_nil_of_le (by simpa using Nat.le_of_not_lt h)]
      simp

/-- The bytes of a text are those of its characters. -/
theorem utf8_eq
    (s : String) :
    utf8 s = s.toList.flatMap String.utf8EncodeChar := by
  have hlist : utf8 s = s.toByteArray.data.toList := by
    rw [utf8, ByteArray.toList, toList_loop]
    rfl
  rw [hlist, ← String.utf8Encode_toList, List.utf8Encode, List.toList_data_toByteArray]

/-- Texts are read back from their bytes. -/
theorem fromUTF8?_utf8
    (s : String) :
    String.fromUTF8? (utf8 s).toByteArray = some s := by
  have hbytes : (utf8 s).toByteArray = s.toByteArray := by
    rw [utf8_eq, ← String.utf8Encode_toList, List.utf8Encode]
  rw [hbytes, String.fromUTF8?, dif_pos s.isValidUTF8]
  rfl

/-- An ASCII text has a byte for each character. -/
theorem utf8_of_ascii
    {s : String}
    (h : ∀ c ∈ s.toList, c.toNat < 128) :
    utf8 s = s.toList.map fun c => UInt8.ofNat c.toNat := by
  rw [utf8_eq]
  generalize s.toList = l at h
  induction l with
  | nil => rfl
  | cons c l ih =>
      rw [List.forall_mem_cons] at h
      rw [List.flatMap_cons, List.map_cons, ih h.2, String.utf8EncodeChar]
      have hc : c.val.toNat ≤ 127 := by
        have := h.1
        unfold Char.toNat at this
        omega
      simp only [if_pos hc]
      rfl

/-- The name of an entry is read under its flags. -/
theorem decodeName_utf8
    (e : ArchiveEntry) :
    decodeName e.flags (utf8 e.name) = some e.name := by
  unfold decodeName ArchiveEntry.flags
  by_cases hascii : (e.name.toList.all fun c => c.toNat < 128) = true
  · have hchars : ∀ c ∈ e.name.toList, c.toNat < 128 := by simpa using hascii
    have hbyte : ∀ c ∈ e.name.toList, (UInt8.ofNat c.toNat).toNat = c.toNat := by
      intro c hc
      have := hchars c hc
      rw [UInt8.toNat_ofNat']
      omega
    have hall : ((utf8 e.name).all fun b => b < 128) = true := by
      rw [utf8_of_ascii hchars, List.all_map, List.all_eq_true]
      intro c hc
      have := hchars c hc
      have := hbyte c hc
      rw [Function.comp_apply, decide_eq_true_eq, UInt8.lt_iff_toNat_lt]
      show _ < 128
      omega
    have hname : (utf8 e.name).map (fun b => Char.ofNat b.toNat) = e.name.toList := by
      have hmap : e.name.toList.map
          ((fun b => Char.ofNat b.toNat) ∘ fun c => UInt8.ofNat c.toNat) =
            e.name.toList.map id := by
        refine List.map_congr_left fun c hc => ?_
        rw [Function.comp_apply, hbyte c hc, Char.ofNat_toNat, id]
      rw [utf8_of_ascii hchars, List.map_map, hmap, List.map_id]
    rw [if_pos hascii, if_neg (by decide), if_pos hall, hname, String.ofList_toList]
  · rw [if_neg hascii, if_pos (by decide)]
    exact fromUTF8?_utf8 e.name

end BotCanvas.Archive

namespace BotCanvas.ArchiveEntry

open Archive

/-- What an entry is read as. -/
def member (e : ArchiveEntry) : Member :=
  ⟨e.name, e.data.length, (Crc.checksum e.data).toNat, e.data⟩

end BotCanvas.ArchiveEntry

namespace BotCanvas.Archive

/-- An entry is found behind those before it. -/
theorem member?_header
    {e : ArchiveEntry}
    (hfits : e.Fits)
    (hmethod : e.method = .store)
    (front rest : Bytes) :
    member? (front ++ (e.localRecord ++ rest)) (e.header front.length) = some e.member := by
  have hkept : e.kept = e.data := by
    rw [ArchiveEntry.kept, hmethod]
  have hcontent : (content (e.header front.length)).run'
      (List.drop front.length (front ++ (e.localRecord ++ rest))) = some e.data := by
    rw [List.drop_left, (ArchiveEntry.reads_content hfits front.length).run'_append rest, hkept]
  have hname : decodeName (e.header front.length).fields.flags (e.header front.length).name =
      some e.name := decodeName_utf8 e
  have hguard : (e.header front.length).fields.method = Compression.store.number ∧
      e.data.length = (e.header front.length).fields.size ∧
      (Crc.checksum e.data).toNat = (e.header front.length).fields.checksum := by
    refine ⟨?_, rfl, rfl⟩
    show e.method.number = _
    rw [hmethod]
  have hoffset : (e.header front.length).offset = front.length := rfl
  simp only [member?, hoffset, hcontent, hname, Option.bind_eq_bind, Option.bind_some, guard,
    if_pos hguard]
  rfl

/-- An entry is unpacked behind those before it. -/
theorem unpacked?_header
    {e : ArchiveEntry}
    (hfits : e.Fits)
    (front rest : Bytes) :
    unpacked? (front ++ (e.localRecord ++ rest)) (e.header front.length) = some e.member := by
  have hcontent : (content (e.header front.length)).run'
      (List.drop front.length (front ++ (e.localRecord ++ rest))) = some e.kept := by
    rw [List.drop_left, (ArchiveEntry.reads_content hfits front.length).run'_append rest]
  have hname : decodeName (e.header front.length).fields.flags (e.header front.length).name =
      some e.name := decodeName_utf8 e
  have hdata : expand (e.header front.length).fields.method (e.header front.length).fields.size
      e.kept = some e.data := expand_kept e
  have hguard : e.data.length = (e.header front.length).fields.size ∧
      (Crc.checksum e.data).toNat = (e.header front.length).fields.checksum := ⟨rfl, rfl⟩
  have hoffset : (e.header front.length).offset = front.length := rfl
  simp only [unpacked?, hoffset, hcontent, hname, hdata, Option.bind_eq_bind, Option.bind_some,
    guard, if_pos hguard]
  rfl

end BotCanvas.Archive
