import BotCanvas.Proofs.Offside.Lines
import BotCanvas.Proofs.Program.Forms
import BotCanvas.Proofs.Program.Rows

/-!
# Logical lines of forms

The logical lines that a line of code becomes are those of its form, whatever texts it holds
(`lays_line`): rows begin and end with the program's own text or with a name.
-/

namespace BotCanvas.Offside

open Lexis

/-- Tests for the shape of a row that is blank or a remark. -/
def isBareRow : List Cell → Bool
  | [] => true
  | x :: rest => x == .char '#' && rest.all fun y => match y with
      | .char c => !Text.isLineBreak c
      | .remark => true
      | _ => false

/-- The spaces in front of the shape of a row. -/
def leadingCells (row : List Cell) : Nat :=
  (row.takeWhile (· == .char ' ')).length

/-- Tests for the shape of a row that begins with a statement behind spaces. -/
def startsStatement (row : List Cell) : Bool :=
  match row.dropWhile (· == .char ' ') with
  | .char c :: _ => !Text.isBlank c && c != '#'
  | .name :: _ => true
  | _ => false

/-- Whether a row of a shape ends with a colon, if its end is known. -/
def endsWithColon? (row : List Cell) : Option Bool :=
  match row.getLast? with
  | some (.char c) => some (c == ':')
  | some .name => some false
  | _ => none

/-- The logical lines of the rows of a shape, as those of rows. -/
def layCells : (opened : List Char) → (column : Nat) → List (List Cell) →
    Option (List LogicalLine × List Char × Nat)
  | opened, column, [] => some ([], opened, column)
  | opened, column, row :: rest =>
      if isBareRow row then layCells opened column rest
      else
        let start := if opened.isEmpty then leadingCells row else column
        match startsStatement row, endsWithColon? row,
          (lexis true).advance ((lexis true).readCells (some (.code, opened)) row) '\n' with
        | true, some colon, some (.code, []) =>
            (layCells [] start rest).map fun (lines, last) => (⟨start, colon⟩ :: lines, last)
        | true, some _, some (.code, c :: more) => layCells (c :: more) start rest
        | _, _, _ => none

/-- The logical lines of a form, if all brackets are closed in it. -/
def layForm (form : List Slot) : Option (List LogicalLine) :=
  if form.all Slot.isReadable && !(shape form).contains .condition then
    match layCells [] 0 (shapeRows (shape form)) with
    | some (lines, [], _) => some lines
    | _ => none
  else none

section Rows

variable {p : Char → Bool}
variable {s : List Cell}
variable {row : Text}

/-- A row that fills the shape of a bare one is bare. -/
theorem isBareLine_of_fills
    (h : (writing true p).Fills s row)
    (hs : isBareRow s = true) :
    isBareLine row = true ∧ ∀ c ∈ row, Text.isLineBreak c = false := by
  cases s with
  | nil =>
      cases h
      exact ⟨rfl, by simp⟩
  | cons x rest =>
      rw [isBareRow, Bool.and_eq_true, beq_iff_eq, List.all_eq_true] at hs
      obtain ⟨rfl, hrest⟩ := hs
      obtain ⟨t, rfl, ht⟩ := h.exists_append (u := ['#'])
      refine ⟨by simp [isBareLine, show Text.isBlank '#' = false by decide], ?_⟩
      have hunbroken : ∀ c ∈ t, Text.isLineBreak c = false := by
        refine ht.forall_mem (fun c hc => by simpa using hrest _ hc) fun y hy u hu => ?_
        cases y with
        | char c => exact hu.elim
        | remark => exact hu
        | _ => simpa using hrest _ hy
      intro c hc
      rcases List.mem_cons.1 hc with rfl | hc
      · decide
      · exact hunbroken c hc

/-- A row that fills the shape of a statement begins with one, behind as many spaces. -/
theorem exists_head_of_fills
    (h : (writing true p).Fills s row)
    (hs : startsStatement s = true) :
    ∃ c r, row = List.replicate (leadingCells s) ' ' ++ c :: r ∧ Text.isBlank c = false ∧
      c ≠ '#' := by
  have hsplit := List.takeWhile_append_dropWhile (p := (· == Cell.char ' ')) (l := s)
  have hspaces : s.takeWhile (· == .char ' ') =
      (List.replicate (leadingCells s) ' ').map .char := by
    rw [List.map_replicate, List.eq_replicate_iff]
    refine ⟨rfl, fun x hx => ?_⟩
    simpa using List.mem_takeWhile_imp hx
  rw [hspaces] at hsplit
  rw [← hsplit] at h
  obtain ⟨t, rfl, ht⟩ := h.exists_append
  unfold startsStatement at hs
  generalize s.dropWhile (· == .char ' ') = rest at hs ht
  cases rest with
  | nil => cases hs
  | cons x rest =>
      cases x with
      | char c =>
          obtain ⟨r, rfl, -⟩ := ht.exists_append (u := [c])
          simp only [Bool.and_eq_true, Bool.not_eq_true', bne_iff_ne] at hs
          exact ⟨c, r, rfl, hs.1, hs.2⟩
      | name =>
          cases ht with
          | hole _ u hu hrest =>
              obtain ⟨hne, hname⟩ := hu
              obtain ⟨c, u, rfl⟩ := List.exists_cons_of_ne_nil hne
              have hc : (lexis true).isNameChar c = true := hname c (by simp)
              simp only [isNameChar, lexis, Bool.and_eq_true, Bool.not_eq_true', Bool.true_and,
                beq_eq_false_iff_ne] at hc
              exact ⟨c, _, rfl, hc.1.1, hc.2⟩
      | _ => cases hs

/-- A row that fills the shape of a statement holds one where the shape begins. -/
theorem statement_of_fills
    (h : (writing true p).Fills s row)
    (hs : startsStatement s = true) :
    isBareLine row = false ∧ leadingSpaces row = leadingCells s ∧ IsTidy row := by
  obtain ⟨c, r, hhead, hc, hhash⟩ := exists_head_of_fills h hs
  refine ⟨?_, ?_, .inr ⟨_, c, r, hhead, hc, hhash⟩⟩
  · rw [hhead, isBareLine_of_head _ hc hhash]
  · rw [hhead, leadingSpaces_of_head _ hc]

/-- A row that fills a shape ends with a colon if the shape does. -/
theorem getLast?_of_fills
    (h : (writing true p).Fills s row)
    {colon : Bool}
    (hs : endsWithColon? s = some colon) :
    (row.getLast? == some ':') = colon := by
  unfold endsWithColon? at hs
  cases hlast : s.getLast? with
  | none => simp [hlast] at hs
  | some x =>
      rw [hlast] at hs
      cases x with
      | char c =>
          rw [h.getLast? hlast, ← Option.some.inj hs]
          rfl
      | name =>
          obtain ⟨front, rfl⟩ := List.getLast?_eq_some_iff.1 hlast
          obtain ⟨u, v, rfl, -, hv⟩ := h.exists_split
          cases hv with
          | hole _ name hname hnil =>
              cases hnil
              obtain ⟨hne, hchars⟩ := hname
              obtain ⟨c, hc⟩ : ∃ c, name.getLast? = some c :=
                Option.ne_none_iff_exists'.1 fun hnone => hne (List.getLast?_eq_none_iff.1 hnone)
              have hcolon : c ≠ ':' := by
                rintro rfl
                exact absurd (hchars ':' (List.mem_of_getLast? hc))
                  (by simp [isNameChar, nameBreakers])
              rw [List.append_nil, List.getLast?_append, hc, ← Option.some.inj hs]
              simpa using hcolon
      | _ => simp at hs

/-- A row is read as its shape is. -/
theorem read_row
    (h : (writing true p).Fills s row)
    {opened : List Char}
    {q : Spot × List Char}
    (hs : (lexis true).advance ((lexis true).readCells (some (.code, opened)) s) '\n' = some q) :
    (lexis true).read (some (.code, opened)) (row ++ ['\n']) = some q := by
  cases hread : (lexis true).readCells (some (.code, opened)) s with
  | none =>
      rw [hread] at hs
      cases hs
  | some q' =>
      rw [hread] at hs
      have hrow : (lexis true).read (some (.code, opened)) row = some q' :=
        read_fills (w := writing true p) encloses h hread
      rw [read_append, hrow]
      exact hs

/-- The rows of a shape and those that fill them have the same logical lines, and are tidy. -/
theorem lay_fills
    {shapes : List (List Cell)}
    {rows : List Text}
    (h : List.Forall₂ (writing true p).Fills shapes rows)
    {opened : List Char}
    {column : Nat}
    {result : List LogicalLine × List Char × Nat}
    (hlay : layCells opened column shapes = some result) :
    lay opened column rows = some result ∧ ∀ row ∈ rows, IsTidy row := by
  induction h generalizing opened column result with
  | nil => exact ⟨hlay, by simp⟩
  | @cons s row shapes rows hrow _ ih =>
      rw [layCells] at hlay
      rw [lay, List.forall_mem_cons]
      cases hbare : isBareRow s with
      | true =>
          rw [hbare] at hlay
          obtain ⟨hline, hbreak⟩ := isBareLine_of_fills hrow hbare
          obtain ⟨hrest, htidy⟩ := ih hlay
          rw [if_pos hline]
          exact ⟨hrest, .inl ⟨hline, hbreak⟩, htidy⟩
      | false =>
          rw [hbare] at hlay
          simp only [Bool.false_eq_true, if_false] at hlay
          split at hlay
          · rename_i colon hstarts hcolon hread
            obtain ⟨hline, hspaces, hrowTidy⟩ := statement_of_fills hrow hstarts
            obtain ⟨found, hfound, hresult⟩ := Option.map_eq_some_iff.1 hlay
            obtain ⟨hrest, htidy⟩ := ih hfound
            rw [hline, hspaces, read_row hrow hread, getLast?_of_fills hrow hcolon]
            simp only [Bool.false_eq_true, if_false, hrest, Option.map_some]
            exact ⟨congrArg some hresult, hrowTidy, htidy⟩
          · rename_i colon b more hstarts hcolon hread
            obtain ⟨hline, hspaces, hrowTidy⟩ := statement_of_fills hrow hstarts
            obtain ⟨hrest, htidy⟩ := ih hlay
            rw [hline, hspaces, read_row hrow hread]
            exact ⟨hrest, hrowTidy, htidy⟩
          · cases hlay

end Rows

/-! ## Lines of code -/

/-- The logical lines of code, which closes the brackets that it opens. -/
structure Lays (c : Code) (lines : List LogicalLine) : Prop where
  tidy : ∀ row ∈ c.rows spelling, IsTidy row
  lays : ∃ column, lay [] 0 (c.rows spelling) = some (lines, [], column)

/-- A line of code has the logical lines of its form. -/
theorem lays_line
    {p : Char → Bool}
    {pieces : List Piece}
    (hsuits : ∀ x ∈ pieces, x.Suits (lexis true) p)
    {lines : List LogicalLine}
    (h : layForm (pieces.map Piece.slot) = some lines) :
    Lays (.line pieces) lines := by
  unfold layForm at h
  split at h
  · rename_i hform
    rw [Bool.and_eq_true, Bool.not_eq_true', List.contains_eq_mem, decide_eq_false_iff_not] at hform
    obtain ⟨hreadable, hcondition⟩ := hform
    split at h
    · rename_i found column hlay
      cases h
      have hfills := Writing.Fills.write (w := writing true p) hreadable hsuits
      have hplaces : ∀ x ∈ shape (pieces.map Piece.slot), ∀ u,
          (writing true p).MayFill x u → '\n' ∉ u := by
        intro x hx u hu
        cases x with
        | char c => exact hu.elim
        | literal =>
            obtain ⟨t, -, rfl⟩ := hu
            exact lineFeed_not_mem_escape t
        | name => exact IsName.lineFeed_not_mem hu
        | condition => exact absurd hx hcondition
        | remark => exact fun hfeed => absurd (hu '\n' hfeed) (by decide)
      obtain ⟨hrows, htidy⟩ := lay_fills (hfills.rows hplaces) hlay
      exact ⟨htidy, column, hrows⟩
    · cases h
  · cases h

end BotCanvas.Offside
