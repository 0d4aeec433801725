import BotCanvas.Program.Code
import BotCanvas.Proofs.Program.Lexis
import BotCanvas.Proofs.Text.Ascii

/-!
# Shapes of program lines

The form of a line keeps the program's own text and forgets the user's texts: of a literal, a
name, a condition or a remark only the slot remains. Its shape spells the form out, cell by cell.
A text that the line is written as fills its shape (`Fills.write`). Forms are closed, so what holds
of every text that fills a shape is decided by looking at one shape.
-/

namespace BotCanvas

/-- A piece of a line without the user's text in it. -/
inductive Slot
  | code (s : String)
  | literal
  | name
  | condition
  | remark
  deriving DecidableEq

/-- The slot that a piece fills. -/
def Piece.slot : Piece → Slot
  | .code s => .code s
  | .literal _ => .literal
  | .name _ => .name
  | .condition _ => .condition
  | .remark _ => .remark

section Slots

@[simp] theorem Piece.slot_code
    (s : String) :
    (Piece.code s).slot = .code s :=
  rfl

@[simp] theorem Piece.slot_literal
    (t : Text) :
    (Piece.literal t).slot = .literal :=
  rfl

@[simp] theorem Piece.slot_name
    (t : Text) :
    (Piece.name t).slot = .name :=
  rfl

@[simp] theorem Piece.slot_condition
    (t : Text) :
    (Piece.condition t).slot = .condition :=
  rfl

@[simp] theorem Piece.slot_remark
    (t : Text) :
    (Piece.remark t).slot = .remark :=
  rfl

end Slots

/-- A character of the program, or the place of a user's text. -/
inductive Cell
  | char (c : Char)
  | literal
  | name
  | condition
  | remark
  deriving DecidableEq

/-- The cells of a slot. -/
def Slot.cells : Slot → List Cell
  | .code s => (Text.asciiChars s).map .char
  | .literal => [.literal]
  | .name => [.name]
  | .condition => [.condition]
  | .remark => [.remark]

/-- The shape of a form. -/
def shape (form : List Slot) : List Cell :=
  form.flatMap Slot.cells

/-- Tests for a slot that has a shape: the program's own texts are in ASCII. -/
def Slot.isReadable : Slot → Bool
  | .code s => Text.isAscii s
  | _ => true

namespace Lexis

/-- The characters that no name holds. -/
def nameBreakers : List Char :=
  ['\x27', '\x22', '\x60', '\\', '/', '(', ')', '[', ']', '\x7b', '\x7d', ':']

/-- Tests for a character that may stand in a name. -/
def isNameChar (lx : Lexis) (c : Char) : Bool :=
  !Text.isBlank c && !nameBreakers.contains c && !(lx.hashRemarks && c == '#')

/-- A name: it is not empty and holds no mark of the language. -/
def IsName (lx : Lexis) (t : Text) : Prop :=
  t ≠ [] ∧ ∀ c ∈ t, lx.isNameChar c = true

/-- A character that leaves code as it is. -/
def IsInert (lx : Lexis) (c : Char) : Prop :=
  lx.enter c = .code ∧ ∀ opened, lx.track c opened = some opened

end Lexis

/-- A piece that suits its slot. The text of a literal has characters of a class only. -/
def Piece.Suits (lx : Lexis) (p : Char → Bool) : Piece → Prop
  | .code _ => True
  | .literal t => ∀ c ∈ t, p c = true
  | .name t => lx.IsName t
  | .condition t => ∀ c ∈ t, lx.IsInert c
  | .remark t => ∀ c ∈ t, Text.isLineBreak c = false

/-- How user's texts are written: how a language reads them and spells them, and which characters
the texts in literals have. -/
structure Writing where
  lexis : Lexis
  spelling : Spelling
  isSpoken : Char → Bool

namespace Writing

/-- A text that may be written in the place of a cell. -/
def MayFill (w : Writing) : Cell → Text → Prop
  | .char _, _ => False
  | .literal, u => ∃ t : Text, (∀ c ∈ t, w.isSpoken c = true) ∧ u = w.spelling.escape t
  | .name, u => w.lexis.IsName u
  | .condition, u => ∀ c ∈ u, w.lexis.IsInert c
  | .remark, u => ∀ c ∈ u, Text.isLineBreak c = false

/-- A shape with texts in the places of the user's. -/
inductive Fills (w : Writing) : List Cell → Text → Prop
  | nil : Fills w [] []
  | char
      (c : Char)
      {s : List Cell}
      {t : Text} :
      Fills w s t →
      Fills w (.char c :: s) (c :: t)
  | hole
      (x : Cell)
      (u : Text)
      {s : List Cell}
      {t : Text} :
      w.MayFill x u →
      Fills w s t →
      Fills w (x :: s) (u ++ t)

end Writing

namespace Writing.Fills

variable {w : Writing}
variable {s s' : List Cell}
variable {t t' : Text}

theorem append
    (h : w.Fills s t)
    (h' : w.Fills s' t') :
    w.Fills (s ++ s') (t ++ t') := by
  induction h with
  | nil => exact h'
  | char c _ ih => exact .char c ih
  | hole x u hu _ ih =>
      rw [List.append_assoc]
      exact .hole x u hu ih

/-- A text of the program fills its own shape. -/
theorem ofText
    (t : Text) :
    w.Fills (t.map .char) t := by
  induction t with
  | nil => exact .nil
  | cons c r ih => exact .char c ih

/-- A single place is filled by its text. -/
theorem single
    {x : Cell}
    {u : Text}
    (hu : w.MayFill x u) :
    w.Fills [x] u := by
  have h := Fills.hole x u hu .nil
  rwa [List.append_nil] at h

/-- A written line fills its shape. -/
theorem write
    {pieces : List Piece}
    (hform : (pieces.map Piece.slot).all Slot.isReadable = true)
    (hsuits : ∀ x ∈ pieces, x.Suits w.lexis w.isSpoken) :
    w.Fills (shape (pieces.map Piece.slot)) (pieces.flatMap (Piece.write w.spelling)) := by
  induction pieces with
  | nil => exact .nil
  | cons x rest ih =>
      rw [List.map_cons, List.all_cons, Bool.and_eq_true] at hform
      rw [List.map_cons, shape, List.flatMap_cons, List.flatMap_cons]
      refine append ?_ (ih hform.2 fun y hy => hsuits y (by simp [hy]))
      have hx := hsuits x (by simp)
      cases x with
      | code text =>
          have htext : Text.asciiChars text = text.toList := Text.asciiChars_eq hform.1
          simp only [Piece.slot, Slot.cells, Piece.write, htext]
          exact ofText _
      | literal u => exact single ⟨u, hx, rfl⟩
      | name u => exact single hx
      | condition u => exact single hx
      | remark u => exact single hx

/-- A character of a shape is one of the text. -/
theorem mem
    (h : w.Fills s t)
    {c : Char}
    (hc : .char c ∈ s) :
    c ∈ t := by
  induction h with
  | nil => simp at hc
  | char d _ ih =>
      rcases List.mem_cons.1 hc with hc | hc
      · simp [Cell.char.inj hc]
      · simp [ih hc]
  | hole x u hu _ ih =>
      rcases List.mem_cons.1 hc with rfl | hc
      · exact hu.elim
      · simp [ih hc]

/-- The last character of a shape is that of the text. -/
theorem getLast?
    (h : w.Fills s t)
    {c : Char}
    (hc : s.getLast? = some (.char c)) :
    t.getLast? = some c := by
  induction h with
  | nil => simp at hc
  | @char d s t hfills ih =>
      rw [List.getLast?_cons] at hc ⊢
      cases hlast : s.getLast? with
      | none =>
          rw [List.getLast?_eq_none_iff] at hlast
          subst hlast
          cases hfills
          simpa using hc
      | some last =>
          rw [hlast] at hc
          rw [ih (by rw [hlast]; exact hc)]
          rfl
  | @hole x u s t hu hfills ih =>
      rw [List.getLast?_cons] at hc
      cases hlast : s.getLast? with
      | none =>
          rw [hlast] at hc
          obtain rfl : x = .char c := by simpa using hc
          exact hu.elim
      | some last =>
          rw [hlast] at hc
          rw [List.getLast?_append, ih (by rw [hlast]; exact hc)]
          rfl

/-- What a shape starts with, the text starts with. -/
theorem isPrefix
    (h : w.Fills s t)
    {u : Text}
    (hu : u.map .char <+: s) :
    u <+: t := by
  induction h generalizing u with
  | nil =>
      rw [List.prefix_nil, List.map_eq_nil_iff] at hu
      simp [hu]
  | char c _ ih =>
      cases u with
      | nil => exact List.nil_prefix
      | cons d u =>
          rw [List.map_cons, List.cons_prefix_cons] at hu
          rw [List.cons_prefix_cons]
          exact ⟨Cell.char.inj hu.1, ih hu.2⟩
  | hole x v hv _ ih =>
      cases u with
      | nil => exact List.nil_prefix
      | cons d u =>
          rw [List.map_cons, List.cons_prefix_cons] at hu
          rw [← hu.1] at hv
          exact hv.elim

/-- A text that fills two shapes one after another falls apart. -/
theorem exists_split
    (h : w.Fills (s ++ s') t) :
    ∃ u v, t = u ++ v ∧ w.Fills s u ∧ w.Fills s' v := by
  induction s generalizing t with
  | nil => exact ⟨[], t, rfl, .nil, h⟩
  | cons x s ih =>
      rw [List.cons_append] at h
      cases h with
      | char c h =>
          obtain ⟨u, v, rfl, hu, hv⟩ := ih h
          exact ⟨c :: u, v, rfl, .char c hu, hv⟩
      | hole _ place hplace h =>
          obtain ⟨u, v, rfl, hu, hv⟩ := ih h
          exact ⟨place ++ u, v, by rw [List.append_assoc], .hole x place hplace hu, hv⟩

/-- What stands behind characters of a shape fills the rest of it. -/
theorem exists_append
    {u : Text}
    (h : w.Fills (u.map .char ++ s) t) :
    ∃ t', t = u ++ t' ∧ w.Fills s t' := by
  induction u generalizing t with
  | nil => exact ⟨t, rfl, h⟩
  | cons c u ih =>
      rw [List.map_cons, List.cons_append] at h
      cases h with
      | char _ h =>
          obtain ⟨t', rfl, ht'⟩ := ih h
          exact ⟨t', rfl, ht'⟩
      | hole _ _ hu _ => exact hu.elim

/-- Characters of which there are none in a shape or its places are not in the text. -/
theorem forall_mem
    {q : Char → Prop}
    (h : w.Fills s t)
    (hs : ∀ c, .char c ∈ s → q c)
    (hplaces : ∀ x ∈ s, ∀ u, w.MayFill x u → ∀ c ∈ u, q c) :
    ∀ c ∈ t, q c := by
  induction h with
  | nil => simp
  | char c _ ih =>
      intro d hd
      rcases List.mem_cons.1 hd with rfl | hd
      · exact hs d (by simp)
      · exact ih (fun e he => hs e (by simp [he])) (fun x hx => hplaces x (by simp [hx])) d hd
  | hole x u hu _ ih =>
      intro d hd
      rcases List.mem_append.1 hd with hd | hd
      · exact hplaces x (by simp) u hu d hd
      · exact ih (fun e he => hs e (by simp [he])) (fun x hx => hplaces x (by simp [hx])) d hd

end Writing.Fills

/-! ## Rows -/

/-- The rows of a shape. -/
def shapeRows : List Cell → List (List Cell)
  | [] => [[]]
  | x :: r =>
      if x = .char '\n' then [] :: shapeRows r
      else
        match shapeRows r with
        | [] => [[x]]
        | row :: rows => (x :: row) :: rows

theorem shapeRows_ne_nil
    (s : List Cell) :
    shapeRows s ≠ [] := by
  cases s with
  | nil => simp [shapeRows]
  | cons c r =>
      rw [shapeRows]
      split
      · simp
      · split <;> simp

/-- Every cell but a line feed stands in a row. -/
theorem exists_row_of_mem
    {s : List Cell}
    {x : Cell}
    (h : x ∈ s)
    (hx : x ≠ .char '\n') :
    ∃ row ∈ shapeRows s, x ∈ row := by
  induction s with
  | nil => simp at h
  | cons y r ih =>
      rw [shapeRows]
      rcases List.mem_cons.1 h with rfl | h
      · rw [if_neg hx]
        obtain ⟨row, rows, hrows⟩ := List.exists_cons_of_ne_nil (shapeRows_ne_nil r)
        rw [hrows]
        exact ⟨x :: row, by simp, by simp⟩
      · obtain ⟨row, hrow, hmem⟩ := ih h
        split
        · exact ⟨row, by simp [hrow], hmem⟩
        · cases hrows : shapeRows r with
          | nil => exact absurd hrows (shapeRows_ne_nil r)
          | cons first rows =>
              rw [hrows] at hrow
              rcases List.mem_cons.1 hrow with rfl | hrow
              · exact ⟨y :: row, by simp, by simp [hmem]⟩
              · exact ⟨row, by simp [hrow], hmem⟩

/-- What follows for every second item of related lists. -/
theorem forall_mem_of_forall₂
    {α β : Type}
    {R : α → β → Prop}
    {Q : β → Prop}
    {l : List α}
    {l' : List β}
    (h : List.Forall₂ R l l')
    (hQ : ∀ a ∈ l, ∀ b, R a b → Q b) :
    ∀ b ∈ l', Q b := by
  induction h with
  | nil => simp
  | cons hab _ ih =>
      exact List.forall_mem_cons.2 ⟨hQ _ (by simp) _ hab, ih fun a ha => hQ a (by simp [ha])⟩

/-- Texts that fill a shape have its rows, if no line feed was put into a place. -/
theorem Writing.Fills.rows
    {w : Writing}
    {s : List Cell}
    {t : Text}
    (h : w.Fills s t)
    (hplaces : ∀ x ∈ s, ∀ u, w.MayFill x u → '\n' ∉ u) :
    List.Forall₂ w.Fills (shapeRows s) (Text.splitOn '\n' t) := by
  induction h with
  | nil => exact .cons .nil .nil
  | @char c s t _ ih =>
      replace ih := ih fun x hx => hplaces x (by simp [hx])
      by_cases hc : c = '\n'
      · subst hc
        rw [shapeRows, if_pos rfl, Text.splitOn, if_pos rfl]
        exact .cons .nil ih
      · rw [shapeRows, if_neg (by simp [hc]), Text.splitOn, if_neg hc]
        obtain ⟨row, rows, hrows⟩ := List.exists_cons_of_ne_nil (shapeRows_ne_nil s)
        obtain ⟨v, vs, hv⟩ := List.exists_cons_of_ne_nil (Text.splitOn_ne_nil '\n' t)
        rw [hrows, hv] at ih ⊢
        cases ih with
        | cons hfirst hrest => exact .cons (.char c hfirst) hrest
  | @hole x u s t hu _ ih =>
      replace ih := ih fun x hx => hplaces x (by simp [hx])
      have hfeed := hplaces x (by simp) u hu
      have hx : x ≠ .char '\n' := by
        rintro rfl
        exact hu.elim
      obtain ⟨row, rows, hrows⟩ := List.exists_cons_of_ne_nil (shapeRows_ne_nil s)
      obtain ⟨v, vs, hv⟩ := List.exists_cons_of_ne_nil (Text.splitOn_ne_nil '\n' t)
      rw [shapeRows, if_neg hx, hrows, Text.splitOn_append_of_not_mem hfeed, hv]
      rw [hrows, hv] at ih
      cases ih with
      | cons hfirst hrest => exact .cons (.hole x u hu hfirst) hrest

end BotCanvas
