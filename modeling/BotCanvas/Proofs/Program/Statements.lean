import BotCanvas.Program.Dialect
import BotCanvas.Proofs.Program.Emission
import BotCanvas.Proofs.Program.Forms
import BotCanvas.Proofs.Text.Words

/-!
# Statements that two subjects share

The statements of a block are code whose lines have some property (`Code.Every`), and which may
hold texts of the block inside literals (`Code.blank` takes them out). Two subjects that differ in
such texts only give the same statements up to them. `Code.Same` says both at once, so what is
known of each line and what is known of two runs comes from one lemma for each block type.
-/

namespace BotCanvas

/-- A piece without the user's text, if that stands in a literal. -/
def Piece.blank : Piece → Piece
  | .literal _ => .literal []
  | p => p

/-- Taking the texts out of literals keeps the slot of a piece. -/
@[simp] theorem Piece.slot_blank
    (p : Piece) :
    p.blank.slot = p.slot := by
  cases p <;> rfl

namespace Code

mutual

/-- Code without the user's texts in its literals. -/
def blank : Code → Code
  | line pieces => line (pieces.map Piece.blank)
  | written t => written t
  | stack parts => stack (blankParts parts)
  | nest levels body => nest levels (blank body)

/-- Parts without the user's texts in their literals. -/
def blankParts : List Code → List Code
  | [] => []
  | c :: rest => blank c :: blankParts rest

end

/-- Lines one under another, each with a property; no stack of them is empty. -/
inductive Every (P : List Piece → Prop) : Code → Prop
  | line {pieces : List Piece} (h : P pieces) : Every P (.line pieces)
  | stack {parts : List Code} (hne : parts ≠ []) (h : ∀ c ∈ parts, Every P c) :
      Every P (.stack parts)

/-- A weaker property holds of every line as well. -/
theorem Every.mono
    {P Q : List Piece → Prop}
    (hPQ : ∀ ps, P ps → Q ps)
    {c : Code}
    (h : Every P c) :
    Every Q c := by
  induction h with
  | line h => exact .line (hPQ _ h)
  | stack hne _ ih => exact .stack hne ih

/-- Two codes that differ only inside literals, and all lines of which have a property. -/
def Same (P : List Piece → Prop) (c c' : Code) : Prop :=
  c'.blank = c.blank ∧ c.Every P

namespace Same

variable {P : List Piece → Prop}

theorem line
    {pieces pieces' : List Piece}
    (hblank : pieces'.map Piece.blank = pieces.map Piece.blank)
    (h : P pieces) :
    Same P (.line pieces) (.line pieces') :=
  ⟨congrArg Code.line hblank, .line h⟩

theorem stack
    {parts parts' : List Code}
    (hne : parts ≠ [])
    (h : List.Forall₂ (Same P) parts parts') :
    Same P (.stack parts) (.stack parts') := by
  have hparts : blankParts parts' = blankParts parts ∧ ∀ c ∈ parts, c.Every P := by
    clear hne
    induction h with
    | nil => exact ⟨rfl, by simp⟩
    | @cons c c' parts parts' hc _ ih =>
        simp only [blankParts, List.forall_mem_cons]
        exact ⟨by rw [hc.1, ih.1], hc.2, ih.2⟩
  exact ⟨congrArg Code.stack hparts.1, .stack hne hparts.2⟩

end Same

end Code

/-- Subjects of one type whose properties take effect alike, except for those under given keys. -/
structure Subject.Alike (keys : List String) (s s' : Subject) : Prop where
  catalog : s'.catalog = s.catalog
  type : s'.block.type = s.block.type
  valueOr : ∀ key fallback, key ∉ keys → s'.valueOr key fallback = s.valueOr key fallback
  stored : ∀ key, key ∉ keys → s'.stored key = s.stored key

namespace Subject.Alike

variable {keys : List String}
variable {s s' : Subject}

/-- A subject differs from itself in nothing. -/
theorem refl
    (keys : List String)
    (s : Subject) :
    Subject.Alike keys s s :=
  ⟨rfl, rfl, fun _ _ _ => rfl, fun _ _ => rfl⟩

theorem value
    (h : Subject.Alike keys s s')
    (key : String)
    (hkey : key ∉ keys) :
    s'.value key = s.value key :=
  h.valueOr key .null hkey

theorem flag
    (h : Subject.Alike keys s s')
    (key : String)
    (hkey : key ∉ keys) :
    s'.flag key = s.flag key := by
  unfold Subject.flag
  rw [h.value key hkey]

end Subject.Alike

/-- A value that is found under a key is a field. -/
theorem mem_of_getField?
    {α : Type}
    {key : String}
    {value : α}
    {fields : List (String × α)}
    (h : getField? key fields = some value) :
    (key, value) ∈ fields := by
  induction fields with
  | nil => cases h
  | cons p rest ih =>
      obtain ⟨k, v⟩ := p
      rw [getField?] at h
      split at h
      · rename_i hkey
        rw [hkey, Option.some.inj h]
        exact List.mem_cons_self
      · exact List.mem_cons_of_mem _ (ih h)

/-- A subject whose properties have texts of a class only, which printable ASCII belongs to. -/
structure Subject.Speaks (p : Char → Bool) (s : Subject) : Prop where
  ascii : ∀ c : Char, 32 ≤ c.toNat → c.toNat < 127 → p c = true
  valueOr : ∀ key fallback, (fallback.isNull = false → ∀ c ∈ fallback.display, p c = true) →
    ∀ c ∈ (s.valueOr key fallback).display, p c = true
  stored : ∀ key, (s.stored key).isNull = false → ∀ c ∈ (s.stored key).display, p c = true

namespace Subject.Speaks

variable {p : Char → Bool}
variable {s : Subject}

/-- Nothing is said by a class of all characters. -/
theorem any
    (s : Subject) :
    s.Speaks fun _ => true :=
  ⟨fun _ _ _ => rfl, fun _ _ _ _ _ => rfl, fun _ _ _ _ => rfl⟩

theorem value
    (h : s.Speaks p)
    (key : String) :
    ∀ c ∈ (s.value key).display, p c = true :=
  h.valueOr key .null fun hnull => absurd hnull (by simp [Value.isNull])

/-- What a block stores and the defaults of its type are all that its properties can say. -/
theorem ofValues
    (hascii : ∀ c : Char, 32 ≤ c.toNat → c.toNat < 127 → p c = true)
    (hstored : ∀ key v, getField? key s.block.properties = some v → ∀ c ∈ v.display, p c = true)
    (hdefault : ∀ d, s.catalog.lookup? s.block.type = some d → ∀ q ∈ d.properties,
      ∀ c ∈ q.default.display, p c = true) :
    s.Speaks p := by
  have hvalue : ∀ key, (s.stored key).isNull = false → ∀ c ∈ (s.stored key).display, p c = true := by
    intro key hnull
    unfold Subject.stored at hnull ⊢
    cases hfield : getField? key s.block.properties with
    | none => simp [hfield, Value.isNull] at hnull
    | some v => exact hstored key v hfield
  refine ⟨hascii, ?_, hvalue⟩
  intro key fallback hfallback
  have hzero : ∀ k : PropertyKind, ∀ c ∈ k.zeroValue.display, p c = true := by
    intro k c hc
    have hprintable : (k.zeroValue.display.all fun c => 32 ≤ c.toNat && c.toNat < 127) = true := by
      cases k <;> decide
    have hc := List.all_eq_true.1 hprintable c hc
    rw [Bool.and_eq_true, decide_eq_true_eq, decide_eq_true_eq] at hc
    exact hascii c hc.1 hc.2
  have hnull : ∀ v : Value, Catalog.isUnset v = false → v.isNull = false := by
    intro v hv
    cases v <;> first | rfl | simp [Catalog.isUnset] at hv
  unfold Subject.valueOr Catalog.resolve
  simp only
  split
  · rename_i hset
    rw [Bool.not_eq_true'] at hset
    exact hvalue key (hnull (s.stored key) hset)
  · split
    · rename_i hset
      cases hspec : (s.catalog.lookup? s.block.type).bind fun d => d.property? key with
      | none => simp [hspec, Catalog.isUnset] at hset
      | some q =>
          obtain ⟨d, hd, hq⟩ := Option.bind_eq_some_iff.1 hspec
          exact hdefault d hd q (List.mem_of_find?_eq_some hq)
    · split
      · rename_i hset
        exact hfallback (by simpa using hset)
      · cases (s.catalog.lookup? s.block.type).bind fun d => d.property? key with
        | none => simp [Value.display]
        | some q => exact hzero q.kind

/-- A property inside a literal suits its slot. -/
theorem suits
    {lx : Lexis}
    (h : s.Speaks p)
    (key : String) :
    (s.literal key).Suits lx p :=
  h.value key

/-- A property, or a fallback in printable ASCII, inside a literal. -/
theorem suits_literalOr
    {lx : Lexis}
    (h : s.Speaks p)
    (key fallback : String)
    (hfallback : (fallback.toList.all fun c => 32 ≤ c.toNat && c.toNat < 127) = true) :
    (s.literalOr key fallback).Suits lx p := by
  refine h.valueOr key _ fun _ c hc => ?_
  have hascii := List.all_eq_true.1 hfallback c hc
  simp only [Bool.and_eq_true, decide_eq_true_eq] at hascii
  exact h.ascii c hascii.1 hascii.2

end Subject.Speaks

section Pieces

variable {lx : Lexis}
variable {p : Char → Bool}

@[simp] theorem Piece.suits_code
    (s : String) :
    (Piece.code s).Suits lx p :=
  trivial

@[simp] theorem Piece.suits_name
    {t : Text} :
    (Piece.name t).Suits lx p ↔ lx.IsName t :=
  Iff.rfl

@[simp] theorem Piece.suits_literal
    {t : Text} :
    (Piece.literal t).Suits lx p ↔ ∀ c ∈ t, p c = true :=
  Iff.rfl

/-- The text of a remark, brought onto one line, suits its slot. -/
@[simp] theorem Piece.suits_squeeze
    (t : Text) :
    (Piece.remark (Text.squeeze t)).Suits lx p :=
  fun _ hc => Text.not_isLineBreak_of_mem_squeeze hc

@[simp] theorem Subject.slot_literal
    (s : Subject)
    (key : String) :
    (s.literal key).slot = .literal :=
  rfl

@[simp] theorem Subject.slot_literalOr
    (s : Subject)
    (key fallback : String) :
    (s.literalOr key fallback).slot = .literal :=
  rfl

end Pieces

/-- What a table gives for a key stands in it. -/
theorem mem_of_lookup
    {κ α : Type}
    [BEq κ]
    [LawfulBEq κ]
    {l : List (κ × α)}
    {key : κ}
    {value : α}
    (h : l.lookup key = some value) :
    (key, value) ∈ l := by
  obtain ⟨front, rest, rfl, -⟩ := List.lookup_eq_some_iff.1 h
  simp

/-- Tables with the same keys and related entries give related entries. -/
theorem rel_lookup
    {α β : Type}
    {R : α → β → Prop}
    {l : List (String × α)}
    {l' : List (String × β)}
    (h : List.Forall₂ (fun a b => a.1 = b.1 ∧ R a.2 b.2) l l')
    (key : String) :
    Option.Rel R (l.lookup key) (l'.lookup key) := by
  induction h with
  | nil => exact .none
  | @cons a b l l' hab _ ih =>
      obtain ⟨k, v⟩ := a
      obtain ⟨k', v'⟩ := b
      obtain ⟨hk, hv⟩ := hab
      simp only at hk hv
      subst hk
      rw [List.lookup_cons, List.lookup_cons]
      cases key == k with
      | true => exact .some hv
      | false => exact ih

/--
An action whose statements are lines of a kind, and which for two subjects that differ in the texts
under given keys gives the same statements up to texts in literals.
-/
def SharesStatements (P : (Char → Bool) → List Piece → Prop) (keys : List String)
    (action : Subject → Emit Code) : Prop :=
  ∀ p s s', Subject.Alike keys s s' → s.Speaks p →
    Emit.Alike (Code.Same (P p)) (action s) (action s')

/-- If all actions of a dialect share their statements, so do all blocks that do not branch; one of
an unknown type is a remark. -/
theorem Dialect.emitAction_alike
    {d : Dialect}
    {P : (Char → Bool) → List Piece → Prop}
    {textKeys : List (String × List String)}
    (hactions : List.Forall₂ (fun a b => a.1 = b.1 ∧ SharesStatements P b.2 a.2) d.actions textKeys)
    (hremark : ∀ p t, P p [.code d.remarkMark, " ", .remark (Text.squeeze t)])
    {p : Char → Bool}
    {s s' : Subject}
    (h : Subject.Alike ((textKeys.lookup s.block.type).getD []) s s')
    (hs : s.Speaks p) :
    Emit.Alike (Code.Same (P p)) (d.emitAction s) (d.emitAction s') := by
  have hrel := rel_lookup (R := fun action keys => SharesStatements P keys action) hactions
    s.block.type
  unfold emitAction
  rw [h.type]
  cases hlookup : d.actions.lookup s.block.type with
  | none => exact .pure (.line rfl (hremark p _))
  | some action =>
      rw [hlookup] at hrel
      revert h
      generalize textKeys.lookup s.block.type = keys? at hrel
      cases hrel with
      | some hshares => exact fun h => hshares p s s' h hs

end BotCanvas
