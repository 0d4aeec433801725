import BotCanvas.Canvas.Reader
import Mathlib.Data.List.Forall2

/-!
# Normal canvases

Making a canvas from a document never fails. Its lists are the objects that the accepted entries of
the document are read as, each on its own and in order (`Canvas.read_eq`); what else stands in the
document, rejected entries included, does not matter.

A canvas that was made is normal: making a canvas again, from the canvas itself, from its dump, or
from any mixture of its objects and their dumps, gives the same canvas. For a list this follows
from what a single object does: its dump is read as the object (`Block.read_dump`,
`Connection.read_dump`).
-/

namespace BotCanvas

open Schema

/-! ## Dumps -/

/-- How a dump names the handles of a connection: as the editor does, or with low lines. -/
inductive HandleSpelling
  | editor
  | plain
  deriving DecidableEq

namespace HandleSpelling

/-- The name of the handle that a connection leaves from. -/
def sourceKey : HandleSpelling → String
  | editor => "sourceHandle"
  | plain => "source_handle"

/-- The name of the handle that a connection arrives at. -/
def targetKey : HandleSpelling → String
  | editor => "targetHandle"
  | plain => "target_handle"

end HandleSpelling

/-- A block as plain data. -/
def Block.dump (b : Block) : Value :=
  .obj [("id", .str b.id), ("type", .str b.type),
    ("position", .obj [("x", .float b.x), ("y", .float b.y)]), ("properties", .obj b.properties),
    ("category", .str b.category), ("label", .str b.label)]

/-- A connection as plain data. A handle that is not named is null. -/
def Connection.dump (spelling : HandleSpelling) (c : Connection) : Value :=
  let handle (name : Option String) : Value := name.elim .null .str
  .obj [("id", .str c.id), ("source", .str c.source), ("target", .str c.target),
    (spelling.sourceKey, handle c.sourceHandle), (spelling.targetKey, handle c.targetHandle)]

/-- A canvas as plain data. -/
def Canvas.dump (spelling : HandleSpelling) (c : Canvas) : Value :=
  .obj [("blocks", .arr (c.blocks.map Block.dump)),
    ("connections", .arr (c.connections.map (Connection.dump spelling)))]

/-- The dump of a block is read as the block. -/
theorem Block.read_dump
    (b : Block) :
    Block.read b.dump = .valid b := by
  rfl

/-- The dump of a connection is read as the connection, in either spelling. -/
theorem Connection.read_dump
    (spelling : HandleSpelling)
    (c : Connection) :
    Connection.read (c.dump spelling) = .valid c := by
  obtain ⟨id, source, target, sourceHandle, targetHandle⟩ := c
  -- a handle without a name is null and read as none
  cases spelling <;> cases sourceHandle <;> cases targetHandle <;> rfl

/-! ## Accepted entries -/

/-- Tests for an entry that is an object and is accepted on its own. -/
def Value.isAccepted {α : Type} (read : Value → Checked α) : Value → Bool
  | .obj fields => (read (.obj fields)).toOption.isSome
  | _ => false

/-- The entries of the list that a document holds under a key; without a list there are none. -/
def Value.entriesUnder (key : String) : Value → List Value
  | .obj fields =>
      match getField? key fields with
      | some (.arr items) => items
      | _ => []
  | _ => []

/-- An entry that stands for an object: the object, made before, or one of its dumps. -/
def Entry.StandsFor {α : Type} (dumps : α → List Value) (e : Entry α) (a : α) : Prop :=
  e = .ready a ∨ ∃ v ∈ dumps a, e = .raw v

/-- Lists that stand for those of a canvas, entry by entry. -/
structure CanvasEntries.StandFor (entries : CanvasEntries) (c : Canvas) : Prop where
  blocks : List.Forall₂ (Entry.StandsFor fun b => [b.dump]) entries.blocks c.blocks
  connections : List.Forall₂ (Entry.StandsFor fun x => [x.dump .editor, x.dump .plain])
    entries.connections c.connections

section Entries

variable {α : Type}
variable {read : Value → Checked α}

/-- An entry of a document is usable if it is accepted, and is then what it is read as. -/
theorem Entry.usable?_raw
    (v : Value) :
    (Entry.raw v).usable? read = if v.isAccepted read then (read v).toOption else none := by
  cases v with
  | obj fields =>
      cases hread : read (.obj fields) with
      | valid a => simp [Entry.usable?, Value.isAccepted, hread, Checked.toOption]
      | invalid issues => simp [Entry.usable?, Value.isAccepted, hread, Checked.toOption]
  | _ => rfl

/-- Only accepted entries of a document are of use to a canvas. -/
theorem filterMap_usable?_raw
    (items : List Value) :
    (items.map Entry.raw).filterMap (Entry.usable? read) =
      (items.filter (Value.isAccepted read)).filterMap fun v => (read v).toOption := by
  rw [List.filterMap_map, List.filterMap_filter]
  exact congrArg (List.filterMap · items) (funext Entry.usable?_raw)

/-- Accepted entries are read one by one. -/
theorem forall₂_filterMap_toOption
    (items : List Value) :
    List.Forall₂ (fun v a => read v = .valid a) (items.filter (Value.isAccepted read))
      ((items.filter (Value.isAccepted read)).filterMap fun v => (read v).toOption) := by
  have haccepted : ∀ v ∈ items.filter (Value.isAccepted read), ∃ a, read v = .valid a := by
    intro v hv
    have hv := (List.mem_filter.1 hv).2
    cases v with
    | obj fields =>
        cases hread : read (.obj fields) with
        | valid a => exact ⟨a, rfl⟩
        | invalid issues => simp [Value.isAccepted, hread, Checked.toOption] at hv
    | _ => cases hv
  generalize items.filter (Value.isAccepted read) = accepted at haccepted ⊢
  induction accepted with
  | nil => exact .nil
  | cons v rest ih =>
      rw [List.forall_mem_cons] at haccepted
      obtain ⟨⟨a, ha⟩, hrest⟩ := haccepted
      simp only [List.filterMap_cons, ha, Checked.toOption]
      exact .cons ha (ih hrest)

/-- Objects made before pass any check of a list. -/
theorem itemsFrom_ready
    (as : List α)
    (n : Nat) :
    Checked.itemsFrom (Entry.check read) n (as.map .ready) = .valid as := by
  induction as generalizing n with
  | nil => rfl
  | cons a rest ih =>
      rw [List.map_cons, Checked.itemsFrom, ih]
      rfl

/-- Entries that stand for objects which are read from their dumps are of use as these objects. -/
theorem filterMap_usable?_standFor
    {dumps : α → List Value}
    (hdumps : ∀ a, ∀ v ∈ dumps a, (Entry.raw v).usable? read = some a)
    {entries : List (Entry α)}
    {as : List α}
    (h : List.Forall₂ (Entry.StandsFor dumps) entries as) :
    entries.filterMap (Entry.usable? read) = as := by
  induction h with
  | nil => rfl
  | @cons e a entries as he _ ih =>
      have husable : e.usable? read = some a := by
        rcases he with rfl | ⟨v, hv, rfl⟩
        · rfl
        · exact hdumps a v hv
      rw [List.filterMap_cons_some husable, ih]

end Entries

/-! ## Canvases -/

namespace CanvasEntries

/-- The lists of a document hold its entries. -/
theorem ofValue_eq
    (v : Value) :
    ofValue v = ⟨(v.entriesUnder "blocks").map .raw, (v.entriesUnder "connections").map .raw⟩ := by
  have hfield : ∀ (α : Type) (key : String) (fields : Fields),
      (Entry.ofField (getField? key fields) : List (Entry α)) =
        ((Value.obj fields).entriesUnder key).map .raw := by
    intro α key fields
    unfold Entry.ofField Value.entriesUnder
    dsimp only
    split <;> simp_all
  cases v with
  | obj fields => rw [ofValue, hfield, hfield]
  | _ => rfl

/-- Normal lists pass their check. -/
theorem check_normal
    (entries : CanvasEntries) :
    entries.normal.check =
      .valid ⟨entries.blocks.filterMap (Entry.usable? Block.read),
        entries.connections.filterMap (Entry.usable? Connection.read)⟩ := by
  rw [check, normal, itemsFrom_ready, itemsFrom_ready]
  rfl

/-- Lists that stand for those of a canvas make the canvas. -/
theorem StandFor.check_normal
    {entries : CanvasEntries}
    {c : Canvas}
    (h : entries.StandFor c) :
    entries.normal.check = .valid c := by
  have hblock : ∀ b : Block, ∀ v ∈ [b.dump], (Entry.raw v).usable? Block.read = some b := by
    intro b v hv
    rw [List.mem_singleton.1 hv]
    exact congrArg Checked.toOption b.read_dump
  have hconnection : ∀ x : Connection, ∀ v ∈ [x.dump .editor, x.dump .plain],
      (Entry.raw v).usable? Connection.read = some x := by
    intro x v hv
    rcases List.mem_cons.1 hv with rfl | hv
    · exact congrArg Checked.toOption (x.read_dump .editor)
    · rw [List.mem_singleton.1 hv]
      exact congrArg Checked.toOption (x.read_dump .plain)
  rw [CanvasEntries.check_normal, filterMap_usable?_standFor hblock h.blocks,
    filterMap_usable?_standFor hconnection h.connections]

end CanvasEntries

namespace Canvas

/-- The lists of a canvas hold what the accepted entries of its document are read as. -/
theorem read_eq
    (v : Value) :
    read v =
      ⟨((v.entriesUnder "blocks").filter (Value.isAccepted Block.read)).filterMap
          fun e => (Block.read e).toOption,
        ((v.entriesUnder "connections").filter (Value.isAccepted Connection.read)).filterMap
          fun e => (Connection.read e).toOption⟩ := by
  have hentries : ∀ {α : Type} (read : Value → Checked α),
      (∀ e, e.isAccepted read = (read e).toOption.isSome) → ∀ (key : String) (fields : Fields),
        validEntries read (getField? key fields) =
          (((Value.obj fields).entriesUnder key).filter (Value.isAccepted read)).filterMap
            fun e => (read e).toOption := by
    intro α read haccepted key fields
    unfold validEntries Value.entriesUnder
    dsimp only
    cases getField? key fields with
    | none => rfl
    | some w =>
        cases w with
        | arr items =>
            rw [List.filterMap_filter]
            refine congrArg (fun f => items.filterMap f) (funext fun e => ?_)
            rw [haccepted e]
            cases read e <;> rfl
        | _ => rfl
  have hblock : ∀ e : Value, e.isAccepted Block.read = (Block.read e).toOption.isSome := by
    intro e
    cases e <;> rfl
  have hconnection : ∀ e : Value,
      e.isAccepted Connection.read = (Connection.read e).toOption.isSome := by
    intro e
    cases e <;> rfl
  cases v with
  | obj fields => rw [read, hentries Block.read hblock, hentries Connection.read hconnection]
  | _ => rfl

/-- A document makes the canvas that is read from it. -/
theorem check_document
    (v : Value) :
    check (.document v) = .valid (read v) := by
  rw [check, CanvasEntries.ofValue_eq, CanvasEntries.check_normal, filterMap_usable?_raw,
    filterMap_usable?_raw, read_eq]

/-- The lists of a dump stand for those of the canvas. -/
theorem standFor_dump
    (spelling : HandleSpelling)
    (c : Canvas) :
    (CanvasEntries.ofValue (c.dump spelling)).StandFor c := by
  have hdumped : ∀ {α : Type} {dumps : α → List Value} (dump : α → Value),
      (∀ a, dump a ∈ dumps a) → ∀ as : List α,
        List.Forall₂ (Entry.StandsFor dumps) ((as.map dump).map .raw) as := by
    intro α dumps dump hmem as
    rw [List.map_map, List.forall₂_map_left_iff, List.forall₂_same]
    exact fun a _ => .inr ⟨dump a, hmem a, rfl⟩
  constructor
  · exact hdumped Block.dump (fun b => List.mem_singleton_self _) c.blocks
  · exact hdumped (Connection.dump spelling) (fun x => by cases spelling <;> simp) c.connections

/--
Making a canvas from a document never fails. Its blocks and connections are, in order, what the
entries of the document that are accepted are read as, each on its own. Documents with the same
accepted entries make the same canvas, so a rejected entry does not touch the others. Making the
canvas again changes nothing: from the canvas itself, from its dump in either spelling, or from
lists of its objects and their dumps.
-/
theorem normalises
    (v : Value) :
    check (.document v) = .valid (read v) ∧
    List.Forall₂ (fun e b => Block.read e = .valid b)
      ((v.entriesUnder "blocks").filter (Value.isAccepted Block.read)) (read v).blocks ∧
    List.Forall₂ (fun e x => Connection.read e = .valid x)
      ((v.entriesUnder "connections").filter (Value.isAccepted Connection.read))
      (read v).connections ∧
    (∀ w : Value,
      (w.entriesUnder "blocks").filter (Value.isAccepted Block.read) =
          (v.entriesUnder "blocks").filter (Value.isAccepted Block.read) →
        (w.entriesUnder "connections").filter (Value.isAccepted Connection.read) =
            (v.entriesUnder "connections").filter (Value.isAccepted Connection.read) →
          check (.document w) = .valid (read v)) ∧
    check (.ready (read v)) = .valid (read v) ∧
    (∀ spelling, check (.document ((read v).dump spelling)) = .valid (read v)) ∧
    ∀ entries : CanvasEntries, entries.StandFor (read v) →
      check (.lists entries) = .valid (read v) := by
  refine ⟨check_document v, ?_, ?_, ?_, rfl, ?_, ?_⟩
  · rw [read_eq]
    exact forall₂_filterMap_toOption _
  · rw [read_eq]
    exact forall₂_filterMap_toOption _
  · intro w hblocks hconnections
    rw [check_document, read_eq w, hblocks, hconnections, ← read_eq]
  · intro spelling
    exact (standFor_dump spelling (read v)).check_normal
  · intro entries hentries
    exact hentries.check_normal

/-- Of two blocks and two connections, one each is usable. -/
example :
    check (.document (.obj
      [("blocks", .arr [.str "junk", .obj [("id", .int 7), ("type", .str "wait")],
        .obj [("type", .str "wait")]]),
       ("connections", .arr [.obj [("source", .str "7")],
        .obj [("source", .int 7), ("target", .str "7"), ("source_handle", .null)]])])) =
      .valid ⟨[⟨"7", "wait", .zero, .zero, [], "", ""⟩], [⟨"", "7", "7", none, none⟩]⟩ := by
  rfl

end Canvas

end BotCanvas
