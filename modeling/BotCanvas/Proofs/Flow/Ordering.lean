import BotCanvas.Catalog.Builtin
import BotCanvas.Flow.Walk

/-!
# Actions by height

The blocks of a canvas fall into triggers and actions (`Flow.StartsFlow`). Sorting the actions by
height loses none, puts none above a higher one, and keeps blocks at one height in document order
(`Flow.filter_actions`); by position, every trigger gets all of them.

**Heights.** The order of binary64 numbers is stated on its own (`Binary64.AtMost`): the infinities
are beyond all other numbers, the two zeros are equal, and NaN has no place in it. On numbers the
comparison that sorts is this order (`Binary64.le_iff`).
-/

namespace BotCanvas

namespace Binary64

/-- The order of numbers. NaN is not ordered. -/
inductive AtMost : Binary64 → Binary64 → Prop
  | bottom {y : Binary64} : y ≠ nan → AtMost (infinite true) y
  | top {x : Binary64} : x ≠ nan → AtMost x (infinite false)
  | finite {negative negative' : Bool} {units units' : Nat} :
      signedUnits (finite negative units) ≤ signedUnits (finite negative' units') →
      AtMost (finite negative units) (finite negative' units')

/-- Numbers that are equal, as the two zeros are. -/
def SameAs (x y : Binary64) : Prop :=
  AtMost x y ∧ AtMost y x

variable {x y z : Binary64}

/-- Of numbers, the comparison decides the order. -/
theorem le_iff
    (hx : x ≠ nan)
    (hy : y ≠ nan) :
    x.le y = true ↔ AtMost x y := by
  constructor
  · intro h
    cases x with
    | nan => exact absurd rfl hx
    | infinite negative =>
        cases negative with
        | true => exact .bottom hy
        | false =>
            obtain rfl : y = infinite false := by simpa [le] using h
            exact .top hx
    | finite negative units =>
        cases y with
        | nan => exact absurd rfl hy
        | infinite negative =>
            obtain rfl : negative = false := by simpa [le] using h
            exact .top hx
        | finite negative' units' => exact .finite (by simpa [le] using h)
  · intro h
    cases h with
    | bottom => simp [le]
    | top => cases x <;> simp [le]
    | finite h => simpa [le] using h

/-- What is ordered is a number. -/
theorem AtMost.ne_nan
    (h : AtMost x y) :
    x ≠ nan ∧ y ≠ nan := by
  cases h with
  | bottom hy => exact ⟨by simp, hy⟩
  | top hx => exact ⟨hx, by simp⟩
  | finite => exact ⟨by simp, by simp⟩

theorem le_of_atMost
    (h : AtMost x y) :
    x.le y = true :=
  (le_iff h.ne_nan.1 h.ne_nan.2).2 h

/-- Any two values are compared one way or the other. -/
theorem le_total
    (x y : Binary64) :
    (x.le y || y.le x) = true := by
  cases x <;> cases y <;> grind [le, signedUnits]

/-- The comparison is transitive. -/
theorem le_trans
    (x y z : Binary64)
    (hxy : x.le y = true)
    (hyz : y.le z = true) :
    x.le z = true := by
  cases x <;> cases y <;> cases z <;> grind [le, signedUnits]

/-- Being at most a number is decided by comparing. -/
instance decidableAtMost (x y : Binary64) : Decidable (AtMost x y) :=
  decidable_of_iff (x ≠ nan ∧ y ≠ nan ∧ x.le y = true)
    ⟨fun h => (le_iff h.1 h.2.1).1 h.2.2, fun h => ⟨h.ne_nan.1, h.ne_nan.2, le_of_atMost h⟩⟩

instance decidableSameAs (x y : Binary64) : Decidable (SameAs x y) :=
  inferInstanceAs (Decidable (AtMost x y ∧ AtMost y x))

end Binary64

namespace Flow

variable (catalog : Catalog) (canvas : Canvas)

/-- A block that starts a flow: a subcommand, a block that stores the category of triggers, or one
that stores no category and has a type of that category. -/
inductive StartsFlow (catalog : Catalog) (b : Block) : Prop
  | subcommand : b.type = subcommandType → StartsFlow catalog b
  | stored : b.category = BlockDefinition.triggerCategory → StartsFlow catalog b
  | byType (d : BlockDefinition) :
      b.category = "" → catalog.lookup? b.type = some d →
      d.category = BlockDefinition.triggerCategory → StartsFlow catalog b

/-- Triggers are the blocks that start a flow. -/
theorem isTrigger_iff
    {catalog : Catalog}
    {b : Block} :
    isTrigger catalog b = true ↔ StartsFlow catalog b := by
  rw [isTrigger, Bool.or_eq_true, beq_iff_eq, beq_iff_eq, category]
  constructor
  · rintro (htype | hcategory)
    · exact .subcommand htype
    · split at hcategory
      · rename_i hempty
        cases hfound : catalog.lookup? b.type with
        | none =>
            rw [hfound] at hcategory
            exact absurd hcategory (by decide)
        | some d =>
            rw [hfound] at hcategory
            exact .byType d (by simpa using hempty) hfound hcategory
      · exact .stored hcategory
  · rintro (htype | hstored | ⟨d, hempty, hfound, hd⟩)
    · exact .inl htype
    · refine .inr ?_
      rw [if_neg, hstored]
      rw [hstored]
      decide
    · refine .inr ?_
      rw [if_pos (by simp [hempty]), hfound]
      exact hd

/-- Triggers and actions are all blocks, each as often as it is on the canvas. -/
theorem triggers_append_actions_perm :
    (triggers catalog canvas ++ actions catalog canvas).Perm canvas.blocks :=
  ((List.mergeSort_perm _ above).append_left _).trans
    (List.filter_append_perm (isTrigger catalog) canvas.blocks)

theorem mem_actions
    {b : Block} :
    b ∈ actions catalog canvas ↔ b ∈ canvas.blocks ∧ ¬StartsFlow catalog b := by
  rw [actions, List.mem_mergeSort, List.mem_filter, Bool.not_eq_true', ← isTrigger_iff,
    Bool.not_eq_true]

/-- No action is above the one before it. -/
theorem pairwise_actions
    (hy : ∀ b ∈ canvas.blocks, b.y ≠ .nan) :
    (actions catalog canvas).Pairwise fun a b => a.y.AtMost b.y := by
  have hsorted : (actions catalog canvas).Pairwise fun a b => above a b = true :=
    List.pairwise_mergeSort (fun a b c => Binary64.le_trans a.y b.y c.y)
      (fun a b => Binary64.le_total a.y b.y) _
  refine hsorted.imp_of_mem fun ha hb h => ?_
  exact (Binary64.le_iff (hy _ ((mem_actions catalog canvas).1 ha).1)
    (hy _ ((mem_actions catalog canvas).1 hb).1)).1 h

/-- Sorting keeps the order of what the comparison does not tell apart. -/
theorem filter_mergeSort
    {α : Type}
    {le : α → α → Bool}
    (htrans : ∀ a b c, le a b = true → le b c = true → le a c = true)
    (htotal : ∀ a b, (le a b || le b a) = true)
    {p : α → Bool}
    (hp : ∀ a b, p a = true → p b = true → le a b = true)
    (l : List α) :
    (l.mergeSort le).filter p = l.filter p := by
  have hsame : (l.filter p).Pairwise fun a b => le a b = true :=
    List.pairwise_of_forall_mem_list fun a ha b hb =>
      hp a b (List.mem_filter.1 ha).2 (List.mem_filter.1 hb).2
  have hsub : (l.filter p).Sublist ((l.mergeSort le).filter p) := by
    have h := (List.sublist_mergeSort htrans htotal hsame List.filter_sublist).filter p
    simpa only [List.filter_filter, Bool.and_self] using h
  exact (hsub.eq_of_length ((List.mergeSort_perm l le).filter p).length_eq.symm).symm

/-- Actions at one height stand in document order. -/
theorem filter_actions
    (y : Binary64) :
    (actions catalog canvas).filter (fun b => b.y.SameAs y) =
      canvas.blocks.filter fun b => !isTrigger catalog b && decide (b.y.SameAs y) := by
  rw [actions, filter_mergeSort (fun a b c => Binary64.le_trans a.y b.y c.y)
    (fun a b => Binary64.le_total a.y b.y), List.filter_filter]
  · simp only [Bool.and_comm]
  · intro a b ha hb
    have hya : a.y.SameAs y := of_decide_eq_true ha
    have hyb : b.y.SameAs y := of_decide_eq_true hb
    exact Binary64.le_trans _ _ _ (Binary64.le_of_atMost hya.1) (Binary64.le_of_atMost hyb.2)

/-- What ordering by height keeps. -/
structure OrdersActions : Prop where
  /-- Triggers and actions are all blocks, each as often as it is on the canvas. -/
  split : (triggers catalog canvas ++ actions catalog canvas).Perm canvas.blocks
  /-- Triggers start flows. -/
  starts : ∀ b ∈ triggers catalog canvas, StartsFlow catalog b
  /-- Actions do not. -/
  follows : ∀ b ∈ actions catalog canvas, ¬StartsFlow catalog b
  /-- Triggers stand in document order. -/
  document : (triggers catalog canvas).Sublist canvas.blocks
  /-- No action is above an earlier one. -/
  sorted : (actions catalog canvas).Pairwise fun a b => a.y.AtMost b.y
  /-- Actions at one height stand in document order. -/
  stable : ∀ y : Binary64, (actions catalog canvas).filter (fun b => b.y.SameAs y) =
    canvas.blocks.filter fun b => !isTrigger catalog b && decide (b.y.SameAs y)
  /-- By position, every trigger gets the actions in this order, without arms, and so does none. -/
  position : ∀ trigger : Option Block,
    linearize catalog .position canvas trigger = (actions catalog canvas).map fun b => .mk b []

/--
On a canvas with a number for the height of every block, ordering by height loses nothing: the blocks
fall into triggers and actions, actions are sorted by height with ties in document order, and by
position these are the steps of every trigger.
-/
theorem ordersActions
    (hy : ∀ b ∈ canvas.blocks, b.y ≠ .nan) :
    OrdersActions catalog canvas where
  split := triggers_append_actions_perm catalog canvas
  starts _ hb := isTrigger_iff.1 (List.mem_filter.1 hb).2
  follows _ hb := ((mem_actions catalog canvas).1 hb).2
  document := List.filter_sublist
  sorted := pairwise_actions catalog canvas hy
  stable := filter_actions catalog canvas
  position trigger := by cases trigger <;> rfl

/-- A block with nothing but an identifier, a type and a height. -/
def blockAt (id type : String) (y : Binary64) : Block :=
  ⟨id, type, .zero, y, [], "", ""⟩

/-- Two blocks of one identifier at the two zeros, others at both infinities, and a trigger. -/
def steepCanvas : Canvas where
  blocks := [blockAt "a" "wait" (.infinite false), blockAt "b" "wait" (.finite true 0),
    blockAt "t" "event_listener" .zero, blockAt "b" "console_log" .zero,
    blockAt "c" "wait" (.infinite true)]
  connections := []

/-- The zeros stay in document order between the infinities. -/
theorem ordersActions_steepCanvas :
    (∀ b ∈ steepCanvas.blocks, b.y ≠ .nan) ∧ OrdersActions .builtin steepCanvas :=
  have hy : ∀ b ∈ steepCanvas.blocks, b.y ≠ .nan := by
    simp [steepCanvas, blockAt, Binary64.zero]
  ⟨hy, ordersActions .builtin steepCanvas hy⟩

end Flow

end BotCanvas
