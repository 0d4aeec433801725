import BotCanvas.Proofs.Number.Range
import BotCanvas.Proofs.Program.Assembly
import BotCanvas.Proofs.Program.Statements

/-!
# Programs that cannot be written

Emission stops at the first number that is too large. `Emit.FailsOnly` bounds the errors that an
emission can end in. Names never fail, so an emission can end only in the errors of its numbers, and
a program only in the errors of the actions on its canvas (`Dialect.program_failsOnly`).

A block that counts something, such as the seconds of a pause, holds a `Quantity`. It fits if it
stays below the end of the binary64 range, both as it is given and in the units of the language.
-/

namespace BotCanvas

namespace Emit

variable {α β : Type}
variable {E F : NumberError → Prop}

/-- An emission that can end only in errors of a kind. -/
def FailsOnly (E : NumberError → Prop) (m : Emit α) : Prop :=
  ∀ σ e, (m.run.run σ).1 = .error e → E e

/-- An emission that comes to an end. -/
abbrev Succeeds (m : Emit α) : Prop :=
  FailsOnly (fun _ => False) m

namespace FailsOnly

theorem pure
    (a : α) :
    FailsOnly E (pure a) :=
  fun _ _ h => by cases h

theorem mono
    {m : Emit α}
    (h : FailsOnly E m)
    (hEF : ∀ e, E e → F e) :
    FailsOnly F m :=
  fun σ e he => hEF e (h σ e he)

theorem bind
    {m : Emit α}
    {f : α → Emit β}
    (hm : FailsOnly E m)
    (hf : ∀ a, FailsOnly E (f a)) :
    FailsOnly E (m >>= f) := by
  intro σ e h
  rw [run_bind] at h
  have hfirst := hm σ
  rcases hrun : m.run.run σ with ⟨r, σ'⟩
  rw [hrun] at h hfirst
  cases r with
  | error e' =>
      cases h
      exact hfirst e rfl
  | ok a => exact hf a σ' e h

theorem fresh
    (base : String) :
    FailsOnly E (fresh base) :=
  fun _ _ h => by cases h

theorem declare
    (name : Text) :
    FailsOnly E (declare name) :=
  fun _ _ h => by cases h

/-- Reading a number ends in the errors of the reading. -/
theorem number
    {v : Value}
    {fallback : Int}
    (h : ∀ e, v.asNumber (.int fallback) = .error e → E e) :
    FailsOnly E (Emit.number v fallback) :=
  fun _ => h

/-- Rounding a number ends in the errors of the rounding. -/
theorem normalise
    {n : Number}
    (h : ∀ e, n.normalise = .error e → E e) :
    FailsOnly E (normalise n) :=
  fun _ => h

/-- What follows a number that can be read ends in the errors for that number. -/
theorem number_bind
    {v : Value}
    {fallback : Int}
    {n : Number}
    {f : Number → Emit α}
    (h : v.asNumber (.int fallback) = .ok n)
    (hf : FailsOnly E (f n)) :
    FailsOnly E (Emit.number v fallback >>= f) := by
  have hbind : Emit.number v fallback >>= f = f n := by
    rw [Emit.number, h]
    rfl
  rw [hbind]
  exact hf

/-- An emission that comes to an end under a condition fails only without it. -/
theorem of_succeeds
    {P : Prop}
    {m : Emit α}
    (hm : FailsOnly E m)
    (h : P → Succeeds m) :
    FailsOnly (fun e => E e ∧ ¬P) m :=
  fun σ e he => ⟨hm σ e he, fun hP => h hP σ e he⟩

end FailsOnly

/-- Ending only in errors of a kind is a closed kind, for names never fail. -/
theorem Closed.failsOnly
    (bases : List String) :
    Closed bases (FailsOnly E) where
  pure := FailsOnly.pure
  fresh base _ := .fresh base
  declare := .declare
  bind := FailsOnly.bind

end Emit

/-! ## Numbers -/

namespace Number

/-- The binary64 number nearest to a number is missing in one way. -/
theorem toBinary64_error
    {n : Number}
    {e : NumberError}
    (h : n.toBinary64 = .error e) :
    e = .wholeTooLarge := by
  cases n with
  | float x => cases h
  | int k =>
      rw [toBinary64] at h
      cases hk : Binary64.ofInt? k with
      | none =>
          rw [hk] at h
          cases h
          rfl
      | some x =>
          rw [hk] at h
          cases h

/-- Rounding fails in one way. -/
theorem normalise_error
    {n : Number}
    {e : NumberError}
    (h : n.normalise = .error e) :
    e = .wholeTooLarge := by
  rw [normalise] at h
  cases hn : n.toBinary64 with
  | error e' =>
      rw [hn] at h
      cases h
      exact toBinary64_error hn
  | ok x =>
      rw [hn] at h
      cases h

end Number

namespace Value

variable {v : Value}
variable {fallback : Number}

theorem asNumber_of_error
    {e : NumberError}
    (h : v.toBinary64? = .error e) :
    v.asNumber fallback = .error e := by
  rw [asNumber, h]
  rfl

theorem asNumber_of_none
    (h : v.toBinary64? = .ok none) :
    v.asNumber fallback = fallback.normalise := by
  rw [asNumber, h]
  rfl

theorem asNumber_of_some
    {x : Binary64}
    (h : v.toBinary64? = .ok (some x)) :
    v.asNumber fallback = if x.isFinite then .ok (.ofBinary64 x) else fallback.normalise := by
  rw [asNumber, h]
  rfl

/-- A value that is no whole number beyond the range stands for a number or for none. -/
theorem exists_toBinary64?
    (h : ∀ n, v = .int n → n.natAbs < Binary64.limit) :
    ∃ x, v.toBinary64? = .ok x := by
  cases v with
  | int n =>
      have hn : Binary64.ofInt? n ≠ none := by
        rw [ne_eq, Binary64.ofInt?_eq_none_iff]
        exact Nat.not_le.2 (h n rfl)
      obtain ⟨x, hx⟩ := Option.ne_none_iff_exists'.1 hn
      refine ⟨some x, ?_⟩
      rw [toBinary64?, Number.toBinary64, hx]
      rfl
  | null => exact ⟨_, rfl⟩
  | bool b => exact ⟨_, rfl⟩
  | float x => exact ⟨_, rfl⟩
  | str s => exact ⟨_, rfl⟩
  | arr items => exact ⟨_, rfl⟩
  | obj fields => exact ⟨_, rfl⟩

/-- Only a whole number beyond the range is refused, if the fallback is none itself. -/
theorem exists_asNumber
    {n : Int}
    (hn : n.natAbs < Binary64.limit)
    (h : ∀ n, v = .int n → n.natAbs < Binary64.limit) :
    ∃ m, v.asNumber (.int n) = .ok m := by
  obtain ⟨x, hx⟩ := exists_toBinary64? h
  cases x with
  | none =>
      rw [asNumber_of_none hx]
      exact Number.normalise_int hn
  | some x =>
      rw [asNumber_of_some hx]
      split
      · exact ⟨_, rfl⟩
      · exact Number.normalise_int hn

/-- Reading a number fails in one way. -/
theorem asNumber_error
    {e : NumberError}
    (h : v.asNumber fallback = .error e) :
    e = .wholeTooLarge := by
  cases hx : v.toBinary64? with
  | error e' =>
      rw [asNumber_of_error hx] at h
      cases h
      cases v with
      | int n =>
          rw [toBinary64?] at hx
          refine Number.toBinary64_error (n := .int n) ?_
          cases hn : (Number.int n).toBinary64 with
          | error e' =>
              rw [hn] at hx
              cases hx
              rfl
          | ok x =>
              rw [hn] at hx
              cases hx
      | null => cases hx
      | bool b => cases hx
      | float x => cases hx
      | str s => cases hx
      | arr items => cases hx
      | obj fields => cases hx
  | ok x =>
      cases x with
      | none =>
          rw [asNumber_of_none hx] at h
          exact Number.normalise_error h
      | some x =>
          rw [asNumber_of_some hx] at h
          split at h
          · cases h
          · exact Number.normalise_error h

end Value

/-! ## Quantities -/

/-- A property that counts something: the block type and the key it is stored under, what counts if
it holds no number, and how many units of the language make one. -/
structure Quantity where
  type : String
  key : String
  fallback : Int
  factor : Nat

/-- The value that a quantity takes effect with. -/
def Subject.amount (s : Subject) (q : Quantity) : Value :=
  s.valueOr q.key (.int q.fallback)

/-- A quantity in range: as it is given, and in the units of the language. -/
structure Quantity.Fits (q : Quantity) (s : Subject) : Prop where
  given : ∀ n, s.amount q = .int n → n.natAbs < Binary64.limit
  scaled : ∀ n, (s.amount q).asNumber (.int q.fallback) = .ok (.int n) →
    (n * q.factor).natAbs < Binary64.limit

/-- A block all of whose quantities are in range. -/
def Subject.InRange (quantities : List Quantity) (s : Subject) : Prop :=
  ∀ q ∈ quantities, q.type = s.block.type → q.Fits s

namespace Quantity

variable {q : Quantity}
variable {s : Subject}

/-- Tests for a quantity in range. -/
def fits (q : Quantity) (s : Subject) : Bool :=
  (match s.amount q with
    | .int n => decide (n.natAbs < Binary64.limit)
    | _ => true) &&
  match (s.amount q).asNumber (.int q.fallback) with
    | .ok (.int n) => decide ((n * q.factor).natAbs < Binary64.limit)
    | _ => true

theorem fits_iff :
    q.fits s = true ↔ q.Fits s := by
  unfold fits
  rw [Bool.and_eq_true]
  constructor
  · rintro ⟨hgiven, hscaled⟩
    constructor
    · intro n hn
      rw [hn] at hgiven
      exact of_decide_eq_true hgiven
    · intro n hn
      rw [hn] at hscaled
      exact of_decide_eq_true hscaled
  · rintro ⟨hgiven, hscaled⟩
    constructor
    · split
      · rename_i n hn
        exact decide_eq_true (hgiven n hn)
      · rfl
    · split
      · rename_i n hn
        exact decide_eq_true (hscaled n hn)
      · rfl

instance : Decidable (q.Fits s) :=
  decidable_of_iff _ fits_iff

instance (quantities : List Quantity) : Decidable (s.InRange quantities) :=
  inferInstanceAs (Decidable (∀ q ∈ quantities, q.type = s.block.type → q.Fits s))

/-- An emission that fails where one quantity does not fit fails only out of range. -/
theorem failsOnly_of_mem
    {quantities : List Quantity}
    (hq : q ∈ quantities)
    (htype : s.block.type = q.type)
    {α : Type}
    {m : Emit α}
    (h : Emit.FailsOnly (fun e => e = .wholeTooLarge ∧ ¬q.Fits s) m) :
    Emit.FailsOnly (fun e => e = .wholeTooLarge ∧ ¬s.InRange quantities) m :=
  h.mono fun _ he => ⟨he.1, fun hrange => he.2 (hrange q hq htype.symm)⟩

/-- A quantity that fits is a number, and a number still in the units of the language. -/
theorem Fits.exists_numbers
    (h : q.Fits s)
    (hfallback : q.fallback.natAbs < Binary64.limit) :
    ∃ n m, (s.amount q).asNumber (.int q.fallback) = .ok n ∧
      (n.scale q.factor).normalise = .ok m := by
  obtain ⟨n, hn⟩ := Value.exists_asNumber hfallback h.given
  cases n with
  | int k =>
      obtain ⟨m, hm⟩ := Number.normalise_int (h.scaled k hn)
      exact ⟨.int k, m, hn, hm⟩
  | float x => exact ⟨.float x, _, hn, rfl⟩

end Quantity

/-! ## Flows and programs -/

namespace Dialect

variable {d : Dialect}
variable {E : NumberError → Prop}
variable {catalog : Catalog}
variable {canvas : Canvas}
variable {mode : Traversal}

/-- An action is of a kind that holds of the statements of its type; a type without statements is a
remark. -/
theorem emitAction_closed
    {bases : List String}
    {K : {α : Type} → Emit α → Prop}
    (hK : Emit.Closed bases K)
    {s : Subject}
    (h : ∀ action, (s.block.type, action) ∈ d.actions → K (action s)) :
    K (d.emitAction s) := by
  unfold emitAction
  cases haction : d.actions.lookup s.block.type with
  | none => exact hK.pure _
  | some action => exact h action (mem_of_lookup haction)

section Canvas

variable {e : NumberError}
variable (hactions : ∀ b ∈ canvas.blocks, Flow.branching? b.type = none →
  Emit.FailsOnly E (d.emitAction ⟨catalog, b⟩))

include hactions

/-- The statements of a trigger end only in the errors of the actions on the canvas. -/
theorem flowCode_failsOnly
    {t : Block}
    (ht : t ∈ canvas.blocks)
    (h : d.flowCode catalog mode canvas t = .error e) :
    E e := by
  have hcanvas : CanvasesAlike id (fun b b' => b = b' ∧ b ∈ canvas.blocks) canvas canvas :=
    .self fun _ hb => hb
  have hsteps : StepsAlike (fun b b' => b = b' ∧ b ∈ canvas.blocks)
      (Flow.linearize catalog mode canvas (some t)) (Flow.linearize catalog mode canvas (some t)) :=
    hcanvas.linearize (keepsOrder_self _) mode ⟨rfl, ht⟩
  unfold flowCode at h
  rw [emitFlow_eq] at h
  refine Meaning.flow_closed (.failsOnly []) ?_ hsteps .empty e h
  rintro b _ ⟨rfl, hb⟩ hway
  exact hactions b hb hway

/-- The same for subcommands. -/
theorem subcommandsFrom_failsOnly
    {l : List Block}
    (hl : ∀ b ∈ l, b ∈ canvas.blocks)
    {index : Nat}
    {taken : List Text}
    (h : d.subcommandsFrom catalog mode canvas index taken l = .error e) :
    E e := by
  induction l generalizing index taken with
  | nil => cases h
  | cons b l ih =>
      rw [List.forall_mem_cons] at hl
      rw [subcommandsFrom] at h
      simp only at h
      split at h
      · exact ih hl.2 h
      · obtain h | ⟨body, -, h⟩ := error_of_bind h
        · exact flowCode_failsOnly hactions hl.1 h
        · obtain h | ⟨subs, -, h⟩ := error_of_bind h
          · exact ih hl.2 h
          · cases h

/-- The same for the unit of a trigger. -/
theorem handlerUnit_failsOnly
    {kind : TriggerKind}
    {t : Block}
    (ht : t ∈ canvas.blocks)
    (h : d.handlerUnit catalog mode canvas kind t = .error e) :
    E e := by
  have hcanvas : CanvasesAlike id (fun b b' => b = b' ∧ b ∈ canvas.blocks) canvas canvas :=
    .self fun _ hb => hb
  rw [handlerUnit_eq] at h
  obtain h | ⟨subs, -, h⟩ := error_of_bind h
  · unfold ownSubcommands at h
    split at h
    · refine subcommandsFrom_failsOnly hactions (fun b hb => ?_) h
      have hsubs : List.Forall₂ (fun b b' => b = b' ∧ b ∈ canvas.blocks)
          (Flow.subcommands canvas t) (Flow.subcommands canvas t) :=
        hcanvas.subcommands (keepsOrder_self _) ⟨rfl, ht⟩
      exact (List.forall₂_same.1 hsubs b hb).2
    · cases h
  · cases hbody : d.ownBody catalog mode canvas t subs with
    | ok body =>
        rw [hbody] at h
        cases h
    | error e' =>
        rw [hbody] at h
        cases h
        unfold ownBody at hbody
        split at hbody
        · exact flowCode_failsOnly hactions ht hbody
        · cases hbody

/-- A program ends only in the errors of the actions on its canvas. -/
theorem program_failsOnly
    (h : d.program catalog mode canvas = .error e) :
    E e := by
  unfold Dialect.program at h
  cases hunits : d.handlerUnits catalog mode canvas with
  | ok units =>
      rw [hunits] at h
      cases h
  | error e' =>
      rw [hunits] at h
      cases h
      obtain ⟨⟨kind, t⟩, hmem, ht⟩ := exists_of_mapM_error hunits
      refine handlerUnit_failsOnly hactions ?_ ht
      simp only [List.mem_flatMap, List.mem_map, Prod.mk.injEq] at hmem
      obtain ⟨kind', -, t', ht', -, rfl⟩ := hmem
      exact List.mem_of_mem_filter (List.mem_of_mem_filter ht')

end Canvas

end Dialect

end BotCanvas
