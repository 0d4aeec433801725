import BotCanvas.Program.Target
import BotCanvas.Proofs.Braced.Redeclarations
import BotCanvas.Proofs.Offside.Runs

/-!
# Local names of a trigger

A scope is called for local names and for declarations. Declarations leave the count of the names
alone, so the names that calls return are those of a tally (`Scope.freshNames_eq`), whatever stands
between them.

What an emission leaves is the scope after some calls (`Emit.AsksOnly`). All statements of both
languages ask for names with few bases, none of which ends in a digit.
-/

namespace BotCanvas

namespace Scope

/-! ## Calls -/

/-- A call to a scope: for a name with a base, or for the declaration of a variable. -/
inductive Call
  | fresh (base : Text)
  | declare (name : Text)
  deriving DecidableEq

/-- The base of the name that is asked for. -/
def Call.base? : Call → Option Text
  | .fresh base => some base
  | .declare _ => none

/-- The bases of the names that calls ask for. -/
def bases (calls : List Call) : List Text :=
  calls.filterMap Call.base?

/-- The scope after a call. -/
def called (σ : Scope) : Call → Scope
  | .fresh base => (σ.fresh base).2
  | .declare name => (σ.declare name).2

/-- The scope after calls. -/
def after (σ : Scope) (calls : List Call) : Scope :=
  calls.foldl called σ

/-- The names that calls return, in order. -/
def freshNames (σ : Scope) : List Call → List Text
  | [] => []
  | .fresh base :: rest => (σ.fresh base).1 :: (σ.called (.fresh base)).freshNames rest
  | .declare name :: rest => (σ.called (.declare name)).freshNames rest

/-- A declaration leaves the count of the names alone. -/
theorem locals_called_declare
    (σ : Scope)
    (name : Text) :
    (σ.called (.declare name)).locals = σ.locals := by
  rw [called, declare]
  split
  · rfl
  · rfl

/-- Calls return the names that the tally gives out for their bases. -/
theorem freshNames_eq
    (σ : Scope)
    (calls : List Call) :
    σ.freshNames calls = σ.locals.names (bases calls) := by
  induction calls generalizing σ with
  | nil => rfl
  | cons call rest ih =>
      cases call with
      | fresh base => exact congrArg (σ.locals.nextName base :: ·) (ih _)
      | declare name =>
          rw [freshNames, ih, locals_called_declare]
          rfl

end Scope

/-! ## Emissions -/

namespace Emit

variable {α β : Type}
variable {P : Text → Prop}

/-- An emission that asks only for names with bases of a kind: it leaves the scope after such
calls, also if it fails. -/
def AsksOnly (P : Text → Prop) (m : Emit α) : Prop :=
  ∀ σ, ∃ calls, (∀ base ∈ Scope.bases calls, P base) ∧ (m.run.run σ).2 = σ.after calls

namespace AsksOnly

/-- An emission that leaves the scope alone asks for nothing. -/
theorem of_run_snd
    {m : Emit α}
    (h : ∀ σ, (m.run.run σ).2 = σ) :
    AsksOnly P m :=
  fun σ => ⟨[], List.forall_mem_nil _, h σ⟩

theorem number
    (v : Value)
    (fallback : Int) :
    AsksOnly P (Emit.number v fallback) :=
  .of_run_snd fun _ => rfl

theorem normalise
    (n : Number) :
    AsksOnly P (normalise n) :=
  .of_run_snd fun _ => rfl

theorem fresh
    {base : String}
    (h : P base.toList) :
    AsksOnly P (fresh base) :=
  fun _ => ⟨[.fresh base.toList], List.forall_mem_singleton.2 h, rfl⟩

theorem declare
    (name : Text) :
    AsksOnly P (declare name) :=
  fun _ => ⟨[.declare name], List.forall_mem_nil _, rfl⟩

theorem bind
    {m : Emit α}
    {f : α → Emit β}
    (hm : AsksOnly P m)
    (hf : ∀ a, AsksOnly P (f a)) :
    AsksOnly P (m >>= f) := by
  intro σ
  obtain ⟨first, hfirst, hscope⟩ := hm σ
  rw [run_bind]
  rcases hrun : m.run.run σ with ⟨r, σ'⟩
  rw [hrun] at hscope
  cases r with
  | error e => exact ⟨first, hfirst, hscope⟩
  | ok a =>
      obtain ⟨next, hnext, hscope'⟩ := hf a σ'
      refine ⟨first ++ next, ?_, ?_⟩
      · rw [Scope.bases, List.filterMap_append]
        exact List.forall_mem_append.2 ⟨hfirst, hnext⟩
      · rw [Scope.after, List.foldl_append]
        exact hscope'.trans (congrArg (Scope.after · next) hscope)

end AsksOnly

/-- Asking only for names with bases of a kind is a closed kind, for bases of that kind. -/
theorem Closed.asksOnly
    {bases : List String}
    (h : ∀ base ∈ bases, P base.toList) :
    Closed bases (AsksOnly P) where
  pure _ := .of_run_snd fun _ => rfl
  fresh base hbase := .fresh (h base hbase)
  declare := .declare
  bind := AsksOnly.bind

end Emit

/-! ## Bases of the languages -/

open Emit (AsksOnly)

/-- The statements of the language with braces ask for the names of its constants. -/
theorem Braced.emitAction_asksOnly
    {P : Text → Prop}
    (hP : ∀ base ∈ constantBases, P base.toList)
    (s : Subject) :
    AsksOnly P (dialect.emitAction s) := by
  have hK : Emit.Closed constantBases (AsksOnly P) := .asksOnly hP
  refine emitAction_closed_of s hK (fun _ => ?_) fun _ => ?_
  · refine AsksOnly.bind (hK.fresh _ (by decide)) fun _ => ?_
    exact AsksOnly.bind (.number _ _) fun _ => AsksOnly.bind (.normalise _) fun _ => hK.pure _
  · exact AsksOnly.bind (.number _ _) fun _ => AsksOnly.bind (.normalise _) fun _ => hK.pure _

/-- The statements of the language with suites ask for the names of its local variables. -/
theorem Offside.emitAction_asksOnly
    {P : Text → Prop}
    (hP : ∀ base ∈ localBases, P base.toList)
    (s : Subject) :
    AsksOnly P (dialect.emitAction s) := by
  have hK : Emit.Closed localBases (AsksOnly P) := .asksOnly hP
  refine emitAction_closed_of s hK (fun _ => ?_) fun _ => ?_
  · refine AsksOnly.bind (fetchMember_closed s hK) fun _ => ?_
    exact AsksOnly.bind (.number _ _) fun _ => hK.pure _
  · exact AsksOnly.bind (.number _ _) fun _ => hK.pure _

namespace Dialect

variable {d : Dialect}

/-- What actions ask for is what flows ask for. -/
theorem emitFlow_asksOnly
    {P : Text → Prop}
    (h : ∀ s, AsksOnly P (d.emitAction s))
    (catalog : Catalog)
    (steps : List Step) :
    AsksOnly P (d.emitFlow catalog steps) := by
  have hK : Emit.Closed [] (AsksOnly P) := .asksOnly (List.forall_mem_nil _)
  rw [emitFlow_eq]
  exact Meaning.flow_closed hK (fun b _ _ _ => h ⟨catalog, b⟩)
    (stepsAlike_self (B := fun _ => True) steps fun _ _ => trivial)

/-- No base in either language ends in a digit. -/
theorem emitAction_asksOnly_of_mem_all
    (hd : d ∈ all)
    (s : Subject) :
    AsksOnly (fun base => ¬Tally.EndsInDigit base) (d.emitAction s) := by
  rcases mem_all.1 hd with rfl | rfl
  · exact Braced.emitAction_asksOnly (by decide) s
  · exact Offside.emitAction_asksOnly (by decide) s

end Dialect

namespace Scope

/-- Names for bases that do not end in a digit are pairwise different, in any order and however often
a base returns. Flows in both languages ask for such names only. -/
theorem nodup_freshNames :
    (∀ calls, (∀ base ∈ bases calls, ¬Tally.EndsInDigit base) → (empty.freshNames calls).Nodup) ∧
      ∀ d ∈ Dialect.all, ∀ catalog steps,
        AsksOnly (fun base => ¬Tally.EndsInDigit base) (d.emitFlow catalog steps) := by
  refine ⟨fun calls hcalls => ?_, fun d hd catalog steps => ?_⟩
  · rw [freshNames_eq]
    exact Tally.nodup_names hcalls
  · exact Dialect.emitFlow_asksOnly (Dialect.emitAction_asksOnly_of_mem_all hd) catalog steps

/-- Embeds and rows in turn, with a variable that is called like the second embed. -/
def embedCalls : List Call :=
  [.fresh "embed".toList, .fresh "row".toList, .declare "embed2".toList, .fresh "embed".toList,
   .fresh "rowMenu".toList, .fresh "row".toList, .fresh "embed".toList]

/-- Their names, and the scope that an embed leaves. -/
theorem nodup_freshNames_embedCalls :
    (∀ base ∈ bases embedCalls, ¬Tally.EndsInDigit base) ∧
      empty.freshNames embedCalls =
        ["embed", "row", "embed2", "rowMenu", "row2", "embed3"].map String.toList ∧
      (empty.freshNames embedCalls).Nodup ∧
      AsksOnly (fun base => ¬Tally.EndsInDigit base)
        (Braced.dialect.emitFlow .builtin [Braced.embedStep, Braced.embedStep]) := by
  have hbases : ∀ base ∈ bases embedCalls, ¬Tally.EndsInDigit base := by decide
  refine ⟨hbases, by decide, nodup_freshNames.1 embedCalls hbases, ?_⟩
  exact nodup_freshNames.2 Braced.dialect (Dialect.mem_all.2 (.inl rfl)) _ _

/-- A base that ends in a digit can meet the later names of another. -/
example : empty.freshNames [.fresh "embed".toList, .fresh "embed".toList, .fresh "embed2".toList] =
    ["embed", "embed2", "embed2"].map String.toList := by
  decide

end Scope

end BotCanvas
