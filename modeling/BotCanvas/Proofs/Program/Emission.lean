import BotCanvas.Program.Steps
import Mathlib.Data.List.Forall2
import Mathlib.Data.Option.Basic

/-!
# Emission, two runs at a time

Emitting gives out names and can fail, so two emissions are compared as a whole: `Emit.Alike` says
that they give out the same names, fail alike, and that their results are related. A statement
about one emission compares it with itself.

A **reading** of flows gives every kind of step a meaning (`Meaning`). Emission of code is one of them
(`codeMeaning`); others read steps differently along the same order of names. One
induction over flows serves them all (`Meaning.flow_alike`): readings that are alike step by step
are alike.

What is said of single runs, their errors or their names, is a kind of emissions that is closed under
sequence (`Emit.Closed`). A reading of a flow is of such a kind if its actions are
(`Meaning.flow_closed`).
-/

namespace BotCanvas

namespace Emit

variable {α β γ δ : Type}

/-- Results of two emissions: both fail in the same way, or both succeed and are related. -/
def Matches (R : α → β → Prop) : Except NumberError α → Except NumberError β → Prop
  | .ok a, .ok b => R a b
  | .error e, .error e' => e = e'
  | _, _ => False

/-- Two emissions that give out the same names and whose results match. -/
def Alike (R : α → β → Prop) (m : Emit α) (m' : Emit β) : Prop :=
  ∀ σ, (m.run.run σ).2 = (m'.run.run σ).2 ∧ Matches R (m.run.run σ).1 (m'.run.run σ).1

/-- An emission all of whose results have a property. -/
def Gives (P : α → Prop) (m : Emit α) : Prop :=
  Alike (fun a b => a = b ∧ P a) m m

/-- One emission after another. -/
theorem run_bind
    (m : Emit α)
    (f : α → Emit β)
    (σ : Scope) :
    (m >>= f).run.run σ =
      match m.run.run σ with
      | (.ok a, σ') => (f a).run.run σ'
      | (.error e, σ') => (Except.error e, σ') := by
  change StateT.run (m.run >>= ExceptT.bindCont f) σ = _
  rw [StateT.run_bind]
  rcases m.run.run σ with ⟨r, s⟩
  cases r <;> rfl

theorem Alike.pure
    {R : α → β → Prop}
    {a : α}
    {b : β}
    (h : R a b) :
    Alike R (pure a) (pure b) :=
  fun _ => ⟨rfl, h⟩

theorem Alike.mono
    {R S : α → β → Prop}
    {m : Emit α}
    {m' : Emit β}
    (h : Alike R m m')
    (hRS : ∀ a b, R a b → S a b) :
    Alike S m m' := by
  intro σ
  obtain ⟨hscope, hresult⟩ := h σ
  refine ⟨hscope, ?_⟩
  revert hresult
  cases (m.run.run σ).1 <;> cases (m'.run.run σ).1
  · exact id
  · exact id
  · exact id
  · exact hRS _ _

theorem Alike.bind
    {Q : α → β → Prop}
    {R : γ → δ → Prop}
    {m : Emit α}
    {m' : Emit β}
    {f : α → Emit γ}
    {f' : β → Emit δ}
    (hm : Alike Q m m')
    (hf : ∀ a b, Q a b → Alike R (f a) (f' b)) :
    Alike R (m >>= f) (m' >>= f') := by
  intro σ
  rw [run_bind, run_bind]
  obtain ⟨hscope, hresult⟩ := hm σ
  rcases hrun : m.run.run σ with ⟨r, s⟩
  rcases hrun' : m'.run.run σ with ⟨r', s'⟩
  rw [hrun, hrun'] at hscope hresult
  simp only at hscope hresult
  subst hscope
  cases r with
  | error e =>
      cases r' with
      | error e' => exact ⟨rfl, hresult⟩
      | ok b => exact hresult.elim
  | ok a =>
      cases r' with
      | error e' => exact hresult.elim
      | ok b => exact hf a b hresult s

/-- What two emissions that start alike give at the start. -/
theorem Alike.refl
    (m : Emit α) :
    Alike (fun a b => a = b) m m := by
  intro σ
  refine ⟨rfl, ?_⟩
  cases (m.run.run σ).1
  · rfl
  · rfl

theorem Gives.pure
    {P : α → Prop}
    {a : α}
    (h : P a) :
    Gives P (pure a) :=
  Alike.pure ⟨rfl, h⟩

theorem Gives.mono
    {P Q : α → Prop}
    {m : Emit α}
    (h : Gives P m)
    (hPQ : ∀ a, P a → Q a) :
    Gives Q m :=
  Alike.mono h fun a _ hab => ⟨hab.1, hPQ a hab.2⟩

theorem Gives.bind
    {P : α → Prop}
    {Q : β → Prop}
    {m : Emit α}
    {f : α → Emit β}
    (hm : Gives P m)
    (hf : ∀ a, P a → Gives Q (f a)) :
    Gives Q (m >>= f) := by
  refine Alike.bind hm ?_
  rintro a b ⟨rfl, ha⟩
  exact hf a ha

/-- Every emission gives something. -/
theorem Gives.any
    (m : Emit α) :
    Gives (fun _ => True) m :=
  (Alike.refl m).mono fun _ _ h => ⟨h, trivial⟩

/-- What is known of an emission from comparing it with itself. -/
theorem Gives.of_alike
    {R : α → α → Prop}
    {P : α → Prop}
    {m : Emit α}
    (h : Alike R m m)
    (hRP : ∀ a, R a a → P a) :
    Gives P m := by
  intro σ
  have hresult := (h σ).2
  refine ⟨rfl, ?_⟩
  revert hresult
  cases (m.run.run σ).1 with
  | error e => exact id
  | ok a => exact fun hR => ⟨rfl, hRP a hR⟩

/-- What a successful run of an emission has given. -/
theorem Gives.of_run
    {P : α → Prop}
    {m : Emit α}
    (h : Gives P m)
    {σ σ' : Scope}
    {a : α}
    (hrun : m.run.run σ = (.ok a, σ')) :
    P a := by
  have hresult := (h σ).2
  rw [hrun] at hresult
  exact hresult.2

/-- A kind of emissions that holds of results alone, of requests for names with the given bases, of
declarations, and of one emission after another. -/
structure Closed (bases : List String) (K : {α : Type} → Emit α → Prop) : Prop where
  pure : ∀ {α : Type} (a : α), K (Pure.pure a : Emit α)
  fresh : ∀ base ∈ bases, K (fresh base)
  declare : ∀ name, K (declare name)
  bind : ∀ {α β : Type} {m : Emit α} {f : α → Emit β}, K m → (∀ a, K (f a)) → K (m >>= f)

end Emit

/-! ## Flows that differ only in their blocks -/

mutual

/-- Steps of one shape whose blocks are related one by one. -/
inductive StepsAlike (T : Block → Block → Prop) : List Step → List Step → Prop
  | nil : StepsAlike T [] []
  | cons
      {b b' : Block}
      {arms arms' : List (String × List Step)}
      {rest rest' : List Step} :
      T b b' →
      ArmsAlike T arms arms' →
      StepsAlike T rest rest' →
      StepsAlike T (.mk b arms :: rest) (.mk b' arms' :: rest')

/-- Arms of the same names whose steps are alike. -/
inductive ArmsAlike (T : Block → Block → Prop) :
    List (String × List Step) → List (String × List Step) → Prop
  | nil : ArmsAlike T [] []
  | cons
      {name : String}
      {steps steps' : List Step}
      {rest rest' : List (String × List Step)} :
      StepsAlike T steps steps' →
      ArmsAlike T rest rest' →
      ArmsAlike T ((name, steps) :: rest) ((name, steps') :: rest')

end

namespace Flow

mutual

/-- The blocks of a step and of its arms, at any depth. -/
def stepBlocks : Step → List Block
  | .mk b arms => b :: armBlocks arms

/-- The blocks of steps, at any depth. -/
def blocks : List Step → List Block
  | [] => []
  | s :: rest => stepBlocks s ++ blocks rest

/-- The blocks of arms, at any depth. -/
def armBlocks : List (String × List Step) → List Block
  | [] => []
  | (_, steps) :: rest => blocks steps ++ armBlocks rest

end

/-- A choice that asks neither for a role nor for a permission spells its condition out. -/
theorem type_of_choice
    {type : String}
    (h : branching? type = some .choice)
    (hrole : type ≠ "condition_has_role")
    (hpermission : type ≠ "condition_has_permission") :
    type = "if_condition" := by
  unfold branching? branchingTable at h
  simp only [List.lookup_cons, List.lookup_nil] at h
  by_cases hif : type = "if_condition"
  · exact hif
  · rw [beq_false_of_ne hif, beq_false_of_ne hrole, beq_false_of_ne hpermission] at h
    simp only at h
    split at h
    · cases h
    · split at h
      · cases h
      · split at h <;> cases h

end Flow

mutual

/-- Steps whose blocks all have a property are alike to themselves. -/
theorem stepsAlike_self
    {B : Block → Prop} :
    ∀ steps : List Step, (∀ b ∈ Flow.blocks steps, B b) →
      StepsAlike (fun b b' => b = b' ∧ B b) steps steps
  | [], _ => .nil
  | .mk b arms :: rest, h => by
      have hblocks : Flow.blocks (.mk b arms :: rest) =
          b :: (Flow.armBlocks arms ++ Flow.blocks rest) := rfl
      rw [hblocks] at h
      refine .cons ⟨rfl, h b (by simp)⟩ ?_ ?_
      · exact armsAlike_self arms fun x hx => h x (by simp [hx])
      · exact stepsAlike_self rest fun x hx => h x (by simp [hx])

/-- The same for arms. -/
theorem armsAlike_self
    {B : Block → Prop} :
    ∀ arms : List (String × List Step), (∀ b ∈ Flow.armBlocks arms, B b) →
      ArmsAlike (fun b b' => b = b' ∧ B b) arms arms
  | [], _ => .nil
  | (name, steps) :: rest, h => by
      have hblocks : Flow.armBlocks ((name, steps) :: rest) =
          Flow.blocks steps ++ Flow.armBlocks rest := rfl
      rw [hblocks] at h
      refine .cons ?_ ?_
      · exact stepsAlike_self steps fun x hx => h x (by simp [hx])
      · exact armsAlike_self rest fun x hx => h x (by simp [hx])

end

/-! ## Readings of flows -/

/-- A meaning for every kind of step. Arms that are missing or empty have none. -/
structure Meaning (α : Type) where
  /-- A block that does not branch. -/
  action : Block → Emit α
  /-- A choice between two arms. -/
  choice : Block → (yes no : α) → α
  /-- A permission check with its arms for a refusal and for a permission. -/
  gate : Block → (denied allowed : Option α) → α
  /-- A body whose errors are caught. -/
  recovery : Block → α → α
  /-- Nothing to do. -/
  idle : α
  /-- Steps one after another. -/
  sequence : List α → α

namespace Meaning

variable {α β : Type}

mutual

/-- The meaning of a step. -/
def step (A : Meaning α) : Step → Emit α
  | .mk block arms =>
      match Flow.branching? block.type with
      | some .choice => do
          let yes ← A.arm "true" arms
          let no ← A.arm "false" arms
          pure (A.choice block (yes.getD A.idle) (no.getD A.idle))
      | some .gate => do
          let denied ← A.arm "false" arms
          let allowed ← A.arm "true" arms
          pure (A.gate block denied allowed)
      | some .recovery => do
          let body ← A.arm "body" arms
          pure (A.recovery block (body.getD A.idle))
      | none => A.action block

/-- The meanings of steps, each on its own. -/
def list (A : Meaning α) : List Step → Emit (List α)
  | [] => pure []
  | s :: rest => do
      let c ← A.step s
      let cs ← A.list rest
      pure (c :: cs)

/-- The meaning of an arm, unless it is missing or empty. -/
def arm (A : Meaning α) (name : String) : List (String × List Step) → Emit (Option α)
  | [] => pure none
  | (n, steps) :: rest =>
      if n = name then do
        let cs ← A.list steps
        pure (if cs.isEmpty then none else some (A.sequence cs))
      else A.arm name rest

end

/-- The meaning of a flow. -/
def flow (A : Meaning α) (steps : List Step) : Emit α := do
  let cs ← A.list steps
  pure (if cs.isEmpty then A.idle else A.sequence cs)

/-- Readings that agree step by step, on statements by one relation and on whole arms by another. -/
structure Agree
    (A : Meaning α)
    (A' : Meaning β)
    (T : Block → Block → Prop)
    (R : α → β → Prop)
    (Q : α → β → Prop) : Prop where
  type : ∀ b b', T b b' → b'.type = b.type
  action : ∀ b b', T b b' → Flow.branching? b.type = none →
    Emit.Alike R (A.action b) (A'.action b')
  choice : ∀ b b', T b b' → Flow.branching? b.type = some .choice →
    ∀ yes yes' no no', Q yes yes' → Q no no' → R (A.choice b yes no) (A'.choice b' yes' no')
  gate : ∀ b b', T b b' → Flow.branching? b.type = some .gate →
    ∀ denied denied' allowed allowed', Option.Rel Q denied denied' →
      Option.Rel Q allowed allowed' → R (A.gate b denied allowed) (A'.gate b' denied' allowed')
  recovery : ∀ b b', T b b' → Flow.branching? b.type = some .recovery →
    ∀ body body', Q body body' → R (A.recovery b body) (A'.recovery b' body')
  idle : Q A.idle A'.idle
  sequence : ∀ cs cs', cs ≠ [] → List.Forall₂ R cs cs' → Q (A.sequence cs) (A'.sequence cs')

namespace Agree

variable {A : Meaning α}
variable {A' : Meaning β}
variable {T : Block → Block → Prop}
variable {R : α → β → Prop}
variable {Q : α → β → Prop}

/-- Missing arms are idle in both readings. -/
theorem getD_idle
    (h : Agree A A' T R Q)
    {a : Option α}
    {a' : Option β}
    (ha : Option.Rel Q a a') :
    Q (a.getD A.idle) (a'.getD A'.idle) := by
  cases ha with
  | some hq => exact hq
  | none => exact h.idle

mutual

/-- Readings that agree step by step agree on lists of steps. -/
theorem list_alike
    (h : Agree A A' T R Q) :
    ∀ {steps steps' : List Step}, StepsAlike T steps steps' →
      Emit.Alike (List.Forall₂ R) (A.list steps) (A'.list steps')
  | _, _, .nil => .pure .nil
  | _, _, @StepsAlike.cons _ b b' arms arms' rest rest' hb harms hrest => by
      have hstep : Emit.Alike R (A.step (.mk b arms)) (A'.step (.mk b' arms')) := by
        rw [Meaning.step, Meaning.step, h.type b b' hb]
        cases hway : Flow.branching? b.type with
        | none => exact h.action b b' hb hway
        | some way =>
            cases way with
            | choice =>
                refine (h.arm_alike "true" harms).bind fun yes yes' hyes => ?_
                refine (h.arm_alike "false" harms).bind fun no no' hno => ?_
                exact .pure (h.choice b b' hb hway _ _ _ _ (h.getD_idle hyes) (h.getD_idle hno))
            | gate =>
                refine (h.arm_alike "false" harms).bind fun denied denied' hdenied => ?_
                refine (h.arm_alike "true" harms).bind fun allowed allowed' hallowed => ?_
                exact .pure (h.gate b b' hb hway _ _ _ _ hdenied hallowed)
            | recovery =>
                refine (h.arm_alike "body" harms).bind fun body body' hbody => ?_
                exact .pure (h.recovery b b' hb hway _ _ (h.getD_idle hbody))
      rw [Meaning.list, Meaning.list]
      refine hstep.bind fun c c' hc => ?_
      refine (h.list_alike hrest).bind fun cs cs' hcs => ?_
      exact .pure (.cons hc hcs)

/-- Readings that agree step by step agree on arms. -/
theorem arm_alike
    (h : Agree A A' T R Q)
    (name : String) :
    ∀ {arms arms' : List (String × List Step)}, ArmsAlike T arms arms' →
      Emit.Alike (Option.Rel Q) (A.arm name arms) (A'.arm name arms')
  | _, _, .nil => .pure .none
  | _, _, @ArmsAlike.cons _ n steps steps' rest rest' hsteps hrest => by
      rw [Meaning.arm, Meaning.arm]
      by_cases hn : n = name
      · rw [if_pos hn, if_pos hn]
        refine (h.list_alike hsteps).bind fun cs cs' hcs => .pure ?_
        cases hcs with
        | nil => exact .none
        | cons hc hrest =>
            exact .some (h.sequence _ _ (by simp) (.cons hc hrest))
      · rw [if_neg hn, if_neg hn]
        exact h.arm_alike name hrest

end

/-- Readings that agree step by step agree on flows. -/
theorem flow_alike
    (h : Agree A A' T R Q)
    {steps steps' : List Step}
    (hsteps : StepsAlike T steps steps') :
    Emit.Alike Q (A.flow steps) (A'.flow steps') := by
  refine (h.list_alike hsteps).bind fun cs cs' hcs => .pure ?_
  cases hcs with
  | nil => exact h.idle
  | cons hc hrest => exact h.sequence _ _ (by simp) (.cons hc hrest)

end Agree

section Closed

variable {bases : List String}
variable {K : {α : Type} → Emit α → Prop}
variable {A : Meaning α}
variable {T : Block → Block → Prop}

mutual

/-- Reading steps is of a kind that holds of their actions. -/
theorem list_closed
    (hK : Emit.Closed bases K)
    (hA : ∀ b b', T b b' → Flow.branching? b.type = none → K (A.action b)) :
    ∀ {steps steps' : List Step}, StepsAlike T steps steps' → K (A.list steps)
  | _, _, .nil => hK.pure _
  | _, _, @StepsAlike.cons _ b b' arms arms' rest rest' hb harms hrest => by
      have hstep : K (A.step (.mk b arms)) := by
        rw [Meaning.step]
        cases hway : Flow.branching? b.type with
        | none => exact hA b b' hb hway
        | some way =>
            cases way with
            | choice =>
                refine hK.bind (arm_closed hK hA "true" harms) fun yes => ?_
                exact hK.bind (arm_closed hK hA "false" harms) fun no => hK.pure _
            | gate =>
                refine hK.bind (arm_closed hK hA "false" harms) fun denied => ?_
                exact hK.bind (arm_closed hK hA "true" harms) fun allowed => hK.pure _
            | recovery =>
                exact hK.bind (arm_closed hK hA "body" harms) fun body => hK.pure _
      rw [Meaning.list]
      refine hK.bind hstep fun c => ?_
      exact hK.bind (list_closed hK hA hrest) fun cs => hK.pure _

/-- The same for an arm. -/
theorem arm_closed
    (hK : Emit.Closed bases K)
    (hA : ∀ b b', T b b' → Flow.branching? b.type = none → K (A.action b))
    (name : String) :
    ∀ {arms arms' : List (String × List Step)}, ArmsAlike T arms arms' → K (A.arm name arms)
  | _, _, .nil => hK.pure _
  | _, _, @ArmsAlike.cons _ n steps steps' rest rest' hsteps hrest => by
      rw [Meaning.arm]
      by_cases hn : n = name
      · rw [if_pos hn]
        exact hK.bind (list_closed hK hA hsteps) fun cs => hK.pure _
      · rw [if_neg hn]
        exact arm_closed hK hA name hrest

end

/-- The same for a flow. -/
theorem flow_closed
    (hK : Emit.Closed bases K)
    (hA : ∀ b b', T b b' → Flow.branching? b.type = none → K (A.action b))
    {steps steps' : List Step}
    (h : StepsAlike T steps steps') :
    K (A.flow steps) :=
  hK.bind (list_closed hK hA h) fun _ => hK.pure _

end Closed

/-- A reading of flows of blocks of a kind that gives, step by step, results of a kind: of one kind
for statements, of another for whole arms. -/
structure Keeps
    (A : Meaning α)
    (P : Block → Prop)
    (R : α → Prop)
    (Q : α → Prop) : Prop where
  action : ∀ b, P b → Flow.branching? b.type = none → Emit.Gives R (A.action b)
  choice : ∀ b, P b → Flow.branching? b.type = some .choice →
    ∀ yes no, Q yes → Q no → R (A.choice b yes no)
  gate : ∀ b, P b → Flow.branching? b.type = some .gate →
    ∀ denied allowed, (∀ c ∈ denied, Q c) → (∀ c ∈ allowed, Q c) → R (A.gate b denied allowed)
  recovery : ∀ b, P b → Flow.branching? b.type = some .recovery →
    ∀ body, Q body → R (A.recovery b body)
  idle : Q A.idle
  sequence : ∀ cs, cs ≠ [] → (∀ c ∈ cs, R c) → Q (A.sequence cs)

/-- Such a reading agrees with itself on results of these kinds. -/
theorem Keeps.agree
    {A : Meaning α}
    {P : Block → Prop}
    {R Q : α → Prop}
    (h : A.Keeps P R Q) :
    Agree A A (fun b b' => b = b' ∧ P b) (fun c c' => c = c' ∧ R c) fun c c' => c = c' ∧ Q c where
  type := by
    rintro b _ ⟨rfl, -⟩
    rfl
  action := by
    rintro b _ ⟨rfl, hb⟩ hway
    exact h.action b hb hway
  choice := by
    rintro b _ ⟨rfl, hb⟩ hway yes _ no _ ⟨rfl, hyes⟩ ⟨rfl, hno⟩
    exact ⟨rfl, h.choice b hb hway yes no hyes hno⟩
  gate := by
    rintro b _ ⟨rfl, hb⟩ hway denied denied' allowed allowed' hdenied hallowed
    have hoption : ∀ {a a' : Option α}, Option.Rel (fun c c' => c = c' ∧ Q c) a a' →
        a = a' ∧ ∀ c ∈ a, Q c := by
      rintro _ _ (⟨rfl, hc⟩ | _)
      · exact ⟨rfl, by simpa using hc⟩
      · exact ⟨rfl, by simp⟩
    obtain ⟨rfl, hdenied'⟩ := hoption hdenied
    obtain ⟨rfl, hallowed'⟩ := hoption hallowed
    exact ⟨rfl, h.gate b hb hway denied allowed hdenied' hallowed'⟩
  recovery := by
    rintro b _ ⟨rfl, hb⟩ hway body _ ⟨rfl, hbody⟩
    exact ⟨rfl, h.recovery b hb hway body hbody⟩
  idle := ⟨rfl, h.idle⟩
  sequence := by
    intro cs cs' hne hcs
    have hboth : cs = cs' ∧ ∀ c ∈ cs, R c := by
      clear hne
      induction hcs with
      | nil => exact ⟨rfl, by simp⟩
      | cons hc _ ih =>
          obtain ⟨rfl, hc⟩ := hc
          obtain ⟨rfl, hrest⟩ := ih
          exact ⟨rfl, by simpa using ⟨hc, hrest⟩⟩
    obtain ⟨rfl, hparts⟩ := hboth
    exact ⟨rfl, h.sequence cs hne hparts⟩

end Meaning

namespace Dialect

/-- Emission of code as a reading of flows. -/
def codeMeaning (d : Dialect) (catalog : Catalog) : Meaning Code where
  action b := d.emitAction ⟨catalog, b⟩
  choice b yes no := d.choice ⟨catalog, b⟩ yes no
  gate b denied allowed := d.gate ⟨catalog, b⟩ denied allowed
  recovery b body := d.recovery ⟨catalog, b⟩ body
  idle := d.noopCode
  sequence cs := d.suite (.stack cs)

mutual

theorem emitStep_eq
    (d : Dialect)
    (catalog : Catalog) :
    ∀ s : Step, d.emitStep catalog s = (d.codeMeaning catalog).step s
  | .mk block arms => by
      rw [emitStep, Meaning.step, emitArm_eq d catalog "true" arms,
        emitArm_eq d catalog "false" arms, emitArm_eq d catalog "body" arms]
      rfl

theorem emitList_eq
    (d : Dialect)
    (catalog : Catalog) :
    ∀ steps : List Step, d.emitList catalog steps = (d.codeMeaning catalog).list steps
  | [] => rfl
  | s :: rest => by
      rw [emitList, Meaning.list, emitStep_eq d catalog s, emitList_eq d catalog rest]

theorem emitArm_eq
    (d : Dialect)
    (catalog : Catalog)
    (name : String) :
    ∀ arms : List (String × List Step),
      d.emitArm catalog name arms = (d.codeMeaning catalog).arm name arms
  | [] => rfl
  | (n, steps) :: rest => by
      rw [emitArm, Meaning.arm, emitList_eq d catalog steps, emitArm_eq d catalog name rest]
      rfl

end

/-- Emitting a flow is reading it as code. -/
theorem emitFlow_eq
    (d : Dialect)
    (catalog : Catalog)
    (steps : List Step) :
    d.emitFlow catalog steps = (d.codeMeaning catalog).flow steps := by
  rw [emitFlow, Meaning.flow, emitList_eq]
  rfl

end Dialect

end BotCanvas
