import BotCanvas.Proofs.Braced.Blocks
import BotCanvas.Proofs.Program.Emission
import BotCanvas.Proofs.Program.Variables

/-!
# Requests for names

Statements ask for names while they are written: for a constant with a fresh name, or for a variable,
which is declared when it is asked for the first time. A scope answers the requests one after another
(`resolve`), and takes no notice of the blocks around them (`placed_resolve`).

`Asks` says of an emission which names it asks for and what it makes of the answers. Emissions one
after another ask for one list of names after the other (`Asks.bind`).
-/

namespace BotCanvas.Braced

open Text (IsVariable)

/-! ## Scopes that answer -/

/-- A request for a name. -/
inductive Request
  /-- A constant with a fresh name is declared. -/
  | constant (base : String)
  /-- A variable is assigned to. -/
  | var (name : Text)
  deriving DecidableEq

/-- The answer of a scope to a request, and the scope after it. -/
def Request.answer (σ : Scope) : Request → Binding × Scope
  | .constant base => ((σ.fresh base.toList).map .constant id)
  | .var name =>
      (σ.declare name).map (fun first => if first then .var name else .assignment name) id

/-- A fresh name is given out. -/
theorem Request.answer_constant
    (σ : Scope)
    (base : String) :
    (Request.constant base).answer σ =
      (.constant (σ.locals.nextName base.toList),
        { σ with locals := σ.locals.bump base.toList }) :=
  rfl

/-- A variable that was declared before is assigned to. -/
theorem Request.answer_of_mem
    {σ : Scope}
    {name : Text}
    (h : name ∈ σ.declared) :
    (Request.var name).answer σ = (.assignment name, σ) := by
  rw [answer, Scope.declare, if_pos (List.contains_iff_mem.2 h)]
  rfl

/-- Any other variable is declared. -/
theorem Request.answer_of_not_mem
    {σ : Scope}
    {name : Text}
    (h : name ∉ σ.declared) :
    (Request.var name).answer σ =
      (.var name, { σ with declared := name :: σ.declared }) := by
  rw [answer, Scope.declare, if_neg (by simpa using h)]
  rfl

/-- The answers of a scope to requests, and the scope after them. -/
def resolve (σ : Scope) : List (Effect Request) → List (Effect Binding) × Scope
  | [] => ([], σ)
  | .opens :: rest => (resolve σ rest).map (.opens :: ·) id
  | .closes :: rest => (resolve σ rest).map (.closes :: ·) id
  | .item q :: rest => (resolve (q.answer σ).2 rest).map (.item (q.answer σ).1 :: ·) id

/-- Requests are answered one after another. -/
theorem resolve_append
    (σ : Scope)
    (asked asked' : List (Effect Request)) :
    resolve σ (asked ++ asked') =
      (resolve (resolve σ asked).2 asked').map ((resolve σ asked).1 ++ ·) id := by
  induction asked generalizing σ with
  | nil => rfl
  | cons x rest ih =>
      cases x with
      | opens => exact congrArg (Prod.map (Effect.opens :: ·) id) (ih σ)
      | closes => exact congrArg (Prod.map (Effect.closes :: ·) id) (ih σ)
      | item q =>
          exact congrArg (Prod.map (Effect.item (q.answer σ).1 :: ·) id) (ih (q.answer σ).2)

/-- The answers to requests in places, and the scope after them. -/
def resolveAt (σ : Scope) : List (List Nat × Request) → List (List Nat × Binding)
  | [] => []
  | (place, q) :: rest => (place, (q.answer σ).1) :: resolveAt (q.answer σ).2 rest

/-- The answers to requests stand where the requests stand. -/
theorem placed_resolve
    (next : Nat)
    (blocks : List Nat)
    (σ : Scope)
    (asked : List (Effect Request)) :
    placed next blocks (resolve σ asked).1 = resolveAt σ (placed next blocks asked) := by
  induction asked generalizing next blocks σ with
  | nil => rfl
  | cons x rest ih =>
      cases x with
      | opens => exact ih (next + 1) (next :: blocks) σ
      | closes => exact ih next blocks.tail σ
      | item q => exact congrArg ((blocks, (q.answer σ).1) :: ·) (ih next blocks (q.answer σ).2)

/-! ## Emissions that ask -/

section Asking

variable {α β : Type}

/-- An emission that asks for given names; its results suit the answers. -/
def Asks (asked : List (Effect Request)) (P : List (Effect Binding) → α → Prop) (m : Emit α) :
    Prop :=
  ∀ σ a σ', m.run.run σ = (.ok a, σ') → P (resolve σ asked).1 a ∧ σ' = (resolve σ asked).2

variable {asked asked' : List (Effect Request)}
variable {P : List (Effect Binding) → α → Prop}

theorem Asks.pure
    {a : α}
    (h : P [] a) :
    Asks [] P (pure a) := by
  rintro σ _ _ ⟨⟩
  exact ⟨h, rfl⟩

theorem Asks.bind
    {Q : List (Effect Binding) → β → Prop}
    {m : Emit α}
    {f : α → Emit β}
    (hm : Asks asked P m)
    (hf : ∀ answers a, P answers a →
      Asks asked' (fun answers' b => Q (answers ++ answers') b) (f a)) :
    Asks (asked ++ asked') Q (m >>= f) := by
  intro σ b σ' hrun
  rw [Emit.run_bind] at hrun
  rcases hstart : m.run.run σ with ⟨result, σ₁⟩
  rw [hstart] at hrun
  cases result with
  | error e => cases hrun
  | ok a =>
      obtain ⟨ha, rfl⟩ := hm σ a σ₁ hstart
      obtain ⟨hb, hscope⟩ := hf _ a ha _ b σ' hrun
      rw [resolve_append]
      exact ⟨hb, hscope⟩

/-- A block is opened in front of what is asked for. -/
theorem Asks.opens
    {m : Emit α}
    (h : Asks asked (fun answers a => P (.opens :: answers) a) m) :
    Asks (.opens :: asked) P m :=
  fun σ a σ' hrun => h σ a σ' hrun

/-- A block ends in front of what is asked for. -/
theorem Asks.closes
    {m : Emit α}
    (h : Asks asked (fun answers a => P (.closes :: answers) a) m) :
    Asks (.closes :: asked) P m :=
  fun σ a σ' hrun => h σ a σ' hrun

/-- What asks for nothing may end an emission. -/
theorem Asks.last
    {Q : List (Effect Binding) → β → Prop}
    {m : Emit α}
    {f : α → Emit β}
    (hm : Asks asked P m)
    (hf : ∀ answers a, P answers a →
      Asks [] (fun answers' b => Q (answers ++ answers') b) (f a)) :
    Asks asked Q (m >>= f) := by
  rw [← List.append_nil asked]
  exact hm.bind hf

section Start

variable {Q : List (Effect Binding) → β → Prop}

/-- A fresh name is asked for first. -/
theorem Asks.fresh
    {base : String}
    {f : Text → Emit β}
    (hbase : (!base.toList.isEmpty && base.toList.all Text.isPlain) = true)
    (hf : ∀ name, IsVariable name →
      Asks asked (fun answers b => Q (.item (.constant name) :: answers) b) (f name)) :
    Asks (.item (.constant base) :: asked) Q (Emit.fresh base >>= f) := by
  have hfresh : Asks [.item (.constant base)]
      (fun answers name => answers = [.item (.constant name)] ∧ IsVariable name)
      (Emit.fresh base) := by
    rintro σ _ _ ⟨⟩
    exact ⟨⟨rfl, (IsVariable.ofString hbase).nextName σ.locals⟩, rfl⟩
  refine hfresh.bind ?_
  rintro _ name ⟨rfl, hname⟩
  exact hf name hname

/-- A variable is asked for first. -/
theorem Asks.declare
    {name : Text}
    {f : Bool → Emit β}
    (hf : ∀ first, Asks asked
      (fun answers b => Q (.item (if first then .var name else .assignment name) :: answers) b)
      (f first)) :
    Asks (.item (.var name) :: asked) Q (Emit.declare name >>= f) := by
  have hdeclare : Asks [.item (.var name)]
      (fun answers first => answers = [.item (if first then .var name else .assignment name)])
      (Emit.declare name) := by
    rintro σ _ _ ⟨⟩
    exact ⟨rfl, rfl⟩
  refine hdeclare.bind ?_
  rintro _ first rfl
  exact hf first

/-- A number is no name. -/
theorem Asks.number
    {v : Value}
    {fallback : Int}
    {f : Number → Emit β}
    (hf : ∀ n, Asks asked Q (f n)) :
    Asks asked Q (Emit.number v fallback >>= f) := by
  have hnumber : Asks [] (fun answers _ => answers = []) (Emit.number v fallback) := by
    intro σ n σ' hrun
    have hrun' : (v.asNumber (.int fallback), σ) = (.ok n, σ') := hrun
    exact ⟨rfl, (congrArg Prod.snd hrun').symm⟩
  refine hnumber.bind ?_
  rintro _ n rfl
  exact hf n

/-- Nor is a rounded number. -/
theorem Asks.normalise
    {n : Number}
    {f : Number → Emit β}
    (hf : ∀ n, Asks asked Q (f n)) :
    Asks asked Q (Emit.normalise n >>= f) := by
  have hnormalise : Asks [] (fun answers _ => answers = []) (Emit.normalise n) := by
    intro σ r σ' hrun
    have hrun' : (n.normalise, σ) = (.ok r, σ') := hrun
    exact ⟨rfl, (congrArg Prod.snd hrun').symm⟩
  refine hnormalise.bind ?_
  rintro _ r rfl
  exact hf r

end Start

end Asking

/-- An emission of code that does with names just what the answers to its requests are. -/
def Writes (asked : List (Effect Request)) (m : Emit Code) : Prop :=
  Asks asked (fun answers c => codeEffects c = answers) m

end BotCanvas.Braced
