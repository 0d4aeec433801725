import Mathlib.Data.List.Basic

/-!
# Steps that can fail

Steps are taken one after another until one fails. If all succeed, each has succeeded; if they fail,
one of them has failed.
-/

namespace BotCanvas

variable {ε ε' α β : Type}
variable {m : Except ε α}

/-- What stands before a step that succeeds has succeeded. -/
theorem exists_of_bind
    {f : α → Except ε β}
    {b : β}
    (h : m >>= f = .ok b) :
    ∃ a, m = .ok a ∧ f a = .ok b := by
  cases m with
  | error e => cases h
  | ok a => exact ⟨a, rfl, h⟩

/-- One of two steps that fail has failed. -/
theorem error_of_bind
    {f : α → Except ε β}
    {e : ε}
    (h : m >>= f = .error e) :
    m = .error e ∨ ∃ a, m = .ok a ∧ f a = .error e := by
  cases m with
  | error e' =>
      cases h
      exact .inl rfl
  | ok a => exact .inr ⟨a, rfl, h⟩

/-- An error of a list of results is the error of one of them. -/
theorem exists_of_mapM_error
    {f : α → Except ε β}
    {l : List α}
    {e : ε}
    (h : l.mapM f = .error e) :
    ∃ a ∈ l, f a = .error e := by
  induction l with
  | nil => cases h
  | cons a l ih =>
      rw [List.mapM_cons] at h
      obtain h | ⟨b, -, h⟩ := error_of_bind h
      · exact ⟨a, by simp, h⟩
      · obtain h | ⟨bs, -, h⟩ := error_of_bind h
        · obtain ⟨a', ha', he⟩ := ih h
          exact ⟨a', by simp [ha'], he⟩
        · cases h

/-- An error in other words is an error before. -/
theorem exists_of_mapError
    {f : ε → ε'}
    {e : ε'}
    (h : m.mapError f = .error e) :
    ∃ e', m = .error e' ∧ f e' = e := by
  cases m with
  | error e' => exact ⟨e', rfl, Except.error.inj h⟩
  | ok a => cases h

/-- A step succeeds if its result is there. -/
theorem exists_of_isSome
    (h : m.toOption.isSome = true) :
    ∃ a, m = .ok a := by
  cases m with
  | error e => cases h
  | ok a => exact ⟨a, rfl⟩

end BotCanvas
