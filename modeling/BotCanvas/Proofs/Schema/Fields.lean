import BotCanvas.Schema.Field

/-!
# Objects that pass their check

A check of an object is passed if and only if the check of each of its fields is, and then gives
what these give. A field that is set to something which passes is read as that, and the other fields
are read as before.
-/

namespace BotCanvas

namespace Checked

variable {α β γ δ : Type}

/-- Where a value was placed does not decide whether it passes. -/
theorem under_eq_valid_iff
    {step : Place}
    {x : Checked α}
    {a : α} :
    x.under step = .valid a ↔ x = .valid a := by
  cases x with
  | valid b => rfl
  | invalid issues => exact iff_of_false nofun nofun

theorem map_eq_valid_iff
    {f : α → β}
    {x : Checked α}
    {b : β} :
    f <$> x = .valid b ↔ ∃ a, x = .valid a ∧ f a = b := by
  cases x with
  | valid a =>
      constructor
      · rintro ⟨⟩
        exact ⟨a, rfl, rfl⟩
      · rintro ⟨_, ⟨⟩, rfl⟩
        rfl
  | invalid issues => exact iff_of_false nofun nofun

/-- Two checks in a row are passed if both are. -/
theorem seq_eq_valid_iff
    {f : Checked (α → β)}
    {x : Checked α}
    {b : β} :
    f <*> x = .valid b ↔ ∃ g a, f = .valid g ∧ x = .valid a ∧ g a = b := by
  cases f with
  | valid g =>
      cases x with
      | valid a =>
          constructor
          · rintro ⟨⟩
            exact ⟨g, a, rfl, rfl, rfl⟩
          · rintro ⟨_, _, ⟨⟩, ⟨⟩, rfl⟩
            rfl
      | invalid issues => exact iff_of_false nofun nofun
  | invalid issues =>
      cases x with
      | valid a => exact iff_of_false nofun nofun
      | invalid more => exact iff_of_false nofun nofun

/-- Three fields. -/
theorem three_eq_valid_iff
    {f : α → β → γ → δ}
    {x : Checked α}
    {y : Checked β}
    {z : Checked γ}
    {d : δ} :
    f <$> x <*> y <*> z = .valid d ↔
      ∃ a b c, x = .valid a ∧ y = .valid b ∧ z = .valid c ∧ f a b c = d := by
  simp only [seq_eq_valid_iff, map_eq_valid_iff]
  constructor
  · rintro ⟨_, c, ⟨_, b, ⟨a, hx, rfl⟩, hy, rfl⟩, hz, rfl⟩
    exact ⟨a, b, c, hx, hy, hz, rfl⟩
  · rintro ⟨a, b, c, hx, hy, hz, rfl⟩
    exact ⟨_, c, ⟨_, b, ⟨a, hx, rfl⟩, hy, rfl⟩, hz, rfl⟩

end Checked

namespace Schema

variable {α : Type}
variable {fields : Fields}
variable {key name first second : String}
variable {default a : α}
variable {check : Value → Checked α}
variable {v : Value}

/-- A field that was set is read as what it was set to. -/
theorem optional_setField_self
    (h : check v = .valid a) :
    optional (setField name v fields) name default check = .valid a := by
  rw [optional, getField?_setField_self]
  exact Checked.under_eq_valid_iff.2 h

theorem optional_setField_of_ne
    (h : key ≠ name) :
    optional (setField key v fields) name default check = optional fields name default check := by
  rw [optional, getField?_setField_of_ne h, optional]

/-- A field that was set under its first name is read as what it was set to, whatever stands under
its second name. -/
theorem optionalEither_setField_self
    (h : check v = .valid a) :
    optionalEither (setField first v fields) first second default check = .valid a := by
  rw [optionalEither, getField?_setField_self]
  exact Checked.under_eq_valid_iff.2 h

theorem optionalEither_setField_of_ne
    (hfirst : key ≠ first)
    (hsecond : key ≠ second) :
    optionalEither (setField key v fields) first second default check =
      optionalEither fields first second default check := by
  rw [optionalEither, getField?_setField_of_ne hfirst, optional_setField_of_ne hsecond,
    optionalEither]

end Schema

end BotCanvas
