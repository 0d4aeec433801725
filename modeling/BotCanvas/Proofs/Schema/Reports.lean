import BotCanvas.Config
import BotCanvas.Project.Request
import BotCanvas.Proofs.Console.Markup
import BotCanvas.Proofs.Text.Words
import BotCanvas.Schema.Report

/-!
# Reports without closing tags of their own

A report of an issue quotes the value that was refused. All else in it is fixed by the schema: the
names of fields, the wording of the problem and its code. None of these has a bracket in it
(`IsPlain`), so a closing tag in a report is one of the refused value
(`hasCloser_of_report`).
-/

namespace BotCanvas

open Markup (HasCloser)

namespace Problem

/-- A problem whose wording has no bracket. -/
def IsPlain (problem : Problem) : Prop :=
  '[' ∉ problem.message.toList

instance (problem : Problem) : Decidable problem.IsPlain :=
  inferInstanceAs (Decidable ('[' ∉ problem.message.toList))

/-- Codes have no bracket. -/
theorem not_mem_code
    (problem : Problem) :
    '[' ∉ problem.code.toList := by
  cases problem <;> simp only [code] <;> decide

end Problem

namespace Issue

/-- An issue whose place and wording have no bracket. -/
structure IsPlain (i : Issue) : Prop where
  place : ∀ step ∈ i.place, '[' ∉ step.text
  problem : i.problem.IsPlain

end Issue

namespace Checked

/-- All issues, if there are any, are plain. -/
def HasPlainIssues {α : Type} (x : Checked α) : Prop :=
  ∀ issues, x = .invalid issues → ∀ i ∈ issues, i.IsPlain

namespace HasPlainIssues

variable {α β : Type}
variable {x : Checked α}
variable {problem : Problem}

theorem valid
    (a : α) :
    HasPlainIssues (.valid a) := by
  intro issues h
  cases h

theorem refuse
    (h : problem.IsPlain) :
    HasPlainIssues (α := α) (.refuse problem) := by
  intro issues hissues
  cases hissues
  rw [List.forall_mem_singleton]
  exact ⟨by simp, h⟩

theorem map
    (h : HasPlainIssues x)
    (f : α → β) :
    HasPlainIssues (x.map f) := by
  cases x with
  | valid a => exact valid _
  | invalid found =>
      intro issues hissues
      cases hissues
      exact h found rfl

theorem seq
    {f : Checked (α → β)}
    (hf : HasPlainIssues f)
    (hx : HasPlainIssues x) :
    HasPlainIssues (f.seq x) := by
  cases f with
  | valid g =>
      cases x with
      | valid a => exact valid _
      | invalid found =>
          intro issues hissues
          cases hissues
          exact hx found rfl
  | invalid first =>
      cases x with
      | valid a =>
          intro issues hissues
          cases hissues
          exact hf first rfl
      | invalid more =>
          intro issues hissues
          cases hissues
          rw [List.forall_mem_append]
          exact ⟨hf first rfl, hx more rfl⟩

theorem andThen
    {f : α → Checked β}
    (hx : HasPlainIssues x)
    (hf : ∀ a, HasPlainIssues (f a)) :
    HasPlainIssues (x.andThen f) := by
  cases x with
  | valid a => exact hf a
  | invalid found =>
      intro issues hissues
      cases hissues
      exact hx found rfl

theorem under
    {name : String}
    (hname : '[' ∉ name.toList)
    (h : HasPlainIssues x) :
    HasPlainIssues (x.under (.field name)) := by
  cases x with
  | valid a => exact valid a
  | invalid found =>
      intro issues hissues
      cases hissues
      rw [List.forall_mem_map]
      intro i hi
      obtain ⟨hplace, hproblem⟩ := h found rfl i hi
      exact ⟨List.forall_mem_cons.2 ⟨hname, hplace⟩, hproblem⟩

end HasPlainIssues

end Checked

namespace Schema

open Checked (HasPlainIssues)
open Checked.HasPlainIssues

variable {α : Type}
variable {check : Value → Checked α}
variable {problem : Problem}

theorem plain_text
    (v : Value) :
    HasPlainIssues (text v) := by
  unfold text
  split
  · exact valid _
  · exact refuse (by decide)

theorem plain_textOrNull
    (v : Value) :
    HasPlainIssues (textOrNull v) := by
  unfold textOrNull
  split
  · exact valid none
  · exact (plain_text v).map some

theorem plain_integral
    (x : Binary64) :
    HasPlainIssues (integral x) := by
  unfold integral
  split
  · exact refuse (by decide)
  · split
    · exact refuse (by decide)
    · split
      · exact valid _
      · exact refuse (by decide)

theorem plain_integer
    (v : Value) :
    HasPlainIssues (integer v) := by
  unfold integer
  split
  · exact valid _
  · exact valid _
  · exact plain_integral _
  · cases Numeral.setting? _ with
    | none => exact refuse (by decide)
    | some n => exact valid n
  · exact refuse (by decide)

theorem plain_integerFrom
    {low : Int}
    (h : (Problem.below low).IsPlain)
    (v : Value) :
    HasPlainIssues (integerFrom low v) := by
  refine (plain_integer v).andThen fun n => ?_
  split
  · exact refuse h
  · exact valid n

theorem plain_flagOfInt
    (n : Int) :
    HasPlainIssues (flagOfInt n) := by
  unfold flagOfInt
  split
  · exact valid _
  · split
    · exact valid _
    · split
      · exact refuse (by decide)
      · exact refuse (by decide)

theorem plain_flag
    (v : Value) :
    HasPlainIssues (flag v) := by
  unfold flag
  split
  · exact valid _
  · exact plain_flagOfInt _
  · split
    · exact plain_flagOfInt _
    · exact refuse (by decide)
  · dsimp only
    cases flagWords.lookup _ with
    | none => exact refuse (by decide)
    | some b => exact valid b
  · exact refuse (by decide)

theorem plain_choice
    (h : problem.IsPlain)
    (table : List (String × α))
    (v : Value) :
    HasPlainIssues (choice problem table v) := by
  unfold choice
  split
  · cases table.lookup _ with
    | none => exact refuse h
    | some a => exact valid a
  · exact refuse h

theorem plain_object
    {check : Fields → Checked α}
    (h : problem.IsPlain)
    (hcheck : ∀ fields, HasPlainIssues (check fields))
    (v : Value) :
    HasPlainIssues (object problem check v) := by
  cases v with
  | obj fields => exact hcheck fields
  | _ => exact refuse h

theorem plain_optional
    {name : String}
    (hname : '[' ∉ name.toList)
    (hcheck : ∀ v, HasPlainIssues (check v))
    (fields : Fields)
    (default : α) :
    HasPlainIssues (optional fields name default check) := by
  unfold optional
  split
  · exact (hcheck _).under hname
  · exact valid default

theorem plain_optionalEither
    {first second : String}
    (hfirst : '[' ∉ first.toList)
    (hsecond : '[' ∉ second.toList)
    (hcheck : ∀ v, HasPlainIssues (check v))
    (fields : Fields)
    (default : α) :
    HasPlainIssues (optionalEither fields first second default check) := by
  unfold optionalEither
  split
  · exact (hcheck _).under hfirst
  · exact plain_optional hsecond hcheck fields default

end Schema

section Models

open Schema
open Checked (HasPlainIssues)
open Checked.HasPlainIssues

/-- The issues with fields of settings are plain. -/
theorem Config.plain_readFields
    (fields : Fields) :
    HasPlainIssues (readFields fields) := by
  refine seq (seq (seq (map ?_ _) ?_) ?_) ?_
  · exact plain_optional (by decide) (plain_choice (by decide) _) _ _
  · exact plain_optional (by decide) (plain_integerFrom (by decide)) _ _
  · exact plain_optional (by decide) (plain_choice (by decide) _) _ _
  · exact plain_optional (by decide) plain_flag _ _

/-- The issues with a file of settings are plain. -/
theorem Config.plain_load
    (raw : Text) :
    HasPlainIssues (load raw) := by
  unfold load
  split
  · exact refuse (by decide)
  · exact plain_object (by decide) plain_readFields _

/-- The issues with credentials are plain. -/
theorem Credentials.plain_read
    (v : Value) :
    HasPlainIssues (read v) := by
  refine plain_object (by decide) (fun fields => ?_) v
  refine seq (seq (map ?_ _) ?_) ?_
  · exact plain_optionalEither (by decide) (by decide) plain_text _ _
  · exact plain_optionalEither (by decide) (by decide) plain_text _ _
  · exact plain_optional (by decide) plain_textOrNull _ _

/-- The issues with a request are plain. -/
theorem ExportRequest.plain_read
    (v : Value) :
    HasPlainIssues (read v) := by
  refine plain_object (by decide) (fun fields => ?_) v
  refine seq (seq (map ?_ _) ?_) ?_
  · exact plain_optional (by decide) (fun v => valid _) _ _
  · exact plain_optional (by decide) plain_text _ _
  · refine plain_optional (by decide) (fun v => ?_) _ _
    unfold readCredentials
    split
    · exact valid _
    · exact Credentials.plain_read _

end Models

/-! ## Reports -/

namespace Value

/-- The longest start of a text is a start of it. -/
theorem isPrefix_startWithin
    (bytes : Nat)
    (s : Text) :
    startWithin bytes s <+: s := by
  induction s generalizing bytes with
  | nil => exact List.prefix_refl _
  | cons c r ih =>
      rw [startWithin]
      split
      · exact (List.cons_prefix_cons).2 ⟨rfl, ih _⟩
      · exact List.nil_prefix

/-- A closing tag in an excerpt is one of the value. -/
theorem hasCloser_of_excerpt
    {v : Value}
    (h : HasCloser v.excerpt) :
    HasCloser v.shown := by
  unfold excerpt at h
  split at h
  · exact h
  · rw [List.append_assoc] at h
    rcases h.of_append with h | h | ⟨-, hhead⟩
    · exact h.trans (isPrefix_startWithin _ _).isInfix
    · have hend := h.of_append_right (fun hdots => absurd hdots.bracket_mem (by decide)) (by decide)
      refine hend.trans (List.IsSuffix.isInfix ?_)
      have hreverse := List.reverse_suffix.2
        (isPrefix_startWithin (excerptLimit / 2 - 1) v.shown.reverse)
      rwa [List.reverse_reverse] at hreverse
    · exact absurd hhead (by simp)

end Value

namespace Issue

variable {i : Issue}
variable {source : Value}

/-- The line with the place of a plain issue has no bracket. -/
theorem not_mem_placeLine
    (h : i.IsPlain) :
    '[' ∉ i.placeLine := by
  unfold placeLine
  split
  · exact List.not_mem_nil
  · intro hmem
    rcases List.mem_append.1 hmem with hmem | hmem
    · rcases Text.mem_join hmem with hdot | ⟨name, hname, hmem⟩
      · exact absurd hdot (by decide)
      · obtain ⟨step, hstep, rfl⟩ := List.mem_map.1 hname
        exact h.place step hstep hmem
    · exact absurd hmem (by decide)

/-- A closing tag in the report of a plain issue is one of the value that it is about. -/
theorem hasCloser_of_report
    (h : i.IsPlain)
    (hcloser : HasCloser (i.report source)) :
    HasCloser (i.subject source).shown := by
  have hreport : i.report source =
      (i.placeLine ++ ("  ".toList ++ i.problem.message.toList)) ++ (" [type=".toList ++
        ((i.problem.code.toList ++ ", input_value=".toList) ++ ((i.subject source).excerpt ++
          (", input_type=".toList ++ ((i.subject source).kind.toList ++ [']']))))) := by
    simp only [report, List.append_assoc]
  rw [hreport] at hcloser
  have hfront : '[' ∉ i.placeLine ++ ("  ".toList ++ i.problem.message.toList) := by
    simp only [List.mem_append, not_or]
    exact ⟨not_mem_placeLine h, by decide, h.problem⟩
  have hcode : '[' ∉ i.problem.code.toList ++ ", input_value=".toList := by
    simp only [List.mem_append, not_or]
    exact ⟨i.problem.not_mem_code, by decide⟩
  have hkind : ¬HasCloser (", input_type=".toList ++ ((i.subject source).kind.toList ++ [']'])) := by
    intro hmem
    have hbracket := hmem.bracket_mem
    revert hbracket
    cases i.subject source <;> simp [Value.kind]
  have hbehind := hcloser.of_append_right (fun h => hfront h.bracket_mem)
    fun h => hfront (List.mem_of_getLast? h)
  have htype := hbehind.of_append_right (fun h => absurd h.slash_mem (by decide)) (by decide)
  have hvalue := htype.of_append_right (fun h => hcode h.bracket_mem)
    fun h => hcode (List.mem_of_getLast? h)
  exact Value.hasCloser_of_excerpt (hvalue.of_append_left hkind (by simp))

end Issue

end BotCanvas
