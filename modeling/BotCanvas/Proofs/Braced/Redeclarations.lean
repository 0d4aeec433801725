import BotCanvas.Proofs.Braced.Runs
import BotCanvas.Proofs.Braced.Scopes
import BotCanvas.Proofs.Program.Tally
import Mathlib.Data.List.Pairwise

/-!
# Declarations of one name

Constants are named by a tally, and variables by the user. Neither a constant nor a variable is
declared twice in the text of a flow, but a variable can have the name of a constant. The text
declares a name twice in one block just if a variable has the name of a constant in its block
(`nodup_declarations_emitFlow`). That does not happen if no variable is named like a base of constants
with or without a number behind it.
-/

namespace BotCanvas.Braced

/-! ## Declared names -/

/-- The name of a declared constant. -/
def Binding.constant? : Binding → Option Text
  | .constant name => some name
  | _ => none

/-- The name of a declared variable. -/
def Binding.var? : Binding → Option Text
  | .var name => some name
  | _ => none

/-- The name that is declared. -/
def Binding.declared? : Binding → Option Text
  | .constant name => some name
  | .var name => some name
  | .assignment _ => none

/-- A declared name is that of a constant or of a variable. -/
theorem Binding.declared?_eq_some
    {b : Binding}
    {name : Text}
    (h : b.declared? = some name) :
    b = .constant name ∨ b = .var name := by
  cases b with
  | constant n => exact .inl (congrArg _ (Option.some.inj h))
  | var n => exact .inr (congrArg _ (Option.some.inj h))
  | assignment n => cases h

/-- The base of a constant that is asked for. -/
def Request.base? : Request → Option Text
  | .constant base => some base.toList
  | .var _ => none

/-- The declared constants. -/
def constantNames (found : List (List Nat × Binding)) : List Text :=
  found.filterMap (·.2.constant?)

/-- The declared variables. -/
def variableNames (found : List (List Nat × Binding)) : List Text :=
  found.filterMap (·.2.var?)

/-- The declared names, each with the blocks around it. -/
def declarations (found : List (List Nat × Binding)) : List (List Nat × Text) :=
  found.filterMap fun o => o.2.declared?.map (o.1, ·)

/-- The bases of the constants that a flow asks for. -/
def bases (asked : List (List Nat × Request)) : List Text :=
  asked.filterMap (·.2.base?)

variable {σ : Scope}
variable {asked : List (List Nat × Request)}
variable {found : List (List Nat × Binding)}

/-- Constants have the names that the tally of the scope gives out. -/
theorem constantNames_resolveAt
    (σ : Scope)
    (asked : List (List Nat × Request)) :
    constantNames (resolveAt σ asked) = σ.locals.names (bases asked) := by
  induction asked generalizing σ with
  | nil => rfl
  | cons r rest ih =>
      obtain ⟨place, q⟩ := r
      cases q with
      | constant base => exact congrArg (σ.locals.nextName base.toList :: ·) (ih _)
      | var y =>
          by_cases hy : y ∈ σ.declared
          · rw [resolveAt, Request.answer_of_mem hy]
            exact ih σ
          · rw [resolveAt, Request.answer_of_not_mem hy]
            exact ih { σ with declared := y :: σ.declared }

/-- A declared variable has a place. -/
theorem mem_variableNames
    {x : Text} :
    x ∈ variableNames found ↔ ∃ place, (place, .var x) ∈ found := by
  rw [variableNames, List.mem_filterMap]
  constructor
  · rintro ⟨⟨place, b⟩, hmem, hb⟩
    cases b with
    | constant name => cases hb
    | var name =>
        cases hb
        exact ⟨place, hmem⟩
    | assignment name => cases hb
  · rintro ⟨place, hmem⟩
    exact ⟨_, hmem, rfl⟩

/-- A declared constant has a place. -/
theorem mem_constantNames
    {place : List Nat}
    {name : Text}
    (h : (place, .constant name) ∈ found) :
    name ∈ constantNames found :=
  List.mem_filterMap.2 ⟨_, h, rfl⟩

/-- No variable is declared twice. -/
theorem nodup_variableNames_resolveAt
    (σ : Scope)
    (asked : List (List Nat × Request)) :
    (variableNames (resolveAt σ asked)).Nodup := by
  induction asked generalizing σ with
  | nil => exact List.nodup_nil
  | cons r rest ih =>
      obtain ⟨place, q⟩ := r
      cases q with
      | constant base => exact ih _
      | var y =>
          by_cases hy : y ∈ σ.declared
          · rw [resolveAt, Request.answer_of_mem hy]
            exact ih σ
          · rw [resolveAt, Request.answer_of_not_mem hy]
            refine List.nodup_cons.2 ⟨fun hmem => ?_, ih _⟩
            obtain ⟨p, hp⟩ := mem_variableNames.1 hmem
            exact (mem_resolveAt_variable.1 hp).1 List.mem_cons_self

/-- If no constant and no variable is declared twice, a name is declared twice in one block just if it
is that of a constant and of a variable there. -/
theorem nodup_declarations_iff
    (hconstants : (constantNames found).Nodup)
    (hvariables : (variableNames found).Nodup) :
    (declarations found).Nodup ↔
      ∀ place name, (place, .constant name) ∈ found → (place, .var name) ∉ found := by
  unfold constantNames variableNames at *
  rw [List.Nodup, List.pairwise_filterMap] at hconstants hvariables
  rw [declarations, List.Nodup, List.pairwise_filterMap]
  constructor
  · intro h place name hconstant hvariable
    have hsymm : Std.Symm fun o o' : List Nat × Binding =>
        ∀ d, o.2.declared?.map (o.1, ·) = some d → ∀ d', o'.2.declared?.map (o'.1, ·) = some d' →
          d ≠ d' := ⟨fun o o' hoo d hd d' hd' => (hoo d' hd' d hd).symm⟩
    have hapart := h.forall hconstant hvariable (by simp)
    exact hapart _ rfl _ rfl rfl
  · intro h
    refine (hconstants.and hvariables).imp_of_mem ?_
    rintro ⟨place, b⟩ ⟨place', b'⟩ hmem hmem' ⟨hconstant, hvariable⟩ d hd d' hd' rfl
    obtain ⟨name, hname, rfl⟩ := Option.map_eq_some_iff.1 hd
    obtain ⟨name', hname', heq⟩ := Option.map_eq_some_iff.1 hd'
    obtain ⟨rfl, rfl⟩ := Prod.mk.inj heq
    rcases Binding.declared?_eq_some hname with rfl | rfl
    · rcases Binding.declared?_eq_some hname' with rfl | rfl
      · exact hconstant _ rfl _ rfl rfl
      · exact h _ _ hmem hmem'
    · rcases Binding.declared?_eq_some hname' with rfl | rfl
      · exact h _ _ hmem' hmem
      · exact hvariable _ rfl _ rfl rfl

/-! ## Flows -/

/-- Statements ask for constants with these bases only. -/
theorem base_mem_constantBases
    {s : Subject}
    {base : String}
    (h : .constant base ∈ actionRequests s) :
    base ∈ constantBases := by
  have htable : ∀ entry ∈ requestTable, ∀ s base, .constant base ∈ entry.2 s →
      base ∈ constantBases := by
    simp [requestTable, requestIf, operationRequests, constantBases]
    tauto
  unfold actionRequests at h
  split at h
  · rename_i asked hasked
    exact htable _ (mem_of_lookup hasked) s base h
  · cases h

/-- The bases of a flow are among them. -/
theorem mem_bases_requests
    {catalog : Catalog}
    {steps : List Step}
    {base : Text}
    (h : base ∈ bases (placed 0 [] (requests catalog steps))) :
    base ∈ constantBases.map String.toList := by
  obtain ⟨⟨place, q⟩, hmem, hq⟩ := List.mem_filterMap.1 h
  cases q with
  | constant name =>
      cases hq
      obtain ⟨b, -, hb⟩ := exists_block_of_mem_requests steps (item_mem_of_mem_placed hmem)
      exact List.mem_map.2 ⟨name, base_mem_constantBases hb, rfl⟩
  | var name => cases hq

/-- No base ends in a digit. -/
theorem not_endsInDigit_of_mem_bases
    {base : Text}
    (h : base ∈ constantBases.map String.toList) :
    ¬Tally.EndsInDigit base := by
  have hall : ∀ base ∈ constantBases.map String.toList, ¬Tally.EndsInDigit base := by decide
  exact hall base h

/-- A name like those of constants: one of their bases, with or without a number behind it. -/
def LooksConstant (name : Text) : Prop :=
  Tally.stem name ∈ constantBases.map String.toList

instance : DecidablePred LooksConstant :=
  fun name => inferInstanceAs (Decidable (Tally.stem name ∈ constantBases.map String.toList))

/-- The constants of a flow have such names. -/
theorem looksConstant_of_mem_names
    {catalog : Catalog}
    {steps : List Step}
    {name : Text}
    (h : name ∈ Tally.names [] (bases (placed 0 [] (requests catalog steps)))) :
    LooksConstant name := by
  obtain ⟨base, hbase, hstem⟩ := Tally.exists_stem_of_mem_names h
  have hmem := mem_bases_requests hbase
  rw [LooksConstant, hstem, Tally.stem_eq_self (not_endsInDigit_of_mem_bases hmem)]
  exact hmem

/-- The constants of a flow have the names that one tally gives out. They are pairwise different, and
so are the variables. A name is declared twice in one block just if a constant and a variable of that
name are declared there. So it is not if no variable has a name like those of constants. -/
theorem nodup_declarations_emitFlow
    {catalog : Catalog}
    {steps : List Step}
    (hsteps : ∀ b ∈ Flow.blocks steps, HasOneLinedCondition catalog b)
    {code : Code}
    {σ : Scope}
    (h : (dialect.emitFlow catalog steps).run.run .empty = (.ok code, σ)) :
    let found := occurrences (dialect.write code)
    constantNames found = Tally.names [] (bases (placed 0 [] (requests catalog steps))) ∧
      (constantNames found).Nodup ∧ (variableNames found).Nodup ∧
      ((declarations found).Nodup ↔
        ∀ place name, (place, .constant name) ∈ found → (place, .var name) ∉ found) ∧
      ((∀ b ∈ Flow.blocks steps, ∀ name, .var name ∈ actionRequests ⟨catalog, b⟩ →
          ¬LooksConstant name) →
        (declarations found).Nodup) := by
  intro found
  have hfound : found = resolveAt .empty (placed 0 [] (requests catalog steps)) :=
    occurrences_emitFlow hsteps h
  have hnames : constantNames found =
      Tally.names [] (bases (placed 0 [] (requests catalog steps))) := by
    rw [hfound, constantNames_resolveAt]
    rfl
  have hconstants : (constantNames found).Nodup := by
    rw [hnames]
    exact Tally.nodup_names fun base hbase =>
      not_endsInDigit_of_mem_bases (mem_bases_requests hbase)
  have hvariables : (variableNames found).Nodup := by
    rw [hfound]
    exact nodup_variableNames_resolveAt .empty _
  have hiff := nodup_declarations_iff hconstants hvariables
  refine ⟨hnames, hconstants, hvariables, hiff, fun hblocks => hiff.2 ?_⟩
  intro place name hconstant hvariable
  have hlooks := mem_constantNames hconstant
  rw [hnames] at hlooks
  rw [hfound] at hvariable
  have hasked := item_mem_of_mem_placed (mem_of_home? (mem_resolveAt_variable.1 hvariable).2)
  obtain ⟨b, hb, hmem⟩ := exists_block_of_mem_requests steps hasked
  exact hblocks b hb name hmem (looksConstant_of_mem_names hlooks)

/-- A step that answers with an embed. -/
def embedStep : Step :=
  .plain ⟨"3", "send_embed", .finite false 0, .finite false 0, [], "", ""⟩

/-- Two embeds and a variable of another name are declared once each. -/
theorem nodup_declarations_embedStep :
    ∃ code σ,
      (dialect.emitFlow .builtin [settingStep "embed_2" "0", embedStep, embedStep]).run.run .empty =
        (.ok code, σ) ∧
      (declarations (occurrences (dialect.write code))).Nodup := by
  have hsteps : ∀ b ∈ Flow.blocks [settingStep "embed_2" "0", embedStep, embedStep],
      HasOneLinedCondition .builtin b := hasOneLinedCondition_of_all (by decide)
  obtain ⟨-, -, -, -, hnodup⟩ := nodup_declarations_emitFlow hsteps (show (dialect.emitFlow .builtin
    [settingStep "embed_2" "0", embedStep, embedStep]).run.run .empty = (.ok _, _) from rfl)
  refine ⟨_, _, rfl, hnodup ?_⟩
  have hnames : ((Flow.blocks [settingStep "embed_2" "0", embedStep, embedStep]).all fun b =>
      (actionRequests ⟨.builtin, b⟩).all fun q => match q with
        | .var name => !decide (LooksConstant name)
        | .constant _ => true) = true := by
    decide
  intro b hb name hname
  simpa using List.all_eq_true.1 (List.all_eq_true.1 hnames b hb) _ hname

/-- A variable that is called like the constant of an embed is declared beside it. -/
theorem not_forall_nodup_declarations :
    ¬∀ steps code σ, (dialect.emitFlow .builtin steps).run.run .empty = (.ok code, σ) →
      (declarations (occurrences (dialect.write code))).Nodup := by
  intro h
  have hnodup := h [settingStep "embed" "0", embedStep] _ _ rfl
  exact absurd hnodup (by decide)

end BotCanvas.Braced
