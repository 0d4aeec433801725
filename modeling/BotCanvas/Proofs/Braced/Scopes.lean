import BotCanvas.Catalog.Builtin
import BotCanvas.Proofs.Braced.FlowRequests

/-!
# Variables in scope

An assignment is in scope if a declaration of its variable stands in front of it, in a block around
it (`InScope`). A variable is declared where a flow asks for it first, which is its home (`home?`),
and a scope does not notice when that block ends.

Every assignment of a flow has a declaration of its variable in front of it, in some block. All of
them are in scope just if the home of every variable is around all requests for it
(`inScope_emitFlow`).
-/

namespace BotCanvas.Braced

/-! ## Answers in order -/

/-- The scope after requests in places. -/
def scopeAfter (σ : Scope) (asked : List (List Nat × Request)) : Scope :=
  asked.foldl (fun σ r => (r.2.answer σ).2) σ

/-- The place in which a variable is asked for first. -/
def home? (x : Text) (asked : List (List Nat × Request)) : Option (List Nat) :=
  (asked.find? fun r => r.2 == .var x).map Prod.fst

variable {σ : Scope}
variable {x : Text}
variable {place : List Nat}
variable {asked : List (List Nat × Request)}

/-- Requests in places are answered one after another. -/
theorem resolveAt_append
    (σ : Scope)
    (asked asked' : List (List Nat × Request)) :
    resolveAt σ (asked ++ asked') =
      resolveAt σ asked ++ resolveAt (scopeAfter σ asked) asked' := by
  induction asked generalizing σ with
  | nil => rfl
  | cons r rest ih => exact congrArg ((r.1, (r.2.answer σ).1) :: ·) (ih (r.2.answer σ).2)

/-- An answer has a request in the same place; the answers in front of it are those to the requests
in front of that one. -/
theorem exists_request
    {before after : List (List Nat × Binding)}
    {b : Binding}
    (h : resolveAt σ asked = before ++ (place, b) :: after) :
    ∃ front q rest, asked = front ++ (place, q) :: rest ∧ before = resolveAt σ front ∧
      b = (q.answer (scopeAfter σ front)).1 := by
  induction before generalizing σ asked with
  | nil =>
      cases asked with
      | nil => cases h
      | cons r rest =>
          obtain ⟨hhead, -⟩ := List.cons.inj h
          obtain ⟨rfl, rfl⟩ := Prod.mk.inj hhead
          exact ⟨[], r.2, rest, rfl, rfl, rfl⟩
  | cons o before ih =>
      cases asked with
      | nil => cases h
      | cons r rest =>
          obtain ⟨rfl, htail⟩ := List.cons.inj h
          obtain ⟨front, q, rest', rfl, rfl, rfl⟩ := ih htail
          exact ⟨r :: front, q, rest', rfl, rfl, rfl⟩

/-- A request for a variable declares it, and no other request does. -/
theorem mem_declared_answer
    {q : Request} :
    x ∈ (q.answer σ).2.declared ↔ q = .var x ∨ x ∈ σ.declared := by
  cases q with
  | constant base =>
      rw [Request.answer_constant]
      simp
  | var y =>
      by_cases hy : y ∈ σ.declared
      · rw [Request.answer_of_mem hy, Request.var.injEq, iff_or_self]
        rintro rfl
        exact hy
      · rw [Request.answer_of_not_mem hy, List.mem_cons, Request.var.injEq, eq_comm]

/-- A scope has declared the variables that it was asked for. -/
theorem mem_declared_scopeAfter :
    x ∈ (scopeAfter σ asked).declared ↔
      x ∈ σ.declared ∨ ∃ place, (place, .var x) ∈ asked := by
  induction asked generalizing σ with
  | nil => simp [scopeAfter]
  | cons r rest ih =>
      obtain ⟨p, q⟩ := r
      have hrest := ih (σ := (q.answer σ).2)
      rw [mem_declared_answer] at hrest
      rw [scopeAfter, List.foldl_cons]
      refine hrest.trans ?_
      simp only [List.mem_cons, Prod.mk.injEq, exists_or, exists_eq_left]
      tauto

/-- A variable is assigned to if it was declared before, and declared otherwise. -/
theorem answer_eq_assignment_iff
    {q : Request} :
    (q.answer σ).1 = .assignment x ↔ q = .var x ∧ x ∈ σ.declared := by
  cases q with
  | constant base => simp [Request.answer_constant]
  | var y =>
      by_cases hy : y ∈ σ.declared
      · rw [Request.answer_of_mem hy, Binding.assignment.injEq, Request.var.injEq]
        constructor
        · rintro rfl
          exact ⟨rfl, hy⟩
        · exact And.left
      · rw [Request.answer_of_not_mem hy, Request.var.injEq]
        constructor
        · intro h
          cases h
        · rintro ⟨rfl, hx⟩
          exact absurd hx hy

theorem answer_eq_variable_iff
    {q : Request} :
    (q.answer σ).1 = .var x ↔ q = .var x ∧ x ∉ σ.declared := by
  cases q with
  | constant base => simp [Request.answer_constant]
  | var y =>
      by_cases hy : y ∈ σ.declared
      · rw [Request.answer_of_mem hy, Request.var.injEq]
        constructor
        · intro h
          cases h
        · rintro ⟨rfl, hx⟩
          exact absurd hy hx
      · rw [Request.answer_of_not_mem hy, Binding.var.injEq, Request.var.injEq]
        constructor
        · rintro rfl
          exact ⟨rfl, hy⟩
        · exact And.left

/-- A request is the first for a variable, or leaves its home to the ones behind it. -/
theorem home?_cons
    (p : List Nat)
    (q : Request) :
    home? x ((p, q) :: asked) = if q = .var x then some p else home? x asked := by
  by_cases hq : q = .var x
  · have hfind : ((p, q) :: asked).find? (fun r => r.2 == .var x) = some (p, q) :=
      List.find?_cons_of_pos (by simpa using hq)
    rw [home?, hfind, if_pos hq]
    rfl
  · have hfind : ((p, q) :: asked).find? (fun r => r.2 == .var x) =
        asked.find? fun r => r.2 == .var x := List.find?_cons_of_neg (by simpa using hq)
    rw [home?, hfind, if_neg hq]
    rfl

/-- A variable is declared in its home, unless it was declared before. -/
theorem mem_resolveAt_variable :
    (place, .var x) ∈ resolveAt σ asked ↔ x ∉ σ.declared ∧ home? x asked = some place := by
  induction asked generalizing σ with
  | nil => simp [resolveAt, home?]
  | cons r rest ih =>
      obtain ⟨p, q⟩ := r
      rw [resolveAt, List.mem_cons, ih, mem_declared_answer, home?_cons, Prod.mk.injEq,
        eq_comm (a := Binding.var x), answer_eq_variable_iff]
      by_cases hq : q = .var x
      · simp only [hq, true_and, true_or, not_true_eq_false, false_and, or_false, if_true,
          Option.some.injEq, eq_comm (a := place)]
        exact and_comm
      · simp [hq]

/-- A variable that is asked for has a home. -/
theorem exists_home?
    (h : (place, .var x) ∈ asked) :
    ∃ home, home? x asked = some home := by
  refine Option.isSome_iff_exists.1 ?_
  rw [home?, Option.isSome_map, List.find?_isSome]
  exact ⟨_, h, by simp⟩

/-- The home of a variable is a place where it is asked for. -/
theorem mem_of_home?
    (h : home? x asked = some place) :
    (place, .var x) ∈ asked := by
  obtain ⟨⟨p, q⟩, hfind, rfl⟩ := Option.map_eq_some_iff.1 h
  obtain rfl : q = .var x := by simpa using List.find?_some hfind
  exact List.mem_of_find?_eq_some hfind

/-- The home of a variable does not change when more is asked for. -/
theorem home?_append
    {home : List Nat}
    (h : home? x asked = some home)
    (asked' : List (List Nat × Request)) :
    home? x (asked ++ asked') = some home := by
  obtain ⟨r, hr, rfl⟩ := Option.map_eq_some_iff.1 h
  rw [home?, List.find?_append, hr]
  rfl

/-- A variable that was not asked for has its home where it is asked for next. -/
theorem home?_append_cons
    (h : ∀ p, (p, .var x) ∉ asked)
    (place : List Nat)
    (rest : List (List Nat × Request)) :
    home? x (asked ++ (place, .var x) :: rest) = some place := by
  have hfront : asked.find? (fun r => r.2 == .var x) = none := by
    refine List.find?_eq_none.2 fun r hr hx => h r.1 ?_
    rw [← beq_iff_eq.1 hx]
    exact hr
  rw [home?, List.find?_append, hfront, Option.none_or, List.find?_cons_of_pos (by simp)]
  rfl

/-! ## Assignments in scope -/

/-- An assignment among the answers has a home in front of it, where its variable is declared. -/
theorem exists_home_of_assignment
    {before after : List (List Nat × Binding)}
    (h : resolveAt .empty asked = before ++ (place, .assignment x) :: after) :
    ∃ home, home? x asked = some home ∧ (home, .var x) ∈ before ∧ (place, .var x) ∈ asked := by
  obtain ⟨front, q, rest, rfl, rfl, hanswer⟩ := exists_request h
  obtain ⟨rfl, hdeclared⟩ := answer_eq_assignment_iff.1 hanswer.symm
  obtain ⟨earlier, hearlier⟩ := (mem_declared_scopeAfter.1 hdeclared).resolve_left List.not_mem_nil
  obtain ⟨home, hhome⟩ := exists_home? hearlier
  exact ⟨home, home?_append hhome _, mem_resolveAt_variable.2 ⟨List.not_mem_nil, hhome⟩, by simp⟩

/-- Occurrences in which every assignment without a declarator stands behind a declaration of its
variable, in the block of the declaration or inside it. -/
def InScope (found : List (List Nat × Binding)) : Prop :=
  ∀ before place x after, found = before ++ (place, .assignment x) :: after →
    ∃ outer, (outer, .var x) ∈ before ∧ outer <:+ place

/-- Answers are in scope just if the home of each variable is around all places where it is asked
for. -/
theorem inScope_resolveAt_iff :
    InScope (resolveAt .empty asked) ↔
      ∀ x place, (place, .var x) ∈ asked → ∀ home ∈ home? x asked, home <:+ place := by
  constructor
  · intro hscope x place hmem home hhome
    obtain ⟨front, rest, rfl⟩ := List.append_of_mem hmem
    by_cases hfront : ∃ p, (p, .var x) ∈ front
    · have hdeclared : x ∈ (scopeAfter .empty front).declared :=
        mem_declared_scopeAfter.2 (.inr hfront)
      have hsplit : resolveAt .empty (front ++ (place, .var x) :: rest) =
          resolveAt .empty front ++
            (place, .assignment x) :: resolveAt (scopeAfter .empty front) rest := by
        rw [resolveAt_append, resolveAt, Request.answer_of_mem hdeclared]
      obtain ⟨outer, houter, hsuffix⟩ := hscope _ place x _ hsplit
      have hfirst := home?_append (mem_resolveAt_variable.1 houter).2 ((place, .var x) :: rest)
      rw [Option.mem_def.1 hhome] at hfirst
      rwa [Option.some.inj hfirst]
    · have hfirst := home?_append_cons (fun p hp => hfront ⟨p, hp⟩) place rest
      rw [Option.mem_def.1 hhome] at hfirst
      rw [Option.some.inj hfirst]
  · intro hhomes before place x after heq
    obtain ⟨home, hhome, hbefore, hmem⟩ := exists_home_of_assignment heq
    exact ⟨home, hbefore, hhomes x place hmem home hhome⟩

/-- The statements of a flow declare each variable in front of its assignments. The assignments are in
scope just if the home of each variable is around all places where it is asked for. -/
theorem inScope_emitFlow
    {catalog : Catalog}
    {steps : List Step}
    (hsteps : ∀ b ∈ Flow.blocks steps, HasOneLinedCondition catalog b)
    {code : Code}
    {σ : Scope}
    (h : (dialect.emitFlow catalog steps).run.run .empty = (.ok code, σ)) :
    let found := occurrences (dialect.write code)
    let asked := placed 0 [] (requests catalog steps)
    (∀ before place x after, found = before ++ (place, .assignment x) :: after →
        ∃ outer, (outer, .var x) ∈ before) ∧
      (InScope found ↔
        ∀ x place, (place, .var x) ∈ asked → ∀ home ∈ home? x asked, home <:+ place) := by
  intro found asked
  have hfound : found = resolveAt .empty asked := occurrences_emitFlow hsteps h
  rw [hfound]
  refine ⟨fun before place x after heq => ?_, inScope_resolveAt_iff⟩
  obtain ⟨home, -, hbefore, -⟩ := exists_home_of_assignment heq
  exact ⟨home, hbefore⟩

/-- A step that sets a variable. -/
def settingStep (name value : String) : Step :=
  .plain ⟨"1", "set_variable", .finite false 0, .finite false 0,
    [("name", .str name), ("value", .str value)], "", ""⟩

/-- A choice that sets a variable in both arms. -/
def settingChoice (name : String) : Step :=
  .mk ⟨"2", "if_condition", .finite false 0, .finite false 0, [("condition", .str "a > 1")], "", ""⟩
    [("true", [settingStep name "1"]), ("false", [settingStep name "2"])]

/-- A variable that is set in front of a choice may be set in both arms. -/
theorem inScope_settingChoice :
    ∃ code σ,
      (dialect.emitFlow .builtin [settingStep "x" "0", settingChoice "x"]).run.run .empty =
        (.ok code, σ) ∧
      InScope (occurrences (dialect.write code)) := by
  have hsteps : ∀ b ∈ Flow.blocks [settingStep "x" "0", settingChoice "x"],
      HasOneLinedCondition .builtin b := hasOneLinedCondition_of_all (by decide)
  have hscope := (inScope_emitFlow hsteps (show (dialect.emitFlow .builtin
    [settingStep "x" "0", settingChoice "x"]).run.run .empty = (.ok _, _) from rfl)).2
  refine ⟨_, _, rfl, hscope.2 ?_⟩
  have hasked : placed 0 [] (requests .builtin [settingStep "x" "0", settingChoice "x"]) =
      [([], .var ['x']), ([0], .var ['x']), ([1], .var ['x'])] := by
    decide
  rw [hasked]
  intro x place hmem home hhome
  obtain rfl : x = ['x'] := by simp at hmem; tauto
  obtain rfl : [] = home := Option.some.inj hhome
  exact List.nil_suffix

/-- A variable that is set in both arms of a choice only is out of scope in the second. -/
theorem not_forall_inScope :
    ¬∀ steps code σ, (dialect.emitFlow .builtin steps).run.run .empty = (.ok code, σ) →
      InScope (occurrences (dialect.write code)) := by
  intro h
  have hscope := h [settingChoice "x"] _ _ rfl
  obtain ⟨outer, houter, hsuffix⟩ := hscope [([0], .var ['x'])] [1] ['x'] [] (by decide)
  obtain rfl : outer = [0] := by simpa using houter
  exact absurd hsuffix (by decide)

end BotCanvas.Braced
