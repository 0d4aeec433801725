import BotCanvas.Proofs.Braced.ActionRequests
import BotCanvas.Proofs.Braced.Balance

/-!
# Requests of flows

What the statements of a flow ask for, with the blocks that they open and close around the requests
(`requests`): a choice has a block for each arm, a permission check one for its refusal only, and a
guarded body a block for itself and one for what runs after an error.

The text of a flow declares and assigns to just the names that one scope answers with, in the order of
the requests and in the blocks of the requests (`occurrences_emitFlow`).
-/

namespace BotCanvas.Braced

/-! ## What a flow asks for -/

mutual

/-- What a step asks for. -/
def stepRequests (catalog : Catalog) : Step → List (Effect Request)
  | .mk block arms =>
      match Flow.branching? block.type with
      | some .choice =>
          .opens :: (armRequests catalog "true" arms ++
            (.closes :: .opens :: (armRequests catalog "false" arms ++ [.closes])))
      | some .gate =>
          .opens :: (armRequests catalog "false" arms ++
            (.closes :: armRequests catalog "true" arms))
      | some .recovery => .opens :: (armRequests catalog "body" arms ++ [.closes, .opens, .closes])
      | none => (actionRequests ⟨catalog, block⟩).map .item

/-- What steps ask for, one after another. -/
def requests (catalog : Catalog) : List Step → List (Effect Request)
  | [] => []
  | s :: rest => stepRequests catalog s ++ requests catalog rest

/-- What an arm asks for. -/
def armRequests (catalog : Catalog) (name : String) :
    List (String × List Step) → List (Effect Request)
  | [] => []
  | (n, steps) :: rest =>
      if n = name then requests catalog steps else armRequests catalog name rest

end

mutual

/-- What a step asks for, one of its blocks asks for. -/
theorem exists_block_of_mem_stepRequests
    {catalog : Catalog}
    {q : Request} :
    ∀ s : Step, .item q ∈ stepRequests catalog s →
      ∃ b ∈ Flow.stepBlocks s, q ∈ actionRequests ⟨catalog, b⟩
  | .mk block arms, h => by
      have harm : ∀ name, .item q ∈ armRequests catalog name arms →
          ∃ b ∈ Flow.armBlocks arms, q ∈ actionRequests ⟨catalog, b⟩ := fun name =>
        exists_block_of_mem_armRequests name arms
      have hinside : (∃ b ∈ Flow.armBlocks arms, q ∈ actionRequests ⟨catalog, b⟩) →
          ∃ b ∈ Flow.stepBlocks (.mk block arms), q ∈ actionRequests ⟨catalog, b⟩ := by
        rintro ⟨b, hb, hq⟩
        exact ⟨b, List.mem_cons_of_mem block hb, hq⟩
      rw [stepRequests] at h
      split at h
      · simp only [List.mem_cons, List.mem_append, List.not_mem_nil, reduceCtorEq, false_or,
          or_false] at h
        exact hinside (h.elim (harm "true") (harm "false"))
      · simp only [List.mem_cons, List.mem_append, reduceCtorEq, false_or] at h
        exact hinside (h.elim (harm "false") (harm "true"))
      · simp only [List.mem_cons, List.mem_append, List.not_mem_nil, reduceCtorEq, false_or,
          or_false] at h
        exact hinside (harm "body" h)
      · obtain ⟨q', hq', heq⟩ := List.mem_map.1 h
        cases heq
        exact ⟨block, List.mem_cons_self, hq'⟩

/-- What a flow asks for, one of its blocks asks for. -/
theorem exists_block_of_mem_requests
    {catalog : Catalog}
    {q : Request} :
    ∀ steps : List Step, .item q ∈ requests catalog steps →
      ∃ b ∈ Flow.blocks steps, q ∈ actionRequests ⟨catalog, b⟩
  | [], h => by cases h
  | s :: rest, h => by
      rw [requests, List.mem_append] at h
      rw [Flow.blocks]
      rcases h with h | h
      · obtain ⟨b, hb, hq⟩ := exists_block_of_mem_stepRequests s h
        exact ⟨b, List.mem_append_left _ hb, hq⟩
      · obtain ⟨b, hb, hq⟩ := exists_block_of_mem_requests rest h
        exact ⟨b, List.mem_append_right _ hb, hq⟩

/-- What an arm asks for, one of its blocks asks for. -/
theorem exists_block_of_mem_armRequests
    {catalog : Catalog}
    {q : Request}
    (name : String) :
    ∀ arms : List (String × List Step), .item q ∈ armRequests catalog name arms →
      ∃ b ∈ Flow.armBlocks arms, q ∈ actionRequests ⟨catalog, b⟩
  | [], h => by cases h
  | (n, steps) :: rest, h => by
      rw [armRequests] at h
      rw [Flow.armBlocks]
      split at h
      · obtain ⟨b, hb, hq⟩ := exists_block_of_mem_requests steps h
        exact ⟨b, List.mem_append_left _ hb, hq⟩
      · obtain ⟨b, hb, hq⟩ := exists_block_of_mem_armRequests name rest h
        exact ⟨b, List.mem_append_right _ hb, hq⟩

end

/-! ## Rows of branches -/

/-- The row of a test opens a block. -/
theorem rowEffects_test
    (t : Text) :
    rowEffects ("if (".toList ++ (t ++ ") \x7b".toList)) = [.opens] := by
  have hremark : ¬"//".toList <+: Text.firstLine ("if (".toList ++ (t ++ ") \x7b".toList)) := by
    intro h
    exact absurd (List.cons_prefix_cons.1 (h.trans (List.takeWhile_prefix _))).1 (by decide)
  have hbinding : binding? (Text.firstLine ("if (".toList ++ (t ++ ") \x7b".toList))) = none := by
    refine binding?_word_append (w := "if".toList) (List.all_eq_true.1 (by decide)) (c := ' ')
      (by decide) (r := '(' :: (t ++ ") \x7b".toList)) ?_ (.inl (by decide))
    intro h
    exact absurd (List.cons_prefix_cons.1 (List.cons_prefix_cons.1 h).2).1 (by decide)
  have hlast : ("if (".toList ++ (t ++ ") \x7b".toList)).getLast? = some '\x7b' := by
    rw [← List.append_assoc, List.getLast?_append_of_ne_nil _ (by simp)]
    rfl
  have hdrop : ("if (".toList ++ (t ++ ") \x7b".toList)).dropWhile Text.isBlank =
      "if (".toList ++ (t ++ ") \x7b".toList) := List.dropWhile_cons_of_neg (by decide)
  have hhead : ("if (".toList ++ (t ++ ") \x7b".toList)).head? ≠ some '\x7d' := fun h =>
    absurd (Option.some.inj h) (by decide)
  rw [rowEffects, hdrop, statementEffects, if_neg hremark, if_neg hhead, hbinding, if_pos hlast]
  rfl

theorem codeEffects_test
    {pieces : List Piece}
    {t : Text}
    (hwrite : pieces.flatMap (Piece.write spelling) = "if (".toList ++ (t ++ ") \x7b".toList))
    (ht : '\n' ∉ t) :
    codeEffects (.line pieces) = [.opens] := by
  have hrow : '\n' ∉ "if (".toList ++ (t ++ ") \x7b".toList) := by
    simpa using ht
  rw [codeEffects, effects, Code.write, hwrite, Text.splitOn_of_not_mem hrow,
    List.flatMap_singleton, rowEffects_test]

/-- A choice has a block for each arm. -/
theorem codeEffects_choice
    {catalog : Catalog}
    {b : Block}
    (hway : Flow.branching? b.type = some .choice)
    (hb : HasOneLinedCondition catalog b)
    (yes no : Code) :
    codeEffects (choice ⟨catalog, b⟩ yes no) =
      .opens :: (codeEffects yes ++ (.closes :: .opens :: (codeEffects no ++ [.closes]))) := by
  have htest : codeEffects (.line ("if (" :: (condition ⟨catalog, b⟩ ++ [.code ") \x7b"]))) =
      [.opens] := by
    refine codeEffects_test ?_ (lineFeed_not_mem_condition hway hb)
    simp [Piece.write]
  have helse : codeEffects "\x7d else \x7b" = [.closes, .opens] := by decide
  have hclose : codeEffects "\x7d" = [.closes] := by decide
  rw [choice, codeEffects_stack (by simp)]
  simp [htest, helse, hclose, Code.deeper, codeEffects_nest]

/-- A permission check has a block for a refusal; what it permits stands behind it. -/
theorem codeEffects_gate
    (s : Subject)
    (denied allowed : Option Code) :
    codeEffects (gate s denied allowed) =
      .opens :: (denied.toList.flatMap codeEffects ++
        (.closes :: allowed.toList.flatMap codeEffects)) := by
  have hname := (isName_permissionName (s.value "permission")).lineFeed_not_mem
  have hsource : '\n' ∉ (permissionSource s.block.type).toList := by
    unfold permissionSource
    split <;> decide
  have htest : codeEffects (.line ["if (!interaction.", .code (permissionSource s.block.type),
      "?.has(PermissionFlagsBits.", .name (permissionName (s.value "permission")), ")) \x7b"]) =
      [.opens] := by
    refine codeEffects_test
      (t := "!interaction.".toList ++ ((permissionSource s.block.type).toList ++
        ("?.has(PermissionFlagsBits.".toList ++
          (permissionName (s.value "permission") ++ ")".toList)))) ?_ ?_
    · simp [Piece.write]
    · simpa [hname] using hsource
  have hclose : codeEffects "\x7d" = [.closes] := by decide
  have hleave : codeEffects "return;" = [] := by decide
  have hdenial : codeEffects denial = [] := by decide
  have hdenied : codeEffects (denied.getD denial) = denied.toList.flatMap codeEffects := by
    cases denied with
    | none => exact hdenial
    | some c => exact (List.flatMap_singleton ..).symm
  rw [gate, codeEffects_stack (by simp)]
  simp [htest, hclose, hleave, hdenied, Code.deeper, codeEffects_nest]

/-- A guarded body has a block for itself and one for what runs after an error. -/
theorem codeEffects_recovery
    (s : Subject)
    (body : Code) :
    codeEffects (recovery s body) = .opens :: (codeEffects body ++ [.closes, .opens, .closes]) := by
  have htry : codeEffects "try \x7b" = [.opens] := by decide
  have hcatch : codeEffects "\x7d catch (error) \x7b" = [.closes, .opens] := by decide
  have hclose : codeEffects "\x7d" = [.closes] := by decide
  have herror : codeEffects (if s.flag "logToConsole" then
      .line ["console.error('", s.literal "errorMessage", "', error);"] else .written noop) = [] := by
    split
    · exact codeEffects_line [] (by simp; decide) (by simp) (by simp)
    · decide
  rw [recovery, codeEffects_stack (by simp)]
  simp [htry, hcatch, hclose, herror, Code.deeper, codeEffects_nest]

/-! ## Flows -/

/-- The line that does nothing does nothing with a name. -/
theorem codeEffects_noop :
    codeEffects dialect.noopCode = [] := by
  decide

/-- An arm does what its statements do, also if the line that does nothing stands for them. -/
theorem codeEffects_getD
    (c : Option Code) :
    codeEffects (c.getD dialect.noopCode) = c.toList.flatMap codeEffects := by
  cases c with
  | none => exact codeEffects_noop
  | some c => exact (List.flatMap_singleton ..).symm

/-- So do statements in one stack. -/
theorem codeEffects_suite
    (cs : List Code) :
    (if cs.isEmpty then none else some (dialect.suite (.stack cs))).toList.flatMap codeEffects =
      cs.flatMap codeEffects := by
  cases cs with
  | nil => rfl
  | cons c cs => exact (List.flatMap_singleton ..).trans (codeEffects_stack (by simp))

mutual

/-- A step asks for its requests. -/
theorem emitStep_writes
    (catalog : Catalog) :
    ∀ s : Step, (∀ b ∈ Flow.stepBlocks s, HasOneLinedCondition catalog b) →
      Writes (stepRequests catalog s) (dialect.emitStep catalog s)
  | .mk block arms, h => by
      rw [Flow.stepBlocks, List.forall_mem_cons] at h
      have harm := fun name => emitArm_asks catalog name arms h.2
      rw [Dialect.emitStep, stepRequests]
      cases hway : Flow.branching? block.type with
      | none => exact emitAction_writes ⟨catalog, block⟩
      | some way =>
          cases way with
          | choice =>
              refine .opens ((harm "true").bind ?_)
              rintro _ yes rfl
              refine .closes (.opens ((harm "false").bind ?_))
              rintro _ no rfl
              refine .closes (.pure ?_)
              have heffects := codeEffects_choice hway h.1 (yes.getD dialect.noopCode)
                (no.getD dialect.noopCode)
              rwa [codeEffects_getD, codeEffects_getD] at heffects
          | gate =>
              refine .opens ((harm "false").bind ?_)
              rintro _ denied rfl
              refine .closes ((harm "true").last ?_)
              rintro _ allowed rfl
              refine .pure ?_
              rw [List.append_nil]
              exact codeEffects_gate ⟨catalog, block⟩ denied allowed
          | recovery =>
              refine .opens ((harm "body").bind ?_)
              rintro _ body rfl
              refine .closes (.opens (.closes (.pure ?_)))
              have heffects := codeEffects_recovery ⟨catalog, block⟩ (body.getD dialect.noopCode)
              rwa [codeEffects_getD] at heffects

/-- Steps ask for their requests, one after another. -/
theorem emitList_asks
    (catalog : Catalog) :
    ∀ steps : List Step, (∀ b ∈ Flow.blocks steps, HasOneLinedCondition catalog b) →
      Asks (requests catalog steps) (fun answers cs => cs.flatMap codeEffects = answers)
        (dialect.emitList catalog steps)
  | [], _ => .pure rfl
  | s :: rest, h => by
      rw [Flow.blocks, List.forall_mem_append] at h
      rw [Dialect.emitList, requests]
      refine (emitStep_writes catalog s h.1).bind ?_
      rintro _ c rfl
      refine (emitList_asks catalog rest h.2).last ?_
      rintro _ cs rfl
      exact .pure (by rw [List.append_nil, List.flatMap_cons])

/-- An arm asks for its requests. -/
theorem emitArm_asks
    (catalog : Catalog)
    (name : String) :
    ∀ arms : List (String × List Step),
      (∀ b ∈ Flow.armBlocks arms, HasOneLinedCondition catalog b) →
      Asks (armRequests catalog name arms) (fun answers c => c.toList.flatMap codeEffects = answers)
        (dialect.emitArm catalog name arms)
  | [], _ => .pure rfl
  | (n, steps) :: rest, h => by
      rw [Flow.armBlocks, List.forall_mem_append] at h
      rw [Dialect.emitArm, armRequests]
      split
      · refine (emitList_asks catalog steps h.1).last ?_
        rintro _ cs rfl
        exact .pure (by rw [List.append_nil, codeEffects_suite])
      · exact emitArm_asks catalog name rest h.2

end

/-- The text of a flow declares and assigns to just the names that one scope answers with, in the
order and in the blocks of the requests. -/
theorem occurrences_emitFlow
    {catalog : Catalog}
    {steps : List Step}
    (hsteps : ∀ b ∈ Flow.blocks steps, HasOneLinedCondition catalog b)
    {σ σ' : Scope}
    {code : Code}
    (h : (dialect.emitFlow catalog steps).run.run σ = (.ok code, σ')) :
    occurrences (dialect.write code) = resolveAt σ (placed 0 [] (requests catalog steps)) := by
  have hwrites : Writes (requests catalog steps) (dialect.emitFlow catalog steps) := by
    refine (emitList_asks catalog steps hsteps).last ?_
    rintro _ cs rfl
    refine .pure ?_
    rw [List.append_nil, ← codeEffects_suite cs, ← codeEffects_getD]
    cases cs with
    | nil => rfl
    | cons c cs => rfl
  rw [← placed_resolve, ← (hwrites σ code σ' h).1]
  rfl

end BotCanvas.Braced
