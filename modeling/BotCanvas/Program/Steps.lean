import BotCanvas.Program.Dialect

/-!
# Statements of a flow

Each step becomes code, and a flow the stack of its steps. A branching step takes the code of its
arms; an arm that is missing or empty gives way to the line that does nothing, or, at a permission
check, to the dialect's own answer. A block type that the dialect does not know becomes a remark.
-/

namespace BotCanvas.Dialect

/-- The statements of a block that does not branch. -/
def emitAction (d : Dialect) (s : Subject) : Emit Code :=
  match d.actions.lookup s.block.type with
  | some action => action s
  | none => pure (d.remark ("Block Logic: " ++ s.block.type))

mutual

/-- The statements of a step. -/
def emitStep (d : Dialect) (catalog : Catalog) : Step → Emit Code
  | .mk block arms =>
      match Flow.branching? block.type with
      | some .choice => do
          let yes ← emitArm d catalog "true" arms
          let no ← emitArm d catalog "false" arms
          pure (d.choice ⟨catalog, block⟩ (yes.getD d.noopCode) (no.getD d.noopCode))
      | some .gate => do
          let denied ← emitArm d catalog "false" arms
          let allowed ← emitArm d catalog "true" arms
          pure (d.gate ⟨catalog, block⟩ denied allowed)
      | some .recovery => do
          let body ← emitArm d catalog "body" arms
          pure (d.recovery ⟨catalog, block⟩ (body.getD d.noopCode))
      | none => d.emitAction ⟨catalog, block⟩

/-- The statements of steps, each on its own. -/
def emitList (d : Dialect) (catalog : Catalog) : List Step → Emit (List Code)
  | [] => pure []
  | s :: rest => do
      let c ← emitStep d catalog s
      let cs ← emitList d catalog rest
      pure (c :: cs)

/-- The statements of an arm, unless it is missing or empty. -/
def emitArm (d : Dialect) (catalog : Catalog) (name : String) :
    List (String × List Step) → Emit (Option Code)
  | [] => pure none
  | (n, steps) :: rest =>
      if n = name then do
        let cs ← emitList d catalog steps
        pure (if cs.isEmpty then none else some (d.suite (.stack cs)))
      else emitArm d catalog name rest

end

/-- The statements of a flow; an empty flow does nothing. -/
def emitFlow (d : Dialect) (catalog : Catalog) (steps : List Step) : Emit Code := do
  let cs ← d.emitList catalog steps
  pure (if cs.isEmpty then d.noopCode else d.suite (.stack cs))

end BotCanvas.Dialect
