import BotCanvas.Proofs.Program.Emission
import BotCanvas.Proofs.Program.Rows

/-!
# Where statements stand

The statements of a block that a flow reaches stand in the code of the flow, at some depth
(`Dialect.emitFlow_holds`). What stands in code at a depth is written with all its rows indented
(`Code.Within.indent_mem_rows`).
-/

namespace BotCanvas

namespace Code

/-- Code that stands inside other code, some levels deeper. -/
inductive Within (c : Code) : Nat → Code → Prop
  | self : Within c 0 c
  | stack
      {n : Nat}
      {part : Code}
      {parts : List Code} :
      part ∈ parts →
      Within c n part →
      Within c n (.stack parts)
  | nest
      {n : Nat}
      {body : Code}
      (levels : Nat) :
      Within c n body →
      Within c (levels + n) (.nest levels body)

/-- Code that stands inside other code at some depth. -/
def Inside (c whole : Code) : Prop :=
  ∃ n, c.Within n whole

namespace Inside

variable {a b c : Code}

theorem self :
    c.Inside c :=
  ⟨0, .self⟩

theorem stack
    {parts : List Code}
    (hb : b ∈ parts)
    (h : a.Inside b) :
    a.Inside (.stack parts) := by
  obtain ⟨n, h⟩ := h
  exact ⟨n, .stack hb h⟩

theorem nest
    (levels : Nat)
    (h : a.Inside b) :
    a.Inside (.nest levels b) := by
  obtain ⟨n, h⟩ := h
  exact ⟨levels + n, .nest levels h⟩

theorem deeper
    (h : a.Inside b) :
    a.Inside b.deeper :=
  h.nest 1

theorem trans
    (h : a.Inside b)
    (h' : b.Inside c) :
    a.Inside c := by
  obtain ⟨n, h'⟩ := h'
  induction h' with
  | self => exact h
  | stack hpart _ ih => exact ih.stack hpart
  | nest levels _ ih => exact ih.nest levels

end Inside

/-- The rows of code that stands at a depth are rows of the whole, indented. -/
theorem Within.indent_mem_rows
    {sp : Spelling}
    {k : Nat}
    (hsp : sp.indentUnit = List.replicate k ' ')
    {n : Nat}
    {c whole : Code}
    (h : c.Within n whole)
    {row : Text}
    (hrow : row ∈ rows sp c) :
    Text.indent (List.replicate (n * k) ' ') row ∈ rows sp whole := by
  induction h with
  | self =>
      rw [Nat.zero_mul, List.replicate_zero, Text.indent_nil]
      exact hrow
  | stack hpart _ ih =>
      rw [rows_stack (List.ne_nil_of_mem hpart)]
      exact List.mem_flatMap.2 ⟨_, hpart, ih⟩
  | nest levels _ ih =>
      rw [rows_nest hsp, Nat.add_mul, ← Text.indent_indent]
      exact List.mem_map_of_mem ih

end Code

/-! ## Blocks that a flow reaches -/

namespace Flow

/-- The arms that a branching block runs. -/
def armNames : Branching → List String
  | .recovery => ["body"]
  | _ => ["true", "false"]

/-- A block that a flow reaches: the block of a step, or one that an arm reaches, at any depth and
with any steps before and behind it. -/
inductive Reaches (b : Block) : List Step → Prop
  | here
      {arms : List (String × List Step)}
      {rest : List Step} :
      Reaches b (.mk b arms :: rest)
  | later
      {s : Step}
      {rest : List Step} :
      Reaches b rest →
      Reaches b (s :: rest)
  | arm
      {branch : Block}
      {arms : List (String × List Step)}
      {rest steps : List Step}
      {way : Branching}
      {name : String} :
      branching? branch.type = some way →
      name ∈ armNames way →
      arms.lookup name = some steps →
      Reaches b steps →
      Reaches b (.mk branch arms :: rest)

end Flow

namespace Dialect

/-- A dialect that keeps the code of arms in branches, and code in suites. -/
structure KeepsArms (d : Dialect) : Prop where
  suite : ∀ c : Code, c.Inside (d.suite c)
  yes : ∀ s (yes no : Code), yes.Inside (d.choice s yes no)
  no : ∀ s (yes no : Code), no.Inside (d.choice s yes no)
  denied : ∀ s (denied : Code) allowed, denied.Inside (d.gate s (some denied) allowed)
  allowed : ∀ s denied (allowed : Code), allowed.Inside (d.gate s denied (some allowed))
  body : ∀ s (body : Code), body.Inside (d.recovery s body)

variable {d : Dialect}
variable {catalog : Catalog}
variable {c : Code}

/-- If an arm is entered and its steps hold some code, the code of the arm holds it. -/
theorem emitArm_holds
    (hd : d.KeepsArms)
    {name : String}
    {steps : List Step}
    (hsteps : Emit.Gives (fun cs => ∃ code ∈ cs, c.Inside code) (d.emitList catalog steps))
    {arms : List (String × List Step)}
    (h : arms.lookup name = some steps) :
    Emit.Gives (fun arm => ∃ code ∈ arm, c.Inside code) (d.emitArm catalog name arms) := by
  induction arms with
  | nil => cases h
  | cons p rest ih =>
      obtain ⟨key, first⟩ := p
      rw [emitArm]
      rw [List.lookup_cons] at h
      by_cases hkey : key = name
      · subst hkey
        rw [beq_self_eq_true] at h
        obtain rfl : first = steps := Option.some.inj h
        rw [if_pos rfl]
        refine hsteps.bind fun cs hcs => .pure ?_
        obtain ⟨code, hcode, hc⟩ := hcs
        cases cs with
        | nil => cases hcode
        | cons c' cs => exact ⟨_, rfl, (hc.stack hcode).trans (hd.suite _)⟩
      · rw [if_neg hkey]
        rw [beq_false_of_ne (Ne.symm hkey)] at h
        exact ih h

/-- A branch holds the code that one of its arms holds. -/
theorem emitStep_holds
    (hd : d.KeepsArms)
    {branch : Block}
    {way : Flow.Branching}
    (hway : Flow.branching? branch.type = some way)
    {name : String}
    (hname : name ∈ Flow.armNames way)
    {arms : List (String × List Step)}
    (harm : Emit.Gives (fun arm => ∃ code ∈ arm, c.Inside code) (d.emitArm catalog name arms)) :
    Emit.Gives (fun code => c.Inside code) (d.emitStep catalog (.mk branch arms)) := by
  rw [emitStep, hway]
  cases way with
  | choice =>
      simp only [Flow.armNames, List.mem_cons, List.not_mem_nil, or_false] at hname
      rcases hname with rfl | rfl
      · refine harm.bind fun yes hyes => (Emit.Gives.any _).bind fun no _ => .pure ?_
        obtain ⟨code, rfl, hc⟩ := hyes
        exact hc.trans (hd.yes _ _ _)
      · refine (Emit.Gives.any _).bind fun yes _ => harm.bind fun no hno => .pure ?_
        obtain ⟨code, rfl, hc⟩ := hno
        exact hc.trans (hd.no _ _ _)
  | gate =>
      simp only [Flow.armNames, List.mem_cons, List.not_mem_nil, or_false] at hname
      rcases hname with rfl | rfl
      · refine (Emit.Gives.any _).bind fun denied _ => harm.bind fun allowed h => .pure ?_
        obtain ⟨code, rfl, hc⟩ := h
        exact hc.trans (hd.allowed _ _ _)
      · refine harm.bind fun denied h => (Emit.Gives.any _).bind fun allowed _ => .pure ?_
        obtain ⟨code, rfl, hc⟩ := h
        exact hc.trans (hd.denied _ _ _)
  | recovery =>
      simp only [Flow.armNames, List.mem_singleton] at hname
      subst hname
      refine harm.bind fun body h => .pure ?_
      obtain ⟨code, rfl, hc⟩ := h
      exact hc.trans (hd.body _ _)

/-- If a flow reaches a block, the code of its steps holds the statements of the block. -/
theorem emitList_holds
    (hd : d.KeepsArms)
    {b : Block}
    (hplain : Flow.branching? b.type = none)
    (haction : Emit.Gives (fun code => c.Inside code) (d.emitAction ⟨catalog, b⟩))
    {steps : List Step}
    (h : Flow.Reaches b steps) :
    Emit.Gives (fun cs => ∃ code ∈ cs, c.Inside code) (d.emitList catalog steps) := by
  -- a step that holds the code, before any others
  have hcons : ∀ s rest, Emit.Gives (fun code => c.Inside code) (d.emitStep catalog s) →
      Emit.Gives (fun cs => ∃ code ∈ cs, c.Inside code) (d.emitList catalog (s :: rest)) := by
    intro s rest hs
    rw [emitList]
    refine hs.bind fun code hcode => ?_
    refine (Emit.Gives.any _).bind fun cs _ => .pure ?_
    exact ⟨code, by simp, hcode⟩
  induction h with
  | here =>
      refine hcons _ _ ?_
      rw [emitStep, hplain]
      exact haction
  | later _ ih =>
      rw [emitList]
      refine (Emit.Gives.any _).bind fun code _ => ?_
      refine ih.bind fun cs hcs => .pure ?_
      obtain ⟨code', hcode', hc⟩ := hcs
      exact ⟨code', by simp [hcode'], hc⟩
  | arm hway hname harm _ ih =>
      exact hcons _ _ (emitStep_holds hd hway hname (emitArm_holds hd ih harm))

/-- If a flow reaches a block, its code holds the statements of the block. -/
theorem emitFlow_holds
    (hd : d.KeepsArms)
    {b : Block}
    (hplain : Flow.branching? b.type = none)
    (haction : Emit.Gives (fun code => c.Inside code) (d.emitAction ⟨catalog, b⟩))
    {steps : List Step}
    (h : Flow.Reaches b steps) :
    Emit.Gives (fun code => c.Inside code) (d.emitFlow catalog steps) := by
  rw [emitFlow]
  refine (emitList_holds hd hplain haction h).bind fun cs hcs => .pure ?_
  obtain ⟨code, hcode, hc⟩ := hcs
  cases cs with
  | nil => cases hcode
  | cons c' cs => exact (hc.stack hcode).trans (hd.suite _)

/-- The code that the handler of a kind is given to hold: that of the subcommands of a slash command
that has some, and else its own. -/
def bodiesOf (kind : TriggerKind) (body : Code) (subcommands : List Subcommand) : List Code :=
  if kind == .slash && !subcommands.isEmpty then subcommands.map Subcommand.body else [body]

end Dialect

end BotCanvas
