import BotCanvas.Proofs.Offside.Frames
import BotCanvas.Proofs.Program.Quiet

/-!
# The library for requests in programs with suites

No statement, branch or handler imports the library for requests, nor does the footer; the header
imports it only if a block sends requests. So in a program without such blocks its import stands
only in a text of the user's.
-/

namespace BotCanvas.Offside

/-- Code that does not import the library for requests by itself. -/
abbrev Quiet (c : Code) : Prop :=
  c.Quiet requestPhrase

/-- Statements of an action do not import the library for requests. -/
theorem gives_quiet
    (s : Subject) :
    Emit.Gives Quiet (dialect.emitAction s) := by
  refine Emit.Gives.of_alike (emitAction_alike (.refl _ s) (.any s)) fun c hc => ?_
  refine .ofEvery (fun pieces hpieces => ?_) hc.2
  have hform := hpieces.2
  rw [isStatement, Bool.and_eq_true, Bool.and_eq_true] at hform
  exact hform.2.2

section Lines

variable {body : Code}

-- forms are decided character by character
set_option maxRecDepth 20000

theorem quiet_noop :
    Quiet (.written noop) :=
  .written (by decide)

theorem quiet_suite
    (hbody : Quiet body) :
    Quiet (suite body) := by
  unfold suite
  split
  · simp [hbody, quiet_noop]
  · exact hbody

theorem quiet_choice
    (s : Subject)
    {yes no : Code}
    (hyes : Quiet yes)
    (hno : Quiet no) :
    Quiet (choice s yes no) := by
  have htest : isQuiet requestPhrase
      ((Piece.code "if " :: (condition s ++ [.code ":"])).map Piece.slot) = true := by
    unfold condition
    split
    · simp
      decide
    · split <;> simp <;> decide
  have hrest : isQuiet requestPhrase [.code "else:"] = true := by
    decide
  simpa [choice, hyes, hno, hrest] using htest

theorem quiet_gate
    (s : Subject)
    {denied allowed : Option Code}
    (hdenied : ∀ c ∈ denied, Quiet c)
    (hallowed : ∀ c ∈ allowed, Quiet c) :
    Quiet (gate s denied allowed) := by
  have htest : isQuiet requestPhrase
      [.code "if not interaction.", .code (permissionSource s.block.type), .code ".", .name,
        .code ":"] = true := by
    unfold permissionSource
    split <;> decide
  have hanswer : Quiet (denied.getD denial) := by
    cases denied with
    | none => exact .line (by decide)
    | some c => exact hdenied c rfl
  have hrest : isQuiet requestPhrase [.code "return"] = true := by
    decide
  refine .stack (List.forall_mem_cons.2 ⟨.line htest, ?_⟩)
  simpa [hanswer, hrest] using hallowed

theorem quiet_recovery
    (s : Subject)
    (hbody : Quiet body) :
    Quiet (recovery s body) := by
  have herror : Quiet
      (if s.flag "logToConsole" then .line ["print(\"", s.literal "errorMessage", "\", error)"]
      else .written noop) := by
    split
    · exact .line (by simp; decide)
    · exact quiet_noop
  simp [recovery, hbody, herror]
  decide

theorem quiet_guarded
    (label : Text)
    (hbody : Quiet body)
    (reply : Bool) :
    Quiet (guarded label body reply) := by
  cases reply <;> simp [guarded, replyLines, hbody] <;> decide

theorem quiet_handlerBody
    (label : Text)
    (hbody : Quiet body)
    (reply : Bool) :
    Quiet (handlerBody label body reply) := by
  unfold handlerBody
  split
  · exact hbody
  · exact quiet_guarded label hbody reply

theorem quiet_functionLine
    (name : Text) :
    Quiet (functionLine name) :=
  .line (by simp; decide)

theorem quiet_groupParts
    (group base guard : Text)
    {subcommands : List Subcommand}
    (hsubs : ∀ sub ∈ subcommands, Quiet sub.body)
    (tally : Tally) :
    ∀ c ∈ (groupParts group base guard subcommands tally).1, Quiet c := by
  induction subcommands generalizing tally with
  | nil => exact fun c (hc : c ∈ []) => absurd hc List.not_mem_nil
  | cons sub rest ih =>
      have hsub : Quiet (handlerBody (guard ++ ' ' :: sub.name) sub.body true) :=
        quiet_handlerBody _ (hsubs sub (by simp)) true
      have hline : Quiet (.line ["@", .name group, ".command(name=\"", .literal sub.name,
          "\", description=\"", .literal sub.description, "\")"]) :=
        .line (by simp; decide)
      refine List.forall_mem_cons.2 ⟨.stack ?_, ih (fun sub hsub => hsubs sub (by simp [hsub])) _⟩
      exact List.forall_mem_cons.2 ⟨hline, by simp [quiet_functionLine, hsub]⟩

theorem quiet_spaced
    {parts : List Code}
    (h : ∀ c ∈ parts, Quiet c) :
    Quiet (spaced parts) :=
  .stack (forall_spacedParts (.written (by decide)) h)

theorem quiet_commandGroup
    (guard summary base : Text)
    {subcommands : List Subcommand}
    (hsubs : ∀ sub ∈ subcommands, Quiet sub.body)
    (tally : Tally) :
    Quiet (commandGroup guard summary base subcommands tally).1 := by
  refine quiet_spaced (List.forall_mem_cons.2 ⟨.line (by simp; decide), fun c hc => ?_⟩)
  rcases List.mem_append.1 hc with hc | hc
  · exact quiet_groupParts _ base guard hsubs _ c hc
  · rw [List.mem_singleton.1 hc]
    exact .line (by simp; decide)

/-- The handler of a trigger does not import the library for requests if its code does not. -/
theorem quiet_handler
    (catalog : Catalog)
    (trigger : Option Block)
    (kind : TriggerKind)
    (guard : Text)
    {subcommands : List Subcommand}
    (hbody : subcommands = [] → Quiet body)
    (hsubs : ∀ sub ∈ subcommands, Quiet sub.body)
    (hkind : kind ≠ .slash → subcommands = [])
    (tally : Tally) :
    Quiet (handler catalog trigger kind guard body subcommands tally).1 := by
  unfold handler
  cases kind with
  | slash =>
      simp only
      split
      · rename_i hempty
        have hown := quiet_handlerBody guard (hbody (List.isEmpty_iff.1 hempty)) true
        refine .stack (List.forall_mem_cons.2 ⟨.line (by simp; decide), ?_⟩)
        simp [quiet_functionLine, hown]
      · exact quiet_commandGroup guard _ _ hsubs tally
  | component =>
      have hown := quiet_handlerBody guard (hbody (hkind (by simp))) true
      have hframe : isQuiet requestPhrase [.code "@bot.listen('on_interaction')"] = true ∧
          isQuiet requestPhrase
            [.code "    if interaction.data and interaction.data.get('custom_id') == \"", .literal,
              .code "\":"] = true := by
        decide
      refine .stack ?_
      simp [quiet_functionLine, hown, hframe]
  | event =>
      have hown := quiet_handlerBody (eventName guard) (hbody (hkind (by simp))) false
      have hframe : isQuiet requestPhrase [.code "@bot.listen('on_", .name, .code "')"] = true ∧
          isQuiet requestPhrase
            [.code "async def ", .name, .code "(interaction=None, *args):"] = true := by
        decide
      refine .stack ?_
      simp [hown, hframe]

/-- The header does not import the library for requests if no block sends one. -/
theorem quiet_header
    {types : List String}
    (h : usesAny types requestTypes = false) :
    Quiet (header types) := by
  have halways : ∀ c ∈ (["import asyncio", "import datetime", "import os"] : List Code),
      Quiet c := by
    simp
    decide
  have hmath : ∀ c ∈ (if types.contains "math_advanced" then
      ["import math", "import random"] else [] : List Code), Quiet c := by
    split
    · simp
      decide
    · simp
  have hbot : ∀ c ∈ botLines, Quiet c := by
    simp [botLines]
    decide
  have hempty : ∀ c ∈ [Code.written []], Quiet c :=
    List.forall_mem_singleton.2 (.written (by decide))
  rw [header, h]
  refine .stack (List.forall_mem_append.2 ⟨List.forall_mem_append.2 ⟨?_, by simp⟩, hbot⟩)
  exact List.forall_mem_append.2 ⟨List.forall_mem_append.2 ⟨halways, hmath⟩, hempty⟩

/-- The language with suites does not import the library for requests outside its header. -/
theorem quietAbout_dialect :
    dialect.QuietAbout requestPhrase where
  action := gives_quiet
  choice s _ _ hyes hno := quiet_choice s hyes hno
  gate s _ _ hdenied hallowed := quiet_gate s hdenied hallowed
  recovery s _ hbody := quiet_recovery s hbody
  idle := quiet_noop
  suite _ hbody := quiet_suite hbody
  handler catalog trigger kind guard _ _ tally hbody hsubs hkind :=
    quiet_handler catalog trigger kind guard hbody hsubs hkind tally
  footer _ := .line (by decide)

end Lines

/-- In a program for a canvas without requests, the import of their library stands only in a text of
the user's. -/
theorem request_infix_program_iff
    {catalog : Catalog}
    {mode : Traversal}
    {canvas : Canvas}
    (hrequest : usesAny canvas.types requestTypes = false)
    {program : Text}
    (h : dialect.program catalog mode canvas = .ok program) :
    requestPhrase <:+: program ↔ dialect.Spells catalog mode canvas requestPhrase :=
  quietAbout_dialect.infix_program_iff (.ofTest (by decide)) isSpaced_spelling ⟨2, rfl⟩
    (quiet_header hrequest) h

end BotCanvas.Offside
