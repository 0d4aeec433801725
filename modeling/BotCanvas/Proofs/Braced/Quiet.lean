import BotCanvas.Proofs.Braced.Balance
import BotCanvas.Proofs.Program.Quiet

/-!
# The voice library in programs with braces

No statement, branch or handler names the voice library, nor does the footer; the header names it
only if a block uses voice channels. So a program without such blocks names it only in a text of the
user's.
-/

namespace BotCanvas.Braced

/-- Code that does not name the voice library by itself. -/
abbrev Quiet (c : Code) : Prop :=
  c.Quiet voicePhrase

/-- Statements of an action do not name the voice library. -/
theorem gives_quiet
    (s : Subject) :
    Emit.Gives Quiet (dialect.emitAction s) := by
  refine Emit.Gives.of_alike (emitAction_alike (.refl _ s) (.any s)) fun c hc => ?_
  refine .ofEvery (fun pieces hpieces => ?_) hc.2
  have hform := hpieces.2
  rw [isStatement, Bool.and_eq_true, Bool.and_eq_true] at hform
  exact hform.2.2

section Lines

variable {body : Code}

-- forms are decided character by character
set_option maxRecDepth 20000

theorem quiet_noop :
    Quiet (.written noop) :=
  .written (by decide)

theorem quiet_choice
    (s : Subject)
    {yes no : Code}
    (hyes : Quiet yes)
    (hno : Quiet no) :
    Quiet (choice s yes no) := by
  have htest : isQuiet voicePhrase
      ((Piece.code "if (" :: (condition s ++ [.code ") \x7b"])).map Piece.slot) = true := by
    unfold condition
    split
    · simp
      decide
    · split <;> simp <;> decide
  have hrest : isQuiet voicePhrase [.code "\x7d else \x7b"] = true ∧
      isQuiet voicePhrase [.code "\x7d"] = true := by
    decide
  simpa [choice, hyes, hno, hrest] using htest

theorem quiet_gate
    (s : Subject)
    {denied allowed : Option Code}
    (hdenied : ∀ c ∈ denied, Quiet c)
    (hallowed : ∀ c ∈ allowed, Quiet c) :
    Quiet (gate s denied allowed) := by
  have htest : isQuiet voicePhrase
      [.code "if (!interaction.", .code (permissionSource s.block.type),
        .code "?.has(PermissionFlagsBits.", .name, .code ")) \x7b"] = true := by
    unfold permissionSource
    split <;> decide
  have hanswer : Quiet (denied.getD denial) := by
    cases denied with
    | none => exact .line (by decide)
    | some c => exact hdenied c rfl
  have hrest : isQuiet voicePhrase [.code "return;"] = true ∧
      isQuiet voicePhrase [.code "\x7d"] = true := by
    decide
  refine .stack (List.forall_mem_cons.2 ⟨.line htest, ?_⟩)
  simpa [hanswer, hrest] using hallowed

theorem quiet_recovery
    (s : Subject)
    (hbody : Quiet body) :
    Quiet (recovery s body) := by
  have herror : Quiet
      (if s.flag "logToConsole" then
        .line ["console.error('", s.literal "errorMessage", "', error);"]
      else .written noop) := by
    split
    · exact .line (by simp; decide)
    · exact quiet_noop
  simp [recovery, hbody, herror]
  decide

theorem quiet_guarded
    (label : Text)
    (hbody : Quiet body)
    (reply : Bool) :
    Quiet (guarded label body reply) := by
  cases reply <;> simp [guarded, replyLines, hbody] <;> decide

theorem quiet_onInteraction
    {test : List Piece}
    (htest : isQuiet voicePhrase
      ((Piece.code "  if (" :: (test ++ [.code ") \x7b"])).map Piece.slot) = true)
    (hbody : Quiet body) :
    Quiet (onInteraction test body) := by
  have hframe : isQuiet voicePhrase
        [.code "client.on('interactionCreate', async (interaction) => \x7b"] = true ∧
      isQuiet voicePhrase [.code "  \x7d"] = true ∧ isQuiet voicePhrase [.code "\x7d);"] = true := by
    decide
  simpa [onInteraction, hbody, hframe] using htest

theorem quiet_slashChain
    (hbody : Quiet body) :
    Quiet (slashChain body) := by
  simp [slashChain, hbody]
  decide

theorem quiet_dispatch
    {subcommands : List Subcommand}
    (h : ∀ sub ∈ subcommands, Quiet sub.body) :
    Quiet (dispatch subcommands) := by
  have hopening : ∀ index : Nat, isQuiet voicePhrase
      [.code (if index = 0 then "if" else "\x7d else if"), .code " (subcommand === '", .literal,
        .code "') \x7b"] = true := by
    intro index
    split <;> decide
  refine .stack (List.forall_mem_cons.2 ⟨.line (by decide), fun c hc => ?_⟩)
  rcases List.mem_append.1 hc with hc | hc
  · obtain ⟨⟨sub, index⟩, hsub, hc⟩ := List.mem_flatMap.1 hc
    rcases List.mem_pair.1 hc with rfl | rfl
    · exact .line (hopening index)
    · exact .nest (h sub (List.fst_mem_of_mem_zipIdx hsub))
  · rw [List.mem_singleton.1 hc]
    exact .line (by decide)

/-- The handler of a trigger does not name the voice library if its code does not. -/
theorem quiet_handler
    (kind : TriggerKind)
    (guard : Text)
    {subcommands : List Subcommand}
    (hbody : subcommands = [] → Quiet body)
    (hsubs : ∀ sub ∈ subcommands, Quiet sub.body)
    (hkind : kind ≠ .slash → subcommands = []) :
    Quiet (handler kind guard body subcommands) := by
  have hguarded : ∀ {test : Prop} [Decidable test] {body label reply}, Quiet body →
      Quiet (if test then body else guarded label body reply) := by
    intro test _ body label reply h
    split
    · exact h
    · exact quiet_guarded label h reply
  unfold handler
  cases kind with
  | slash =>
      simp only
      split
      · rename_i hempty
        refine quiet_onInteraction (by simp; decide) (hguarded ?_)
        exact quiet_slashChain (hbody (List.isEmpty_iff.1 hempty))
      · refine quiet_onInteraction (by simp; decide) ?_
        exact quiet_guarded guard (quiet_dispatch hsubs) true
  | component =>
      exact quiet_onInteraction (by simp; decide) (hguarded (hbody (hkind (by simp))))
  | event =>
      have hframe : isQuiet voicePhrase
          [.code "client.on('", .name, .code "', async (interaction) => \x7b"] = true ∧
          isQuiet voicePhrase [.code "\x7d);"] = true := by
        decide
      have hown : Quiet (if isNoop body then body else guarded (eventName guard) body false) :=
        hguarded (hbody (hkind (by simp)))
      simpa [hown] using hframe

theorem quiet_registration
    (spec : CommandSpec) :
    ∀ c ∈ registration spec, Quiet c := by
  unfold registration description
  simp only
  split
  · simp
    decide
  · refine List.forall_mem_cons.2 ⟨.line (by simp; decide), ?_⟩
    refine List.forall_mem_cons.2 ⟨.line (by decide), fun c hc => ?_⟩
    rcases List.mem_append.1 hc with hc | hc
    · obtain ⟨⟨name, summary⟩, -, rfl⟩ := List.mem_map.1 hc
      exact .line (by simp; decide)
    · have hclosing : ∀ c ∈ (["    ],", "  \x7d,"] : List Code), Quiet c := by
        simp
        decide
      exact hclosing c hc

/-- The footer does not name the voice library. -/
theorem quiet_footer
    (commands : List CommandSpec) :
    Quiet (footer commands) := by
  have hstart : ∀ c ∈ startLines, Quiet c := by
    simp [startLines]
    decide
  refine .stack (List.forall_mem_cons.2 ⟨.line (by decide), fun c hc => ?_⟩)
  rcases List.mem_append.1 hc with hc | hc
  · obtain ⟨spec, -, hc⟩ := List.mem_flatMap.1 hc
    exact quiet_registration spec c hc
  · exact hstart c hc

/-- The header does not name the voice library if no block uses voice channels. -/
theorem quiet_header
    {types : List String}
    (h : usesAny types voiceTypes = false) :
    Quiet (header types) := by
  simp [header, h, importLines, clientLines]
  decide

/-- The language with braces does not name the voice library outside its header. -/
theorem quietAbout_dialect :
    dialect.QuietAbout voicePhrase where
  action := gives_quiet
  choice s _ _ hyes hno := quiet_choice s hyes hno
  gate s _ _ hdenied hallowed := quiet_gate s hdenied hallowed
  recovery s _ hbody := quiet_recovery s hbody
  idle := quiet_noop
  suite _ hbody := hbody
  handler _ _ kind guard _ _ _ hbody hsubs hkind := quiet_handler kind guard hbody hsubs hkind
  footer := quiet_footer

end Lines

/-- A program for a canvas without voice channels names the voice library only in a text of the
user's. -/
theorem voice_infix_program_iff
    {catalog : Catalog}
    {mode : Traversal}
    {canvas : Canvas}
    (hvoice : usesAny canvas.types voiceTypes = false)
    {program : Text}
    (h : dialect.program catalog mode canvas = .ok program) :
    voicePhrase <:+: program ↔ dialect.Spells catalog mode canvas voicePhrase :=
  quietAbout_dialect.infix_program_iff (.ofTest (by decide)) isSpaced_spelling ⟨1, rfl⟩
    (quiet_header hvoice) h

end BotCanvas.Braced
