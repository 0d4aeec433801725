import BotCanvas.Braced.Actions
import BotCanvas.Proofs.Program.Failure

/-!
# Runs of actions in the language with braces

The actions declare constants and variables, and but for two of them they do nothing else that could
fail. So what is closed under sequence and holds of the constants and variables holds of every
action that does not count (`emitAction_closed_of`).

Two actions count something, a pause and a silence. The library counts both in milliseconds, so the
product must stay in range too. No other action fails.
-/

namespace BotCanvas.Braced

open Emit (FailsOnly)

variable (s : Subject)

/-! ## Constants and variables -/

/-- The bases of the constants that statements ask for. -/
def constantBases : List String :=
  ["embed", "channel", "button", "row", "select", "rowMenu", "modal", "input", "modalRow", "member",
   "connection", "response", "webhookRes"]

section Closed

variable {K : {α : Type} → Emit α → Prop}
variable (hK : Emit.Closed constantBases K)

include hK

theorem embed_closed
    (title description : Piece)
    (colour : Text) :
    K (embed title description colour) :=
  hK.bind (hK.fresh _ (by decide)) fun _ => hK.pure _

theorem reply_closed :
    K (reply s) := by
  unfold reply
  simp only
  split
  · exact hK.bind (embed_closed hK _ _ _) fun _ => hK.pure _
  · exact hK.pure _

theorem messageChannel_closed :
    K (messageChannel s) := by
  unfold messageChannel
  simp only
  split
  · exact hK.pure _
  · exact hK.bind (hK.fresh _ (by decide)) fun _ => hK.pure _

theorem sendMessage_closed :
    K (sendMessage s) := by
  refine hK.bind (messageChannel_closed s hK) fun _ => ?_
  simp only
  split
  · exact hK.bind (embed_closed hK _ _ _) fun _ => hK.pure _
  · exact hK.pure _

theorem sendEmbed_closed :
    K (sendEmbed s) :=
  hK.bind (embed_closed hK _ _ _) fun _ => hK.pure _

theorem addButton_closed :
    K (addButton s) :=
  hK.bind (hK.fresh _ (by decide)) fun _ => hK.bind (hK.fresh _ (by decide)) fun _ => hK.pure _

theorem addSelectMenu_closed :
    K (addSelectMenu s) :=
  hK.bind (hK.fresh _ (by decide)) fun _ => hK.bind (hK.fresh _ (by decide)) fun _ => hK.pure _

theorem showModal_closed :
    K (showModal s) :=
  hK.bind (hK.fresh _ (by decide)) fun _ => hK.bind (hK.fresh _ (by decide)) fun _ =>
    hK.bind (hK.fresh _ (by decide)) fun _ => hK.pure _

theorem voiceLeave_closed :
    K (voiceLeave s) :=
  hK.bind (hK.fresh _ (by decide)) fun _ => hK.pure _

theorem assign_closed
    (name : Text)
    (expression : List Piece) :
    K (assign name expression) :=
  hK.bind (hK.declare _) fun _ => hK.pure _

theorem stringManipulation_closed :
    K (stringManipulation s) := by
  unfold stringManipulation
  simp only
  split
  · exact assign_closed hK _ _
  · exact hK.pure _

theorem mathAdvanced_closed :
    K (mathAdvanced s) := by
  unfold mathAdvanced
  simp only
  split
  · exact assign_closed hK _ _
  · exact hK.pure _

theorem httpRequest_closed :
    K (httpRequest s) :=
  hK.bind (hK.fresh _ (by decide)) fun _ => hK.bind (assign_closed hK _ _) fun _ => hK.pure _

theorem webhookSend_closed :
    K (webhookSend s) :=
  hK.bind (hK.fresh _ (by decide)) fun _ => hK.pure _

/-- A closed kind holds of an action if it holds of those that count. -/
theorem emitAction_closed_of
    (htimeout : s.block.type = "member_timeout" → K (timeout s))
    (hwait : s.block.type = "wait" → K (wait s)) :
    K (dialect.emitAction s) := by
  have hactions : ∀ p ∈ actions, s.block.type = p.1 → K (p.2 s) := by
    simp only [actions, List.forall_mem_cons]
    refine ⟨fun _ => reply_closed s hK, fun _ => sendMessage_closed s hK, fun _ => hK.pure _,
      fun _ => hK.pure _, fun _ => hK.pure _, fun _ => sendEmbed_closed s hK, fun _ => hK.pure _,
      fun _ => hK.pure _, fun _ => hK.pure _, fun _ => addButton_closed s hK,
      fun _ => addSelectMenu_closed s hK, fun _ => showModal_closed s hK, fun _ => hK.pure _,
      fun _ => hK.pure _, htimeout, fun _ => hK.pure _, fun _ => hK.pure _, fun _ => hK.pure _,
      fun _ => hK.pure _, fun _ => hK.pure _, fun _ => hK.pure _, fun _ => voiceLeave_closed s hK,
      hwait, fun _ => assign_closed hK _ _, fun _ => stringManipulation_closed s hK,
      fun _ => mathAdvanced_closed s hK, fun _ => httpRequest_closed s hK,
      fun _ => webhookSend_closed s hK, fun _ h => by cases h⟩
  exact Dialect.emitAction_closed hK fun action h => hactions _ h rfl

end Closed

/-! ## Numbers -/

/-- The minutes of a silence, in milliseconds. -/
def silence : Quantity := ⟨"member_timeout", "minutes", 10, 60000⟩

/-- The seconds of a pause, in milliseconds. -/
def pause : Quantity := ⟨"wait", "duration", 1, 1000⟩

/-- What blocks count. -/
def quantities : List Quantity := [silence, pause]

theorem timeout_failsOnly :
    FailsOnly (fun e => e = .wholeTooLarge ∧ ¬silence.Fits s) (timeout s) := by
  refine .of_succeeds ?_ fun hfits => ?_
  · refine FailsOnly.bind (.fresh _) fun _ => ?_
    refine FailsOnly.bind (.number fun e => Value.asNumber_error) fun _ => ?_
    exact FailsOnly.bind (.normalise fun e => Number.normalise_error) fun _ => .pure _
  · obtain ⟨n, m, hn, hm⟩ := hfits.exists_numbers (by decide +kernel)
    refine FailsOnly.bind (.fresh _) fun _ => FailsOnly.number_bind hn ?_
    exact FailsOnly.bind (.normalise fun e he => by cases hm.symm.trans he) fun _ => .pure _

theorem wait_failsOnly :
    FailsOnly (fun e => e = .wholeTooLarge ∧ ¬pause.Fits s) (wait s) := by
  refine .of_succeeds ?_ fun hfits => ?_
  · refine FailsOnly.bind (.number fun e => Value.asNumber_error) fun _ => ?_
    exact FailsOnly.bind (.normalise fun e => Number.normalise_error) fun _ => .pure _
  · obtain ⟨n, m, hn, hm⟩ := hfits.exists_numbers (by decide +kernel)
    refine FailsOnly.number_bind hn ?_
    exact FailsOnly.bind (.normalise fun e he => by cases hm.symm.trans he) fun _ => .pure _

/-- An action fails only where a quantity of its block is out of range. -/
theorem emitAction_failsOnly :
    FailsOnly (fun e => e = .wholeTooLarge ∧ ¬s.InRange quantities) (dialect.emitAction s) := by
  refine emitAction_closed_of s (.failsOnly _) (fun htype => ?_) fun htype => ?_
  · exact Quantity.failsOnly_of_mem (by simp [quantities]) htype (timeout_failsOnly s)
  · exact Quantity.failsOnly_of_mem (by simp [quantities]) htype (wait_failsOnly s)

/-- A program of blocks whose quantities are in range is there. -/
theorem exists_program
    {catalog : Catalog}
    {canvas : Canvas}
    (h : ∀ b ∈ canvas.blocks, (Subject.mk catalog b).InRange quantities)
    (mode : Traversal) :
    ∃ program, dialect.program catalog mode canvas = .ok program := by
  cases hprogram : dialect.program catalog mode canvas with
  | ok program => exact ⟨program, rfl⟩
  | error e =>
      refine (Dialect.program_failsOnly (E := fun _ => False) (fun b hb _ => ?_) hprogram).elim
      exact (emitAction_failsOnly ⟨catalog, b⟩).mono fun _ he => he.2 (h b hb)

end BotCanvas.Braced
