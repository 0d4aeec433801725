import BotCanvas.Offside.Actions
import BotCanvas.Proofs.Program.Failure

/-!
# Runs of actions in the language with suites

The actions give out local names for a few bases, and but for two of them they do nothing else that
could fail. So what is closed under sequence and holds of these names holds of every action that
does not count (`emitAction_closed_of`).

Two actions count something, a pause and a silence. The library takes minutes and seconds as they
are, so nothing but the numbers themselves must be in range. No other action fails.
-/

namespace BotCanvas.Offside

open Emit (FailsOnly)

variable (s : Subject)

/-! ## Local names -/

/-- The bases of the local names that actions ask for. -/
def localBases : List String :=
  ["embed", "channel", "view", "modal", "member", "start_time", "voice_channel", "session", "resp"]

section Closed

variable {K : {α : Type} → Emit α → Prop}
variable (hK : Emit.Closed localBases K)

include hK

theorem embed_closed
    (title description : Piece)
    (colour : Text) :
    K (embed title description colour) :=
  hK.bind (hK.fresh _ (by decide)) fun _ => hK.pure _

theorem reply_closed :
    K (reply s) := by
  unfold reply
  simp only
  split
  · exact hK.bind (embed_closed hK _ _ _) fun _ => hK.pure _
  · exact hK.pure _

theorem messageChannel_closed :
    K (messageChannel s) := by
  unfold messageChannel
  simp only
  split
  · exact hK.pure _
  · exact hK.bind (hK.fresh _ (by decide)) fun _ => hK.pure _

theorem sendMessage_closed :
    K (sendMessage s) := by
  refine hK.bind (messageChannel_closed s hK) fun _ => ?_
  simp only
  split
  · exact hK.bind (embed_closed hK _ _ _) fun _ => hK.pure _
  · exact hK.pure _

theorem sendEmbed_closed :
    K (sendEmbed s) :=
  hK.bind (embed_closed hK _ _ _) fun _ => hK.pure _

theorem addButton_closed :
    K (addButton s) :=
  hK.bind (hK.fresh _ (by decide)) fun _ => hK.pure _

theorem addSelectMenu_closed :
    K (addSelectMenu s) :=
  hK.bind (hK.fresh _ (by decide)) fun _ => hK.pure _

theorem showModal_closed :
    K (showModal s) :=
  hK.bind (hK.fresh _ (by decide)) fun _ => hK.pure _

theorem fetchMember_closed :
    K (fetchMember s) :=
  hK.bind (hK.fresh _ (by decide)) fun _ => hK.pure _

theorem kick_closed :
    K (kick s) :=
  hK.bind (fetchMember_closed s hK) fun _ => hK.pure _

theorem ban_closed :
    K (ban s) :=
  hK.bind (fetchMember_closed s hK) fun _ => hK.pure _

theorem eventSchedule_closed :
    K (eventSchedule s) :=
  hK.bind (hK.fresh _ (by decide)) fun _ => hK.pure _

theorem voiceJoin_closed :
    K (voiceJoin s) :=
  hK.bind (hK.fresh _ (by decide)) fun _ => hK.pure _

theorem stringManipulation_closed :
    K (stringManipulation s) := by
  unfold stringManipulation
  simp only
  split
  · exact hK.pure _
  · exact hK.pure _

theorem mathAdvanced_closed :
    K (mathAdvanced s) := by
  unfold mathAdvanced
  simp only
  split
  · exact hK.pure _
  · exact hK.pure _

theorem httpRequest_closed :
    K (httpRequest s) :=
  hK.bind (hK.fresh _ (by decide)) fun _ => hK.bind (hK.fresh _ (by decide)) fun _ => hK.pure _

theorem webhookSend_closed :
    K (webhookSend s) :=
  hK.bind (hK.fresh _ (by decide)) fun _ => hK.bind (hK.fresh _ (by decide)) fun _ => hK.pure _

/-- A closed kind holds of an action if it holds of those that count. -/
theorem emitAction_closed_of
    (htimeout : s.block.type = "member_timeout" → K (timeout s))
    (hwait : s.block.type = "wait" → K (wait s)) :
    K (dialect.emitAction s) := by
  have hactions : ∀ p ∈ actions, s.block.type = p.1 → K (p.2 s) := by
    simp only [actions, List.forall_mem_cons]
    refine ⟨fun _ => reply_closed s hK, fun _ => sendMessage_closed s hK, fun _ => hK.pure _,
      fun _ => hK.pure _, fun _ => hK.pure _, fun _ => sendEmbed_closed s hK, fun _ => hK.pure _,
      fun _ => hK.pure _, fun _ => hK.pure _, fun _ => addButton_closed s hK,
      fun _ => addSelectMenu_closed s hK, fun _ => showModal_closed s hK, fun _ => kick_closed s hK,
      fun _ => ban_closed s hK, htimeout, fun _ => hK.pure _, fun _ => hK.pure _,
      fun _ => hK.pure _, fun _ => hK.pure _, fun _ => eventSchedule_closed s hK,
      fun _ => voiceJoin_closed s hK, fun _ => hK.pure _, hwait, fun _ => hK.pure _,
      fun _ => stringManipulation_closed s hK, fun _ => mathAdvanced_closed s hK,
      fun _ => httpRequest_closed s hK, fun _ => webhookSend_closed s hK, fun _ h => by cases h⟩
  exact Dialect.emitAction_closed hK fun action h => hactions _ h rfl

end Closed

/-! ## Numbers -/

/-- The minutes of a silence. -/
def silence : Quantity := ⟨"member_timeout", "minutes", 10, 1⟩

/-- The seconds of a pause. -/
def pause : Quantity := ⟨"wait", "duration", 1, 1⟩

/-- What blocks count. -/
def quantities : List Quantity := [silence, pause]

theorem timeout_failsOnly :
    FailsOnly (fun e => e = .wholeTooLarge ∧ ¬silence.Fits s) (timeout s) := by
  refine .of_succeeds ?_ fun hfits => ?_
  · refine FailsOnly.bind (fetchMember_closed s (.failsOnly _)) fun _ => ?_
    exact FailsOnly.bind (.number fun e => Value.asNumber_error) fun _ => .pure _
  · obtain ⟨n, -, hn, -⟩ := hfits.exists_numbers (by decide +kernel)
    refine FailsOnly.bind (fetchMember_closed s (.failsOnly _)) fun _ => ?_
    exact FailsOnly.number_bind hn (.pure _)

theorem wait_failsOnly :
    FailsOnly (fun e => e = .wholeTooLarge ∧ ¬pause.Fits s) (wait s) := by
  refine .of_succeeds ?_ fun hfits => ?_
  · exact FailsOnly.bind (.number fun e => Value.asNumber_error) fun _ => .pure _
  · obtain ⟨n, -, hn, -⟩ := hfits.exists_numbers (by decide +kernel)
    exact FailsOnly.number_bind hn (.pure _)

/-- An action fails only where a quantity of its block is out of range. -/
theorem emitAction_failsOnly :
    FailsOnly (fun e => e = .wholeTooLarge ∧ ¬s.InRange quantities) (dialect.emitAction s) := by
  refine emitAction_closed_of s (.failsOnly _) (fun htype => ?_) fun htype => ?_
  · exact Quantity.failsOnly_of_mem (by simp [quantities]) htype (timeout_failsOnly s)
  · exact Quantity.failsOnly_of_mem (by simp [quantities]) htype (wait_failsOnly s)

/-- A program of blocks whose quantities are in range is there. -/
theorem exists_program
    {catalog : Catalog}
    {canvas : Canvas}
    (h : ∀ b ∈ canvas.blocks, (Subject.mk catalog b).InRange quantities)
    (mode : Traversal) :
    ∃ program, dialect.program catalog mode canvas = .ok program := by
  cases hprogram : dialect.program catalog mode canvas with
  | ok program => exact ⟨program, rfl⟩
  | error e =>
      refine (Dialect.program_failsOnly (E := fun _ => False) (fun b hb _ => ?_) hprogram).elim
      exact (emitAction_failsOnly ⟨catalog, b⟩).mono fun _ he => he.2 (h b hb)

end BotCanvas.Offside
