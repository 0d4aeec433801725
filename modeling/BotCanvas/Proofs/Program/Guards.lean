import BotCanvas.Catalog.Builtin
import BotCanvas.Program.Target
import BotCanvas.Proofs.Program.Marks

/-!
# Guards of handlers

A handler is guarded exactly if it does something: the line that does nothing is left bare, and
only an empty flow is that line (`Dialect.handlerBody_emitFlow`). The decision is made by comparing
texts, but no text of a block can turn it: every step is written with a mark, which that line lacks.

**Marks.** Every statement calls something or assigns to something; a branch has a test, ends a line
with a colon or catches an error; and a remark in place of statements names what it stands for
behind a colon.

**Chains.** In the language with braces the handler of a slash command holds its statements three
times, in a chain of branches. It is the chain that is guarded then, and the statements that decide.
-/

namespace BotCanvas

open Emit (Gives)
open Code (Marked)

/-! ## Marks in the language with braces -/

namespace Braced

variable (s : Subject)

theorem reply_marked :
    Gives Marked (reply s) := by
  unfold reply
  dsimp only
  split
  · exact .after _ fun (_, code) => .pure (.last [code] rfl)
  · exact .pure (.line rfl)

theorem sendMessage_marked :
    Gives Marked (sendMessage s) := by
  refine .after _ fun (fetch, target) => ?_
  dsimp only
  split
  · refine .after _ fun (name, code) => .pure ?_
    rw [List.append_cons]
    exact .last (fetch ++ [code]) rfl
  · exact .pure (.last fetch rfl)

theorem sendEmbed_marked :
    Gives Marked (sendEmbed s) :=
  .after _ fun (_, code) => .pure (.last [code] rfl)

theorem addButton_marked :
    Gives Marked (addButton s) :=
  .after _ fun _ => .after _ fun _ => .pure (.line rfl)

theorem addSelectMenu_marked :
    Gives Marked (addSelectMenu s) :=
  .after _ fun _ => .after _ fun _ => .pure (.line rfl)

theorem showModal_marked :
    Gives Marked (showModal s) :=
  .after _ fun _ => .after _ fun _ => .after _ fun _ => .pure (.line rfl)

theorem timeout_marked :
    Gives Marked (timeout s) :=
  .after _ fun _ => .after _ fun _ => .after _ fun _ => .pure (.line rfl)

theorem wait_marked :
    Gives Marked (wait s) :=
  .after _ fun _ => .after _ fun _ => .pure (.line rfl)

/-- An assignment is marked by its equals sign, declared or not. -/
theorem assign_marked
    (name : Text)
    (expression : List Piece) :
    Gives Marked (assign name expression) := by
  refine .after _ fun first => .pure (.line ?_)
  cases first <;> rfl

/-- An operation on a text or on numbers assigns its result, or is named in a remark. -/
theorem stringManipulation_marked :
    Gives Marked (stringManipulation s) := by
  unfold stringManipulation
  dsimp only
  split
  · exact assign_marked _ _
  · exact .pure (Code.marked_remarkLine _ (by simp))

theorem mathAdvanced_marked :
    Gives Marked (mathAdvanced s) := by
  unfold mathAdvanced
  dsimp only
  split
  · exact assign_marked _ _
  · exact .pure (Code.marked_remarkLine _ (by simp))

theorem httpRequest_marked :
    Gives Marked (httpRequest s) :=
  .after _ fun _ => .after _ fun _ => .pure (.stack List.mem_cons_self (.line rfl))

theorem webhookSend_marked :
    Gives Marked (webhookSend s) :=
  .after _ fun _ => .pure (.line rfl)

theorem voiceLeave_marked :
    Gives Marked (voiceLeave s) :=
  .after _ fun _ => .pure (.line rfl)

/-- Every action is marked. -/
theorem actions_marked :
    ∀ entry ∈ actions, ∀ s, Gives Marked (entry.2 s) := by
  unfold actions
  simp only [List.forall_mem_cons, List.not_mem_nil, false_imp_iff, implies_true, and_true]
  refine ⟨reply_marked, sendMessage_marked, ?_, ?_, ?_, sendEmbed_marked, ?_, ?_, ?_,
    addButton_marked, addSelectMenu_marked, showModal_marked, ?_, ?_, timeout_marked, ?_, ?_, ?_,
    ?_, ?_, ?_, voiceLeave_marked, wait_marked, fun s => assign_marked _ _,
    stringManipulation_marked, mathAdvanced_marked, httpRequest_marked, webhookSend_marked⟩
  -- the others are a single line with a call in it
  all_goals exact fun s => .pure (.line rfl)

/-- The language with braces marks what it emits, except for the line that does nothing. -/
theorem marking : dialect.Marking where
  unmarked := by decide
  trimmed := by decide
  action := actions_marked
  choice _ _ _ := .stack List.mem_cons_self (.line rfl)
  gate _ _ _ := .stack List.mem_cons_self (.line rfl)
  recovery _ _ := .stack (c := "\x7d catch (error) \x7b") (by simp) (.line rfl)
  suite _ h := h
  guarded _ _ _ := .stack (c := "\x7d catch (error) \x7b") (by simp) (.line rfl)

end Braced

/-! ## Marks in the language with suites -/

namespace Offside

variable (s : Subject)

theorem reply_marked :
    Gives Marked (reply s) := by
  unfold reply
  dsimp only
  split
  · exact .after _ fun (_, code) => .pure (.last [code] rfl)
  · exact .pure (.line rfl)

theorem sendMessage_marked :
    Gives Marked (sendMessage s) := by
  refine .after _ fun (fetch, target) => ?_
  dsimp only
  split
  · refine .after _ fun (name, code) => .pure ?_
    rw [List.append_cons]
    exact .last (fetch ++ [code]) rfl
  · exact .pure (.last fetch rfl)

theorem sendEmbed_marked :
    Gives Marked (sendEmbed s) :=
  .after _ fun (_, code) => .pure (.last [code] rfl)

theorem addButton_marked :
    Gives Marked (addButton s) :=
  .after _ fun _ => .pure (.line rfl)

theorem addSelectMenu_marked :
    Gives Marked (addSelectMenu s) :=
  .after _ fun _ => .pure (.line rfl)

theorem showModal_marked :
    Gives Marked (showModal s) :=
  .after _ fun _ => .pure (.line rfl)

theorem kick_marked :
    Gives Marked (kick s) :=
  .after _ fun (_, fetch) => .pure (.last [fetch] rfl)

theorem ban_marked :
    Gives Marked (ban s) :=
  .after _ fun (_, fetch) => .pure (.last [fetch] rfl)

theorem timeout_marked :
    Gives Marked (timeout s) :=
  .after _ fun (_, fetch) => .after _ fun _ => .pure (.last [fetch] rfl)

theorem eventSchedule_marked :
    Gives Marked (eventSchedule s) :=
  .after _ fun _ => .pure (.line rfl)

theorem voiceJoin_marked :
    Gives Marked (voiceJoin s) :=
  .after _ fun _ => .pure (.line rfl)

theorem wait_marked :
    Gives Marked (wait s) :=
  .after _ fun _ => .pure (.line rfl)

/-- An assignment is marked by its equals sign. -/
theorem assign_marked
    (name : Text)
    (expression : List Piece) :
    (assign name expression).Marked :=
  .line rfl

/-- An operation on a text or on numbers assigns its result, or is named in a remark. -/
theorem stringManipulation_marked :
    Gives Marked (stringManipulation s) := by
  unfold stringManipulation
  dsimp only
  split
  · exact .pure (assign_marked _ _)
  · exact .pure (Code.marked_remarkLine _ (by simp))

theorem mathAdvanced_marked :
    Gives Marked (mathAdvanced s) := by
  unfold mathAdvanced
  dsimp only
  split
  · exact .pure (assign_marked _ _)
  · exact .pure (Code.marked_remarkLine _ (by simp))

theorem httpRequest_marked :
    Gives Marked (httpRequest s) :=
  .after _ fun _ => .after _ fun _ => .pure (.line rfl)

theorem webhookSend_marked :
    Gives Marked (webhookSend s) :=
  .after _ fun _ => .after _ fun _ => .pure (.line rfl)

/-- Every action is marked. -/
theorem actions_marked :
    ∀ entry ∈ actions, ∀ s, Gives Marked (entry.2 s) := by
  unfold actions
  simp only [List.forall_mem_cons, List.not_mem_nil, false_imp_iff, implies_true, and_true]
  refine ⟨reply_marked, sendMessage_marked, ?_, ?_, ?_, sendEmbed_marked, ?_, ?_, ?_,
    addButton_marked, addSelectMenu_marked, showModal_marked, kick_marked, ban_marked,
    timeout_marked, ?_, ?_, ?_, ?_, eventSchedule_marked, voiceJoin_marked, ?_, wait_marked,
    fun s => .pure (assign_marked _ _), stringManipulation_marked, mathAdvanced_marked,
    httpRequest_marked, webhookSend_marked⟩
  -- the others are a single piece of program text with a call in it
  all_goals exact fun s => .pure (.line rfl)

/-- The first line of a choice ends with a colon behind its condition. -/
theorem choice_marked
    (yes no : Code) :
    (choice s yes no).Marked := by
  refine .stack List.mem_cons_self (.line (List.any_eq_true.2 ⟨.code ":", ?_, rfl⟩))
  simp

/-- A suite keeps its marks. -/
theorem suite_marked
    {body : Code}
    (h : body.Marked) :
    (suite body).Marked := by
  unfold suite
  split
  · exact .stack List.mem_cons_self h
  · exact h

/-- The language with suites marks what it emits, except for the line that does nothing. -/
theorem marking : dialect.Marking where
  unmarked := by decide
  trimmed := by decide
  action := actions_marked
  choice := choice_marked
  gate s _ _ := .stack List.mem_cons_self (.line (List.any_eq_true.2 ⟨.code ":", by simp, rfl⟩))
  recovery _ _ := .stack List.mem_cons_self (.line rfl)
  suite _ h := suite_marked h
  guarded _ _ _ := .stack List.mem_cons_self (.line rfl)

end Offside

/-! ## Guards -/

/-- Both languages mark what they emit. -/
theorem Dialect.marking_of_mem_all
    {d : Dialect}
    (hd : d ∈ Dialect.all) :
    d.Marking := by
  rcases Dialect.mem_all.1 hd with rfl | rfl
  · exact Braced.marking
  · exact Offside.marking

/-- The functions that answer interactions hold the bodies that every dialect gives its handlers. -/
theorem Offside.handlerBody_eq
    (label : Text)
    (body : Code)
    (reply : Bool) :
    Offside.handlerBody label body reply = Offside.dialect.handlerBody label body reply :=
  rfl

namespace Braced

/-- A chain of branches is not written as its guard is. -/
theorem write_guarded_ne_slashChain
    (guard : Text)
    (body : Code) :
    dialect.write (guarded guard (slashChain body) true) ≠ dialect.write (slashChain body) := by
  intro heq
  have hguarded : (dialect.write (guarded guard (slashChain body) true)).head? = some 't' := rfl
  have hchain : (dialect.write (slashChain body)).head? = some 'i' := rfl
  rw [heq, hchain] at hguarded
  exact absurd hguarded (by decide)

/-- The handler of a slash command without subcommands holds its chain bare if its flow is empty,
and guards it otherwise. -/
theorem handler_slash_eq
    {catalog : Catalog}
    {flow : List Step}
    {σ σ' : Scope}
    {code : Code}
    (h : (dialect.emitFlow catalog flow).run.run σ = (.ok code, σ'))
    (guard : Text) :
    handler .slash guard code [] =
      onInteraction ["interaction.commandName === '", .literal guard, "'"]
        (if flow = [] then slashChain code else guarded guard (slashChain code) true) := by
  have hnoop : isNoop code = true ↔ flow = [] := marking.isNoop_iff h
  simp only [handler, List.isEmpty_nil, if_true, hnoop]

end Braced

/-- For each language: the body of a handler is the bare line that does nothing if and only if its
flow is empty, and otherwise the guarded code of the flow. The same holds for the chain of branches
of a slash command without subcommands in the language with braces. -/
theorem Dialect.handlerBody_emitFlow
    {d : Dialect}
    (hd : d ∈ Dialect.all)
    {catalog : Catalog}
    {flow : List Step}
    {σ σ' : Scope}
    {code : Code}
    (h : (d.emitFlow catalog flow).run.run σ = (.ok code, σ')) :
    (∀ label reply,
      (d.write (d.handlerBody label code reply) = d.noop ↔ flow = []) ∧
      (flow ≠ [] → d.handlerBody label code reply = d.guarded label code reply)) ∧
    (d = Braced.dialect → ∀ guard, ∃ chain,
      Braced.handler .slash guard code [] =
        Braced.onInteraction ["interaction.commandName === '", .literal guard, "'"] chain ∧
      (d.write chain = d.write (Braced.slashChain code) ↔ flow = []) ∧
      (flow ≠ [] → chain = d.guarded guard (Braced.slashChain code) true)) := by
  have hmarking := marking_of_mem_all hd
  refine ⟨fun label reply => ?_, ?_⟩
  · rw [hmarking.handlerBody_eq h label reply]
    by_cases hflow : flow = []
    · rw [if_pos hflow]
      exact ⟨iff_of_true rfl hflow, fun hne => absurd hflow hne⟩
    · rw [if_neg hflow]
      exact ⟨iff_of_false (hmarking.write_guarded_ne label code reply) hflow, fun _ => rfl⟩
  · rintro rfl guard
    refine ⟨_, Braced.handler_slash_eq h guard, ?_⟩
    by_cases hflow : flow = []
    · rw [if_pos hflow]
      exact ⟨iff_of_true rfl hflow, fun hne => absurd hflow hne⟩
    · rw [if_neg hflow]
      exact ⟨iff_of_false (Braced.write_guarded_ne_slashChain guard code) hflow, fun _ => rfl⟩

/-- A step of an unknown type, named like the line that does nothing. -/
def posingStep : Step :=
  .plain ⟨"1", "Define logic components...", .zero, .zero, [], "", ""⟩

/-- That step is guarded, although its code is a remark only. -/
theorem Dialect.handlerBody_posingStep :
    ∃ code σ,
      Braced.dialect ∈ Dialect.all ∧
      (Braced.dialect.emitFlow .builtin [posingStep]).run.run .empty = (.ok code, σ) ∧
      Braced.dialect.handlerBody "ping" code true = Braced.dialect.guarded "ping" code true ∧
      Braced.dialect.write (Braced.dialect.handlerBody "ping" code true) ≠ Braced.noop := by
  have hguards := handlerBody_emitFlow (d := Braced.dialect) List.mem_cons_self
    (show (Braced.dialect.emitFlow .builtin [posingStep]).run.run .empty = (.ok _, _) from rfl)
  obtain ⟨hbare, hguarded⟩ := hguards.1 "ping" true
  exact ⟨_, _, List.mem_cons_self, rfl, hguarded (by simp), fun heq => by simpa using hbare.1 heq⟩

end BotCanvas
