import BotCanvas.Braced.Actions
import BotCanvas.Proofs.Braced.RowForms
import BotCanvas.Proofs.Braced.Requests
import BotCanvas.Proofs.Braced.Statements

/-!
# Requests of actions

What the statements of each block type ask for (`actionRequests`). Their text declares and assigns to
the names in the answers and to no others, whatever texts the block holds, and opens no blocks
(`emitAction_writes`).
-/

namespace BotCanvas.Braced

open Lexis
open Text (IsVariable)

@[simp] theorem lineFeed_not_mem_inserted_code
    (s : String) :
    '\n' ∉ inserted (.code s) :=
  List.not_mem_nil

@[simp] theorem lineFeed_not_mem_inserted_literal
    (t : Text) :
    '\n' ∉ inserted (.literal t) :=
  not_mem_escape t (.inl rfl)

@[simp] theorem lineFeed_not_mem_inserted_subject
    (s : Subject)
    (key : String) :
    '\n' ∉ inserted (s.literal key) :=
  not_mem_escape _ (.inl rfl)

@[simp] theorem lineFeed_not_mem_inserted_literalOr
    (s : Subject)
    (key fallback : String) :
    '\n' ∉ inserted (s.literalOr key fallback) :=
  not_mem_escape _ (.inl rfl)

@[simp] theorem lineFeed_not_mem_inserted_boolWord
    (b : Bool) :
    '\n' ∉ inserted (boolWord b) :=
  List.not_mem_nil

@[simp] theorem inserted_name
    (t : Text) :
    inserted (.name t) = t :=
  rfl

/-- A line of which the form says that it asks for nothing. -/
theorem Writes.quiet
    {pieces : List Piece}
    (hform : formRows (pieces.map Piece.slot) = some [])
    (hrows : ∀ x ∈ pieces, '\n' ∉ inserted x) :
    Writes [] (pure (.line pieces)) :=
  .pure (codeEffects_line [] hform hrows (by simp))

section Actions

-- forms are decided character by character
set_option maxRecDepth 20000

variable (s : Subject)

/-- What statements ask for that need a constant in one case only. -/
def requestIf (needed : Bool) (base : String) : List Request :=
  if needed then [.constant base] else []

/-- An embed asks for its name. -/
theorem embed_asks
    (t u : Text)
    {colour : Text}
    (hcolour : '\n' ∉ colour) :
    Asks [.item (.constant "embed")]
      (fun answers a => codeEffects a.2 = answers ∧ IsVariable a.1)
      (embed (.literal t) (.literal u) colour) := by
  refine .fresh (by decide) fun name hname => .pure ⟨?_, hname⟩
  refine codeEffects_line [.bound .constant 1] (by simp; decide) ?_ (by simpa using hname)
  simp [hname.lineFeed_not_mem, hcolour]

theorem messageEmbed_asks :
    Asks [.item (.constant "embed")]
      (fun answers a => codeEffects a.2 = answers ∧ IsVariable a.1)
      (messageEmbed s) :=
  embed_asks _ _ (isName_asColour _).lineFeed_not_mem

theorem reply_writes :
    Writes ((requestIf (s.flag "useEmbed") "embed").map .item) (reply s) := by
  unfold reply requestIf
  simp only
  split
  · refine (messageEmbed_asks s).last ?_
    rintro answers ⟨name, code⟩ ⟨hcode, hname⟩
    refine .pure ?_
    have hsend : codeEffects (.line ["await interaction.reply(\x7b embeds: [", .name name,
        "], ephemeral: ", boolWord (s.flag "ephemeral"), " \x7d);"]) = [] := by
      refine codeEffects_line [] ?_ (by simp [hname.lineFeed_not_mem]) (by simp)
      cases s.flag "ephemeral" <;> simp <;> decide
    rw [codeEffects_stack (by simp)]
    simp [hcode, hsend]
  · refine .quiet ?_ (by simp)
    cases s.flag "ephemeral" <;> simp <;> decide

/-- The channel of a message: it is asked for unless the message goes where it came from. -/
theorem messageChannel_asks :
    Asks ((requestIf (!(Text.strip (s.value "channel_id").display).isEmpty) "channel").map .item)
      (fun answers a => a.1.flatMap codeEffects = answers ∧ IsPath a.2 ∧ '\n' ∉ a.2)
      (messageChannel s) := by
  unfold messageChannel requestIf
  generalize Text.strip (s.value "channel_id").display = channel
  simp only
  by_cases hempty : channel.isEmpty = true
  · rw [if_pos hempty, if_neg (by simp [hempty])]
    exact .pure ⟨rfl, ⟨by decide, List.all_eq_true.1 (by decide)⟩, by decide⟩
  · rw [if_neg hempty, if_pos (by simp [hempty])]
    refine .fresh (by decide) fun name hname =>
      .pure ⟨?_, isPath_of_isVariable hname, hname.lineFeed_not_mem⟩
    rw [List.flatMap_singleton]
    exact codeEffects_line [.bound .constant 1] (by simp; decide)
      (by simp [hname.lineFeed_not_mem]) (by simpa using hname)

theorem sendMessage_writes :
    Writes ((requestIf (!(Text.strip (s.value "channel_id").display).isEmpty) "channel" ++
        requestIf (s.flag "useEmbed") "embed").map .item)
      (sendMessage s) := by
  rw [List.map_append]
  refine (messageChannel_asks s).bind ?_
  rintro answers ⟨fetch, target⟩ ⟨hfetch, htarget, hrow⟩
  unfold requestIf
  simp only
  split
  · refine (messageEmbed_asks s).last ?_
    rintro answers' ⟨name, code⟩ ⟨hcode, hname⟩
    refine .pure ?_
    have hsend : codeEffects (.line ["await ", .name target, ".send(\x7b embeds: [",
        .name name, "] \x7d);"]) = [] :=
      codeEffects_line [.path 1] (by simp; decide) (by simp [hname.lineFeed_not_mem, hrow])
        (by simpa using htarget)
    rw [codeEffects_stack (by simp), List.flatMap_append, hfetch]
    simp [hcode, hsend]
  · refine .pure ?_
    have hsend : codeEffects (.line ["await ", .name target, ".send(\x7b content: \x60",
        s.literal "content", "\x60 \x7d);"]) = [] :=
      codeEffects_line [.path 1] (by simp; decide) (by simp [hrow])
        (by simpa using htarget)
    rw [codeEffects_stack (by simp), List.flatMap_append, hfetch]
    simp [hsend]

theorem deferReply_writes :
    Writes [] (deferReply s) := by
  refine .quiet ?_ (by simp)
  cases s.flag "ephemeral" <;> simp <;> decide

theorem editReply_writes :
    Writes [] (editReply s) :=
  .quiet (by simp; decide) (by simp)

theorem followUp_writes :
    Writes [] (followUp s) := by
  refine .quiet ?_ (by simp)
  cases s.flag "ephemeral" <;> simp <;> decide

theorem sendEmbed_writes :
    Writes [.item (.constant "embed")] (sendEmbed s) := by
  refine (embed_asks _ _ (isName_asColour _).lineFeed_not_mem).last ?_
  rintro answers ⟨name, code⟩ ⟨hcode, hname⟩
  refine .pure ?_
  have hsend : codeEffects (.line ["await interaction.reply(\x7b embeds: [", .name name,
      "] \x7d);"]) = [] :=
    codeEffects_line [] (by simp; decide) (by simp [hname.lineFeed_not_mem]) (by simp)
  rw [codeEffects_stack (by simp)]
  simp [hcode, hsend]

theorem editMessage_writes :
    Writes [] (editMessage s) :=
  .quiet (by simp; decide) (by simp)

theorem deleteMessage_writes :
    Writes [] (deleteMessage s) :=
  .quiet (by simp; decide) (by simp)

theorem consoleLog_writes :
    Writes [] (consoleLog s) :=
  .quiet (by simp; decide) (by simp)

theorem addButton_writes :
    Writes [.item (.constant "button"), .item (.constant "row")] (addButton s) := by
  refine Asks.fresh (by decide) fun button hbutton => .fresh (by decide) fun row hrow => .pure ?_
  have hstyle : '\n' ∉ flagName "Primary" (s.value "style") :=
    (isName_flagName "Primary" (by decide) (s.value "style")).lineFeed_not_mem
  exact codeEffects_line [.bound .constant 1, .bound .constant 9] (by simp; decide)
    (by simpa [hbutton.lineFeed_not_mem, hrow.lineFeed_not_mem] using hstyle) (by simp [hbutton, hrow])

theorem addSelectMenu_writes :
    Writes [.item (.constant "select"), .item (.constant "rowMenu")] (addSelectMenu s) := by
  refine Asks.fresh (by decide) fun select hselect => .fresh (by decide) fun row hrow => .pure ?_
  exact codeEffects_line [.bound .constant 1, .bound .constant 7] (by simp; decide)
    (by simp [hselect.lineFeed_not_mem, hrow.lineFeed_not_mem]) (by simp [hselect, hrow])

theorem showModal_writes :
    Writes [.item (.constant "modal"), .item (.constant "input"), .item (.constant "modalRow")]
      (showModal s) := by
  refine Asks.fresh (by decide) fun modal hmodal => .fresh (by decide) fun field hfield =>
    .fresh (by decide) fun row hrow => .pure ?_
  have hstyle : '\n' ∉ flagName "Short" (s.value "text_input_style") :=
    (isName_flagName "Short" (by decide) (s.value "text_input_style")).lineFeed_not_mem
  exact codeEffects_line [.bound .constant 1, .bound .constant 7, .bound .constant 15, .path 19]
    (by simp; decide)
    (by simpa [hmodal.lineFeed_not_mem, hfield.lineFeed_not_mem, hrow.lineFeed_not_mem] using hstyle)
    (by simp [hmodal, hfield, hrow, isPath_of_isVariable])

theorem kick_writes :
    Writes [] (kick s) :=
  .quiet (by simp; decide) (by simp)

theorem ban_writes :
    Writes [] (ban s) :=
  .quiet (by simp; decide) (by simp)

theorem timeout_writes :
    Writes [.item (.constant "member")] (timeout s) := by
  refine Asks.fresh (by decide) fun member hmember => .number fun minutes =>
    .normalise fun milliseconds => .pure ?_
  have hmilliseconds : (lexis true).IsName milliseconds.text := .number milliseconds
  exact codeEffects_line [.bound .constant 1, .path 5] (by simp; decide)
    (by simp [hmember.lineFeed_not_mem, hmilliseconds.lineFeed_not_mem])
    (by simp [hmember, isPath_of_isVariable])

theorem automodAlert_writes :
    Writes [] (automodAlert s) :=
  .quiet (by simp; decide) (by simp)

theorem roleCreate_writes :
    Writes [] (roleCreate s) :=
  .quiet (by simp; decide) (by simp)

theorem channelCreate_writes :
    Writes [] (channelCreate s) :=
  .quiet (by simp; decide) (by simp)

theorem threadCreate_writes :
    Writes [] (threadCreate s) :=
  .quiet (by simp; decide) (by simp)

theorem eventSchedule_writes :
    Writes [] (eventSchedule s) :=
  .quiet (by simp; decide) (by simp)

theorem voiceJoin_writes :
    Writes [] (voiceJoin s) :=
  .quiet (by simp; decide) (by simp)

theorem voiceLeave_writes :
    Writes [.item (.constant "connection")] (voiceLeave s) := by
  refine Asks.fresh (by decide) fun connection hconnection => .pure ?_
  exact codeEffects_line [.bound .constant 1] (by simp; decide)
    (by simp [hconnection.lineFeed_not_mem]) (by simp [hconnection])

theorem wait_writes :
    Writes [] (wait s) := by
  refine Asks.number fun seconds => .normalise fun milliseconds => .pure ?_
  have hmilliseconds : (lexis true).IsName milliseconds.text := .number milliseconds
  exact codeEffects_line [] (by simp; decide) (by simp [hmilliseconds.lineFeed_not_mem]) (by simp)

/-- An expression that stands in the row of its assignment, whether or not it declares its
variable. -/
structure IsExpression (expression : List Piece) : Prop where
  rows : ∀ x ∈ expression, '\n' ∉ inserted x
  first : formRows (.code "let " :: .name :: .code " = " ::
    (expression.map Piece.slot ++ [.code ";"])) = some [.bound .var 1]
  later : formRows (.code "" :: .name :: .code " = " ::
    (expression.map Piece.slot ++ [.code ";"])) = some [.bound .assignment 1]

/-- A variable asks for itself. -/
theorem assign_writes
    {name : Text}
    {expression : List Piece}
    (hname : Keyword.assignment.Suits name)
    (h : IsExpression expression) :
    Writes [.item (.var name)] (assign name expression) := by
  refine Asks.declare fun first => .pure ?_
  have hrows : ∀ start : String, ∀ x ∈ Piece.code start :: .name name :: .code " = " ::
      (expression ++ [.code ";"]), '\n' ∉ inserted x := by
    simpa [hname.1.lineFeed_not_mem, or_imp, forall_and] using h.rows
  cases first with
  | true =>
      exact codeEffects_line [.bound .var 1] (by simpa using h.first) (hrows "let ")
        (by simpa using hname.1)
  | false =>
      exact codeEffects_line [.bound .assignment 1] (by simpa using h.later) (hrows "")
        (by simpa using ⟨hname.1, hname.2⟩)

/-- The variable that takes a result does not look like a declarator. -/
theorem suits_target
    (key : String)
    {fallback : String}
    (h : (!fallback.toList.isEmpty && fallback.toList.all Text.isPlain) = true)
    (hfallback : Name.isReserved fallback.toList = false) :
    Keyword.assignment.Suits (target s key fallback) := by
  refine ⟨.identifier fallback h _, fun hmem => ?_⟩
  have hreserved : ∀ declarator ∈ declarators, Name.isReserved declarator = true := by decide
  have hfree : Name.isReserved (target s key fallback) = false :=
    Name.isReserved_identifier hfallback _
  rw [hreserved _ hmem] at hfree
  cases hfree

theorem setVariable_writes :
    Writes [.item (.var (target s "name" "v"))] (setVariable s) :=
  assign_writes (suits_target s "name" (by decide) (by decide))
    ⟨by simp, by simp; decide, by simp; decide⟩

/-- What an operation asks for: for its variable if the table has it. -/
def operationRequests (table : List (String × List Piece)) (operation : String) (name : Text) :
    List Request :=
  if (table.lookup operation).isSome then [.var name] else []

/-- Remarks ask for nothing. -/
theorem codeEffects_remark
    (t : Text) :
    codeEffects (remark t) = [] := by
  have hrow : '\n' ∉ inserted (.remark (Text.squeeze t)) := fun hmem =>
    absurd (Text.not_isLineBreak_of_mem_squeeze hmem) (by decide)
  exact codeEffects_line [] (by simp; decide) (by simp [hrow]) (by simp)

/-- An operation is an assignment that the table has, or a remark. -/
theorem operation_writes
    {name : Text}
    (hname : Keyword.assignment.Suits name)
    {table : List (String × List Piece)}
    (htable : ∀ entry ∈ table, IsExpression entry.2)
    (operation : String)
    (t : Text) :
    Writes ((operationRequests table operation name).map .item)
      (match table.lookup operation with
        | some expression => assign name expression
        | none => pure (remark t)) := by
  unfold operationRequests
  cases hfound : table.lookup operation with
  | none => exact .pure (codeEffects_remark t)
  | some expression => exact assign_writes hname (htable _ (mem_of_lookup hfound))

theorem stringManipulation_writes :
    Writes ((operationRequests (stringExpressions (s.literal "input"))
        (String.ofList (s.value "operation").display) (target s "saveTo" "strResult")).map .item)
      (stringManipulation s) := by
  refine operation_writes (suits_target s "saveTo" (by decide) (by decide)) ?_ _ _
  simp only [stringExpressions, List.forall_mem_cons]
  refine ⟨?_, ?_, ?_, ?_, ?_, by simp⟩
  all_goals exact ⟨by simp, by simp; decide, by simp; decide⟩

theorem mathAdvanced_writes :
    Writes ((operationRequests mathExpressions
        (String.ofList (s.value "operation").display) (target s "saveTo" "mathResult")).map .item)
      (mathAdvanced s) := by
  refine operation_writes (suits_target s "saveTo" (by decide) (by decide)) ?_ _ _
  simp only [mathExpressions, List.forall_mem_cons]
  refine ⟨?_, ?_, ?_, ?_, by simp⟩
  all_goals exact ⟨by simp, by simp; decide, by simp; decide⟩

theorem httpRequest_writes :
    Writes [.item (.constant "response"), .item (.var (target s "saveTo" "apiResult"))]
      (httpRequest s) := by
  refine Asks.fresh (by decide) fun response hresponse => ?_
  refine (assign_writes (suits_target s "saveTo" (by decide) (by decide))
    ⟨by simp [hresponse.lineFeed_not_mem], by simp; decide, by simp; decide⟩).last ?_
  rintro answers assignment hassignment
  refine .pure ?_
  have hfetch : codeEffects (.line ["const ", .name response, " = await fetch('", s.literal "url",
      "');"]) = [.item (.constant response)] :=
    codeEffects_line [.bound .constant 1] (by simp; decide)
      (by simp [hresponse.lineFeed_not_mem]) (by simp [hresponse])
  rw [codeEffects_stack (by simp)]
  simp [hfetch, hassignment]

theorem webhookSend_writes :
    Writes [.item (.constant "webhookRes")] (webhookSend s) := by
  refine Asks.fresh (by decide) fun response hresponse => .pure ?_
  exact codeEffects_line [.bound .constant 1] (by simp; decide)
    (by simp [hresponse.lineFeed_not_mem]) (by simp [hresponse])

end Actions

/-- What the statements of each action ask for by block type. -/
def requestTable : List (String × (Subject → List Request)) :=
  [("action_reply", fun s => requestIf (s.flag "useEmbed") "embed"),
   ("send_message", fun s =>
     requestIf (!(Text.strip (s.value "channel_id").display).isEmpty) "channel" ++
       requestIf (s.flag "useEmbed") "embed"),
   ("action_defer_reply", fun _ => []), ("edit_reply", fun _ => []), ("follow_up", fun _ => []),
   ("send_embed", fun _ => [.constant "embed"]), ("edit_message", fun _ => []),
   ("delete_message", fun _ => []), ("console_log", fun _ => []),
   ("add_button", fun _ => [.constant "button", .constant "row"]),
   ("add_select_menu", fun _ => [.constant "select", .constant "rowMenu"]),
   ("show_modal", fun _ => [.constant "modal", .constant "input", .constant "modalRow"]),
   ("action_kick", fun _ => []), ("action_ban", fun _ => []),
   ("member_timeout", fun _ => [.constant "member"]), ("automod_alert", fun _ => []),
   ("role_create", fun _ => []), ("channel_create", fun _ => []), ("thread_create", fun _ => []),
   ("event_schedule", fun _ => []), ("voice_join", fun _ => []),
   ("voice_leave", fun _ => [.constant "connection"]), ("wait", fun _ => []),
   ("set_variable", fun s => [.var (target s "name" "v")]),
   ("string_manipulation", fun s => operationRequests (stringExpressions (s.literal "input"))
     (String.ofList (s.value "operation").display) (target s "saveTo" "strResult")),
   ("math_advanced", fun s => operationRequests mathExpressions
     (String.ofList (s.value "operation").display) (target s "saveTo" "mathResult")),
   ("http_request", fun s => [.constant "response", .var (target s "saveTo" "apiResult")]),
   ("webhook_send", fun _ => [.constant "webhookRes"])]

/-- Every action asks for what the table says. -/
theorem actions_write :
    List.Forall₂ (fun a b => a.1 = b.1 ∧ ∀ s, Writes ((b.2 s).map .item) (a.2 s)) actions
      requestTable := by
  unfold actions requestTable
  simp only [List.forall₂_cons, List.forall₂_nil_left_iff, true_and, and_true]
  exact ⟨reply_writes, sendMessage_writes, deferReply_writes, editReply_writes, followUp_writes,
    sendEmbed_writes, editMessage_writes, deleteMessage_writes, consoleLog_writes,
    addButton_writes, addSelectMenu_writes, showModal_writes, kick_writes, ban_writes,
    timeout_writes, automodAlert_writes, roleCreate_writes, channelCreate_writes,
    threadCreate_writes, eventSchedule_writes, voiceJoin_writes, voiceLeave_writes, wait_writes,
    setVariable_writes, stringManipulation_writes, mathAdvanced_writes, httpRequest_writes,
    webhookSend_writes⟩

/-- What a block that does not branch asks for. -/
def actionRequests (s : Subject) : List Request :=
  match requestTable.lookup s.block.type with
  | some asked => asked s
  | none => []

/-- A block that does not branch asks for what the table says. -/
theorem emitAction_writes
    (s : Subject) :
    Writes ((actionRequests s).map .item) (dialect.emitAction s) := by
  have hrel : Option.Rel (fun action asked => ∀ s, Writes ((asked s).map .item) (action s))
      (actions.lookup s.block.type) (requestTable.lookup s.block.type) :=
    rel_lookup actions_write s.block.type
  unfold Dialect.emitAction actionRequests
  have hactions : dialect.actions = actions := rfl
  rw [hactions]
  revert hrel
  generalize actions.lookup s.block.type = found
  generalize requestTable.lookup s.block.type = found'
  rintro (h | _)
  · exact h s
  · exact .pure (codeEffects_remark _)

end BotCanvas.Braced
