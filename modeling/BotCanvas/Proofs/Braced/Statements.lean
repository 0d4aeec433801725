import BotCanvas.Braced.Actions
import BotCanvas.Proofs.Braced.Lexis
import BotCanvas.Proofs.Program.Mentions
import BotCanvas.Proofs.Program.Statements

/-!
# Statements of actions in the language with braces

Whatever texts a block holds, each line of its statements leads from code to code with the
brackets balanced, and each of its rows is plain: no row opens or closes a branch, and none leaves
the handler. No line has a share in naming the voice library. Blocks that differ in texts inside
literals have the same statements up to them.
-/

namespace BotCanvas.Braced

open Lexis

/-- Tests for the shape of a row that neither opens nor closes a branch and does not leave the
handler: a remark, or a row with a call or an assignment that does not end with a brace. -/
def isPlainShape (row : List Cell) : Bool :=
  (row.all fun x => match x with
    | .char c => !Text.isLineBreak c
    | .condition => false
    | _ => true) &&
  ([Cell.char '/', .char '/'].isPrefixOf row ||
    (row.getLast?.any fun x => match x with
      | .char c => c != '\x7b' && c != '\x7d' && c != ' '
      | _ => false) &&
    (row.contains (.char '(') || row.contains (.char '=')))

/-- What the import of the voice library names. -/
def voicePhrase : Text := "@discordjs/voice"

/-- Tests for the form of statements: balanced, with plain rows only, and without a share in naming
the voice library. -/
def isStatement (form : List Slot) : Bool :=
  (lexis true).formLeads form [] [] &&
    ((shapeRows (shape form)).all isPlainShape && isQuiet voicePhrase form)

/-- A line of statements whose texts in literals have characters of a class only. -/
def IsStatement (p : Char → Bool) (pieces : List Piece) : Prop :=
  (∀ x ∈ pieces, x.Suits (lexis true) p) ∧ isStatement (pieces.map Piece.slot) = true

/-- An action whose statements are such lines, and that shares them up to the texts under keys. -/
def Shares (keys : List String) (action : Subject → Emit Code) : Prop :=
  SharesStatements IsStatement keys action

/-- Lines that are alike up to texts in literals, as statements. -/
theorem alike_line
    {p : Char → Bool}
    {pieces pieces' : List Piece}
    (hblank : pieces'.map Piece.blank = pieces.map Piece.blank)
    (hsuits : ∀ x ∈ pieces, x.Suits (lexis true) p)
    (hform : isStatement (pieces.map Piece.slot) = true) :
    Emit.Alike (Code.Same (IsStatement p)) (pure (.line pieces)) (pure (.line pieces')) :=
  .pure (.line hblank ⟨hsuits, hform⟩)

@[simp] theorem slot_boolWord
    (b : Bool) :
    (boolWord b).slot = .code (if b then "true" else "false") :=
  rfl

@[simp] theorem suits_boolWord
    {p : Char → Bool}
    (b : Bool) :
    (boolWord b).Suits (lexis true) p :=
  Piece.suits_code _

section Actions

-- forms are decided character by character
set_option maxRecDepth 20000

/-- An embed is made under a name, by the same statement up to its texts. -/
theorem embed_alike
    {p : Char → Bool}
    {t t' u u' colour : Text}
    (ht : ∀ c ∈ t, p c = true)
    (hu : ∀ c ∈ u, p c = true)
    (hcolour : (lexis true).IsName colour) :
    Emit.Alike
      (fun a b => a.1 = b.1 ∧ (lexis true).IsName a.1 ∧ Code.Same (IsStatement p) a.2 b.2)
      (embed (.literal t) (.literal u) colour) (embed (.literal t') (.literal u') colour) := by
  refine (Emit.alike_fresh (lexis true) "embed" (by decide)).bind fun name name' hname => ?_
  obtain ⟨rfl, hname⟩ := hname
  refine .pure ⟨rfl, hname, .line rfl ⟨by simpa [hname, hcolour] using ⟨ht, hu⟩, ?_⟩⟩
  simp
  decide

/-- A colour stands in a name. -/
theorem isName_asColour
    (v : Value) :
    (lexis true).IsName v.asColour := by
  obtain ⟨digits, hdigits, -, hplain⟩ := exists_asColour v
  rw [hdigits]
  refine ⟨by simp, ?_⟩
  rintro c (_ | ⟨_, hc⟩)
  · decide
  · exact isNameChar_of_isPlain (hplain c hc)

theorem messageEmbed_alike
    {p : Char → Bool}
    {keys : List String}
    {s s' : Subject}
    (h : Subject.Alike keys s s')
    (hs : s.Speaks p)
    (hkey : "embed_color" ∉ keys) :
    Emit.Alike
      (fun a b => a.1 = b.1 ∧ (lexis true).IsName a.1 ∧ Code.Same (IsStatement p) a.2 b.2)
      (messageEmbed s) (messageEmbed s') := by
  unfold messageEmbed
  rw [h.value _ hkey]
  exact embed_alike (hs.value _) (hs.value _) (isName_asColour _)

theorem reply_shares :
    Shares ["content", "embed_title", "embed_description"] reply := by
  intro p s s' h hs
  unfold reply
  rw [h.flag "ephemeral" (by simp), h.flag "useEmbed" (by simp)]
  simp only
  split
  · refine (messageEmbed_alike h hs (by simp)).bind fun a b hab => ?_
    obtain ⟨name, code⟩ := a
    obtain ⟨name', code'⟩ := b
    obtain ⟨rfl, hname, hcode⟩ := hab
    refine .pure (.stack (by simp) (.cons hcode (.cons (.line rfl ⟨by simp [hname], ?_⟩) .nil)))
    cases s.flag "ephemeral" <;> simp <;> decide
  · refine alike_line rfl (by simp [hs.suits]) ?_
    cases s.flag "ephemeral" <;> simp <;> decide

/-- Fetching the channel of a message gives the same statements and the same name. -/
theorem messageChannel_alike
    {p : Char → Bool}
    {keys : List String}
    {s s' : Subject}
    (h : Subject.Alike keys s s')
    (hs : s.Speaks p)
    (hkey : "channel_id" ∉ keys) :
    Emit.Alike
      (fun a b => a = b ∧ (lexis true).IsName a.2 ∧
        List.Forall₂ (Code.Same (IsStatement p)) a.1 a.1)
      (messageChannel s) (messageChannel s') := by
  unfold messageChannel
  rw [h.value _ hkey]
  have hchannel : ∀ c ∈ Text.strip (s.value "channel_id").display, p c = true :=
    fun c hc => hs.value "channel_id" c (Text.mem_of_mem_stripBy hc)
  simp only
  split
  · exact .pure ⟨rfl, ⟨by simp, List.all_eq_true.1 (by decide)⟩, .nil⟩
  · refine (Emit.alike_fresh (lexis true) "channel" (by decide)).bind fun name name' hname => ?_
    obtain ⟨rfl, hname⟩ := hname
    refine .pure ⟨rfl, hname, .cons (.line rfl ⟨by simpa [hname] using hchannel, ?_⟩) .nil⟩
    simp
    decide

theorem sendMessage_shares :
    Shares ["content", "embed_title", "embed_description"] sendMessage := by
  intro p s s' h hs
  unfold sendMessage
  rw [h.flag "useEmbed" (by simp)]
  refine (messageChannel_alike h hs (by simp)).bind fun a b hab => ?_
  obtain ⟨fetch, target⟩ := a
  obtain ⟨rfl, hname, hfetch⟩ := hab
  simp only
  split
  · refine (messageEmbed_alike h hs (by simp)).bind fun a b hab => ?_
    obtain ⟨name, code⟩ := a
    obtain ⟨name', code'⟩ := b
    obtain ⟨rfl, hembed, hcode⟩ := hab
    refine .pure (.stack (by simp) (List.rel_append hfetch (.cons hcode (.cons ?_ .nil))))
    refine .line rfl ⟨by simpa using ⟨hname, hembed⟩, ?_⟩
    simp
    decide
  · refine .pure (.stack (by simp) (List.rel_append hfetch (.cons ?_ .nil)))
    refine .line rfl ⟨by simpa [hs.suits] using hname, ?_⟩
    simp
    decide

theorem deferReply_shares :
    Shares [] deferReply := by
  intro p s s' h hs
  unfold deferReply
  rw [h.flag "ephemeral" (by simp)]
  refine alike_line rfl (by simp) ?_
  cases s.flag "ephemeral" <;> simp <;> decide

theorem editReply_shares :
    Shares ["content"] editReply := by
  intro p s s' h hs
  refine alike_line rfl (by simp [hs.suits]) ?_
  simp
  decide

theorem followUp_shares :
    Shares ["content"] followUp := by
  intro p s s' h hs
  unfold followUp
  rw [h.flag "ephemeral" (by simp)]
  refine alike_line rfl (by simp [hs.suits]) ?_
  cases s.flag "ephemeral" <;> simp <;> decide

theorem sendEmbed_shares :
    Shares ["title", "description", "embed_title", "embed_description"] sendEmbed := by
  intro p s s' h hs
  unfold sendEmbed embedText embedColour
  rw [h.stored "color" (by simp), h.stored "embed_color" (by simp)]
  have htext : ∀ key messageKey,
      ∀ c ∈ (s.valueOr key (s.stored messageKey)).display, p c = true :=
    fun key messageKey => hs.valueOr key _ (hs.stored messageKey)
  refine (embed_alike (htext _ _) (htext _ _) (isName_asColour _)).bind fun a b hab => ?_
  obtain ⟨name, code⟩ := a
  obtain ⟨name', code'⟩ := b
  obtain ⟨rfl, hname, hcode⟩ := hab
  refine .pure (.stack (by simp) (.cons hcode (.cons (.line rfl ⟨by simpa using hname, ?_⟩) .nil)))
  simp
  decide

theorem editMessage_shares :
    Shares ["content"] editMessage := by
  intro p s s' h hs
  refine alike_line rfl (by simp [hs.suits]) ?_
  simp
  decide

theorem deleteMessage_shares :
    Shares [] deleteMessage :=
  fun _ _ _ _ _ => alike_line rfl (by simp) (by decide)

theorem consoleLog_shares :
    Shares ["message"] consoleLog := by
  intro p s s' h hs
  have hmessage : (s.literalOr "message" "[Log Block]").Suits (lexis true) p :=
    hs.suits_literalOr "message" "[Log Block]" (by decide)
  refine alike_line rfl (by simpa using hmessage) ?_
  simp
  decide

/-- The name of a flag is a name. -/
theorem isName_flagName
    (fallback : String)
    (h : (!fallback.toList.isEmpty && fallback.toList.all Text.isPlain) = true)
    (v : Value) :
    (lexis true).IsName (flagName fallback.toList v) :=
  IsName.filterOr (fun c hc => by simp [Text.isPlain, hc]) (.ofString h) _

theorem addButton_shares :
    Shares ["customId", "label", "content"] addButton := by
  intro p s s' h hs
  unfold addButton
  rw [h.value "style" (by simp)]
  refine (Emit.alike_fresh (lexis true) "button" (by decide)).bind fun button _ hbutton => ?_
  obtain ⟨rfl, hbutton⟩ := hbutton
  refine (Emit.alike_fresh (lexis true) "row" (by decide)).bind fun row _ hrow => ?_
  obtain ⟨rfl, hrow⟩ := hrow
  have hstyle := isName_flagName "Primary" (by decide) (s.value "style")
  refine alike_line rfl (by simpa [hs.suits, hbutton, hrow] using hstyle) ?_
  simp
  decide

theorem addSelectMenu_shares :
    Shares ["customId", "placeholder", "content"] addSelectMenu := by
  intro p s s' h hs
  refine (Emit.alike_fresh (lexis true) "select" (by decide)).bind fun select _ hselect => ?_
  obtain ⟨rfl, hselect⟩ := hselect
  refine (Emit.alike_fresh (lexis true) "rowMenu" (by decide)).bind fun row _ hrow => ?_
  obtain ⟨rfl, hrow⟩ := hrow
  refine alike_line rfl (by simp [hs.suits, hselect, hrow]) ?_
  simp
  decide

theorem showModal_shares :
    Shares ["customId", "title", "text_input_id", "text_input_label"] showModal := by
  intro p s s' h hs
  unfold showModal
  rw [h.value "text_input_style" (by simp)]
  refine (Emit.alike_fresh (lexis true) "modal" (by decide)).bind fun modal _ hmodal => ?_
  obtain ⟨rfl, hmodal⟩ := hmodal
  refine (Emit.alike_fresh (lexis true) "input" (by decide)).bind fun field _ hfield => ?_
  obtain ⟨rfl, hfield⟩ := hfield
  refine (Emit.alike_fresh (lexis true) "modalRow" (by decide)).bind fun row _ hrow => ?_
  obtain ⟨rfl, hrow⟩ := hrow
  have hstyle := isName_flagName "Short" (by decide) (s.value "text_input_style")
  refine alike_line rfl (by simpa [hs.suits, hmodal, hfield, hrow] using hstyle) ?_
  simp
  decide

theorem kick_shares :
    Shares ["userId", "reason"] kick := by
  intro p s s' h hs
  refine alike_line rfl (by simp [hs.suits]) ?_
  simp
  decide

theorem ban_shares :
    Shares ["userId", "reason"] ban := by
  intro p s s' h hs
  refine alike_line rfl (by simp [hs.suits]) ?_
  simp
  decide

theorem timeout_shares :
    Shares ["userId", "reason"] timeout := by
  intro p s s' h hs
  unfold timeout
  rw [h.valueOr "minutes" _ (by simp)]
  refine (Emit.alike_fresh (lexis true) "member" (by decide)).bind fun member _ hmember => ?_
  obtain ⟨rfl, hmember⟩ := hmember
  refine (Emit.Alike.refl _).bind fun minutes _ hminutes => ?_
  subst hminutes
  refine (Emit.Alike.refl _).bind fun milliseconds _ hmilliseconds => ?_
  subst hmilliseconds
  refine alike_line rfl (by simp [hs.suits, hmember, IsName.number]) ?_
  simp
  decide

theorem automodAlert_shares :
    Shares ["message"] automodAlert := by
  intro p s s' h hs
  refine alike_line rfl (by simp [hs.suits]) ?_
  simp
  decide

theorem roleCreate_shares :
    Shares ["name"] roleCreate := by
  intro p s s' h hs
  refine alike_line rfl (by simp [hs.suits]) ?_
  simp
  decide

theorem channelCreate_shares :
    Shares ["name"] channelCreate := by
  intro p s s' h hs
  refine alike_line rfl (by simp [hs.suits]) ?_
  simp
  decide

theorem threadCreate_shares :
    Shares ["name"] threadCreate := by
  intro p s s' h hs
  refine alike_line rfl (by simp [hs.suits]) ?_
  simp
  decide

theorem eventSchedule_shares :
    Shares ["name", "startTime"] eventSchedule := by
  intro p s s' h hs
  refine alike_line rfl (by simp [hs.suits]) ?_
  simp
  decide

theorem voiceJoin_shares :
    Shares ["channelId"] voiceJoin := by
  intro p s s' h hs
  refine alike_line rfl (by simp [hs.suits]) ?_
  simp
  decide

theorem voiceLeave_shares :
    Shares [] voiceLeave := by
  intro p s s' h hs
  refine (Emit.alike_fresh (lexis true) "connection" (by decide)).bind
    fun connection _ hconnection => ?_
  obtain ⟨rfl, hconnection⟩ := hconnection
  refine alike_line rfl (by simp [hconnection]) ?_
  simp
  decide

theorem wait_shares :
    Shares [] wait := by
  intro p s s' h hs
  unfold wait
  rw [h.valueOr "duration" _ (by simp)]
  refine (Emit.Alike.refl _).bind fun seconds _ hseconds => ?_
  subst hseconds
  refine (Emit.Alike.refl _).bind fun milliseconds _ hmilliseconds => ?_
  subst hmilliseconds
  refine alike_line rfl (by simp [IsName.number]) ?_
  simp
  decide

/-- Expressions that differ in texts only, and with which an assignment is a line of statements,
whether or not it declares its variable. -/
structure SameExpression (p : Char → Bool) (expression expression' : List Piece) : Prop where
  blank : expression'.map Piece.blank = expression.map Piece.blank
  suits : ∀ x ∈ expression, x.Suits (lexis true) p
  form : (["let ", ""].all fun start => isStatement (.code start :: .name :: .code " = " ::
    (expression.map Piece.slot ++ [.code ";"]))) = true

theorem assign_alike
    {p : Char → Bool}
    {name : Text}
    {expression expression' : List Piece}
    (hname : (lexis true).IsName name)
    (h : SameExpression p expression expression') :
    Emit.Alike (Code.Same (IsStatement p)) (assign name expression) (assign name expression') := by
  refine (Emit.Alike.refl _).bind fun first _ hfirst => ?_
  subst hfirst
  refine alike_line ?_ ?_ ?_
  · simp [h.blank]
  · simpa [hname, or_imp, forall_and] using h.suits
  · have hstart := List.all_eq_true.1 h.form (if first then "let " else "")
      (by cases first <;> simp)
    simpa using hstart

/-- The variable that takes a result is a name. -/
theorem isName_target
    (s : Subject)
    (key : String)
    {fallback : String}
    (h : (!fallback.toList.isEmpty && fallback.toList.all Text.isPlain) = true) :
    (lexis true).IsName (target s key fallback) :=
  .identifier (.ofString h) _

theorem setVariable_shares :
    Shares ["value"] setVariable := by
  intro p s s' h hs
  unfold setVariable target
  rw [h.valueOr "name" _ (by simp)]
  refine assign_alike (isName_target s "name" (by decide)) ⟨rfl, by simp [hs.suits], ?_⟩
  simp only [List.map_cons, List.map_nil, Piece.slot_code, Subject.slot_literal]
  decide

/-- Remarks are lines of statements. -/
theorem isStatement_remark
    (p : Char → Bool)
    (t : Text) :
    IsStatement p ["//", " ", .remark (Text.squeeze t)] := by
  refine ⟨by simp, ?_⟩
  simp only [List.map_cons, List.map_nil, Piece.slot_code, Piece.slot_remark]
  decide

/-- An operation is an assignment that the table has, or a remark. -/
theorem alike_operation
    {p : Char → Bool}
    {name : Text}
    (hname : (lexis true).IsName name)
    {table table' : List (String × List Piece)}
    (htable : List.Forall₂ (fun a b => a.1 = b.1 ∧ SameExpression p a.2 b.2) table table')
    (operation : String)
    (t : Text) :
    Emit.Alike (Code.Same (IsStatement p))
      (match table.lookup operation with
        | some expression => assign name expression
        | none => pure (remark t))
      (match table'.lookup operation with
        | some expression => assign name expression
        | none => pure (remark t)) := by
  have hrel := rel_lookup htable operation
  revert hrel
  generalize table.lookup operation = found
  generalize table'.lookup operation = found'
  rintro (h | _)
  · exact assign_alike hname h
  · exact .pure (.line rfl (isStatement_remark p t))

theorem stringManipulation_shares :
    Shares ["input"] stringManipulation := by
  intro p s s' h hs
  unfold stringManipulation target
  rw [h.value "operation" (by simp), h.valueOr "saveTo" _ (by simp)]
  refine alike_operation (isName_target s "saveTo" (by decide)) ?_ _ _
  refine .cons ⟨rfl, ?_⟩ (.cons ⟨rfl, ?_⟩ (.cons ⟨rfl, ?_⟩ (.cons ⟨rfl, ?_⟩ (.cons ⟨rfl, ?_⟩ .nil))))
  all_goals
    refine ⟨rfl, by simp [hs.suits], ?_⟩
    simp only [List.map_cons, List.map_nil, Piece.slot_code, Subject.slot_literal]
    decide

theorem mathAdvanced_shares :
    Shares [] mathAdvanced := by
  intro p s s' h hs
  unfold mathAdvanced target
  rw [h.value "operation" (by simp), h.valueOr "saveTo" _ (by simp)]
  refine alike_operation (isName_target s "saveTo" (by decide)) ?_ _ _
  refine .cons ⟨rfl, ?_⟩ (.cons ⟨rfl, ?_⟩ (.cons ⟨rfl, ?_⟩ (.cons ⟨rfl, ?_⟩ .nil)))
  all_goals
    refine ⟨rfl, by simp, ?_⟩
    simp only [List.map_cons, List.map_nil, Piece.slot_code]
    decide

theorem httpRequest_shares :
    Shares ["url"] httpRequest := by
  intro p s s' h hs
  unfold httpRequest target
  rw [h.valueOr "saveTo" _ (by simp)]
  refine (Emit.alike_fresh (lexis true) "response" (by decide)).bind fun response _ hresponse => ?_
  obtain ⟨rfl, hresponse⟩ := hresponse
  have hassign : Emit.Alike (Code.Same (IsStatement p))
      (assign (target s "saveTo" "apiResult") ["await ", .name response, ".json()"])
      (assign (target s "saveTo" "apiResult") ["await ", .name response, ".json()"]) := by
    refine assign_alike (isName_target s "saveTo" (by decide)) ⟨rfl, by simp [hresponse], ?_⟩
    simp only [List.map_cons, List.map_nil, Piece.slot_code, Piece.slot_name]
    decide
  refine hassign.bind fun code code' hcode => ?_
  refine .pure (.stack (by simp) (.cons (.line rfl ⟨by simp [hs.suits, hresponse], ?_⟩)
    (.cons hcode .nil)))
  simp
  decide

theorem webhookSend_shares :
    Shares ["url", "content"] webhookSend := by
  intro p s s' h hs
  refine (Emit.alike_fresh (lexis true) "webhookRes" (by decide)).bind fun response _ hresponse => ?_
  obtain ⟨rfl, hresponse⟩ := hresponse
  refine alike_line rfl (by simp [hs.suits, hresponse]) ?_
  simp
  decide

end Actions

/-- The properties of each block type whose texts stand in literals only. -/
def textKeys : List (String × List String) :=
  [("action_reply", ["content", "embed_title", "embed_description"]),
   ("send_message", ["content", "embed_title", "embed_description"]),
   ("action_defer_reply", []), ("edit_reply", ["content"]), ("follow_up", ["content"]),
   ("send_embed", ["title", "description", "embed_title", "embed_description"]),
   ("edit_message", ["content"]), ("delete_message", []), ("console_log", ["message"]),
   ("add_button", ["customId", "label", "content"]),
   ("add_select_menu", ["customId", "placeholder", "content"]),
   ("show_modal", ["customId", "title", "text_input_id", "text_input_label"]),
   ("action_kick", ["userId", "reason"]), ("action_ban", ["userId", "reason"]),
   ("member_timeout", ["userId", "reason"]), ("automod_alert", ["message"]),
   ("role_create", ["name"]), ("channel_create", ["name"]), ("thread_create", ["name"]),
   ("event_schedule", ["name", "startTime"]), ("voice_join", ["channelId"]),
   ("voice_leave", []), ("wait", []), ("set_variable", ["value"]),
   ("string_manipulation", ["input"]), ("math_advanced", []), ("http_request", ["url"]),
   ("webhook_send", ["url", "content"])]

/-- Every action shares its statements with those of the same block with other texts. -/
theorem actions_share :
    List.Forall₂ (fun a b => a.1 = b.1 ∧ Shares b.2 a.2) actions textKeys := by
  unfold actions textKeys
  simp only [List.forall₂_cons, List.forall₂_nil_left_iff, true_and, and_true]
  exact ⟨reply_shares, sendMessage_shares, deferReply_shares, editReply_shares, followUp_shares,
    sendEmbed_shares, editMessage_shares, deleteMessage_shares, consoleLog_shares,
    addButton_shares, addSelectMenu_shares, showModal_shares, kick_shares, ban_shares,
    timeout_shares, automodAlert_shares, roleCreate_shares, channelCreate_shares,
    threadCreate_shares, eventSchedule_shares, voiceJoin_shares, voiceLeave_shares, wait_shares,
    setVariable_shares, stringManipulation_shares, mathAdvanced_shares, httpRequest_shares,
    webhookSend_shares⟩

/-- The properties of a block type whose texts stand in literals only. -/
def textKeysOf (type : String) : List String :=
  (textKeys.lookup type).getD []

/-- So do all blocks that do not branch. -/
theorem emitAction_alike
    {p : Char → Bool}
    {s s' : Subject}
    (h : Subject.Alike (textKeysOf s.block.type) s s')
    (hs : s.Speaks p) :
    Emit.Alike (Code.Same (IsStatement p)) (dialect.emitAction s) (dialect.emitAction s') :=
  Dialect.emitAction_alike (d := dialect) (P := IsStatement) actions_share isStatement_remark h hs

end BotCanvas.Braced
