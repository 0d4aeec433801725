import BotCanvas.Offside.Actions
import BotCanvas.Proofs.Offside.Forms
import BotCanvas.Proofs.Program.Mentions
import BotCanvas.Proofs.Program.Statements

/-!
# Statements of actions in the language with suites

Whatever texts a block holds, each line of its statements leads from code to code with the
brackets balanced, and its logical lines are well laid. No line has a share in the import of the
library for requests. Blocks that differ in texts inside literals have the same statements up to
them.
-/

namespace BotCanvas.Offside

open Lexis

/-- What imports the library for requests. -/
def requestPhrase : Text := "import aiohttp"

/-- Tests for the form of statements: balanced, with well laid logical lines, and without a share in
the import of the library for requests. -/
def isStatement (form : List Slot) : Bool :=
  (lexis true).formLeads form [] [] &&
    ((layForm form).any (fun lines => decide (WellLaid lines)) && isQuiet requestPhrase form)

/-- A line of statements whose texts in literals have characters of a class only. -/
def IsStatement (p : Char → Bool) (pieces : List Piece) : Prop :=
  (∀ x ∈ pieces, x.Suits (lexis true) p) ∧ isStatement (pieces.map Piece.slot) = true

/-- An action whose statements are such lines, and that shares them up to the texts under keys. -/
def Shares (keys : List String) (action : Subject → Emit Code) : Prop :=
  SharesStatements IsStatement keys action

/-- Lines that are alike up to texts in literals, as statements. -/
theorem alike_line
    {p : Char → Bool}
    {pieces pieces' : List Piece}
    (hblank : pieces'.map Piece.blank = pieces.map Piece.blank)
    (hsuits : ∀ x ∈ pieces, x.Suits (lexis true) p)
    (hform : isStatement (pieces.map Piece.slot) = true) :
    Emit.Alike (Code.Same (IsStatement p)) (pure (.line pieces)) (pure (.line pieces')) :=
  .pure (.line hblank ⟨hsuits, hform⟩)

@[simp] theorem slot_boolWord
    (b : Bool) :
    (boolWord b).slot = .code (if b then "True" else "False") :=
  rfl

@[simp] theorem suits_boolWord
    {p : Char → Bool}
    (b : Bool) :
    (boolWord b).Suits (lexis true) p :=
  Piece.suits_code _

/-- A colour stands in a name, with the mark of numbers in base sixteen in front. -/
theorem isName_colour
    (v : Value) :
    (lexis true).IsName (Text.replaceChar '#' "0x" v.asColour) := by
  obtain ⟨digits, hdigits, -, hplain⟩ := exists_asColour v
  have hkeep : ∀ t : Text, (∀ c ∈ t, Text.isPlain c = true) → Text.replaceChar '#' "0x" t = t := by
    intro t ht
    induction t with
    | nil => rfl
    | cons c r ih =>
        have hc : c ≠ '#' := by
          rintro rfl
          exact absurd (ht '#' (by simp)) (by decide)
        have hr := ih fun d hd => ht d (by simp [hd])
        unfold Text.replaceChar at hr ⊢
        rw [List.flatMap_cons, if_neg hc, hr]
        rfl
  have hcolour : Text.replaceChar '#' "0x" v.asColour = '0' :: 'x' :: digits := by
    have hrest := hkeep digits hplain
    unfold Text.replaceChar at hrest ⊢
    rw [hdigits, List.flatMap_cons, if_pos rfl, hrest]
    rfl
  rw [hcolour]
  refine .ofPlain (by simp) ?_
  simpa using ⟨by decide, by decide, hplain⟩

/-- The forms that an identifier of the library has. -/
def snowflakeForms : List (List Slot) :=
  [[.name], [.code "int(\"", .literal, .code "\")"]]

/-- An identifier of the library is a name, or a text in a literal. -/
theorem snowflake_spells
    {p : Char → Bool}
    {v : Value}
    (h : ∀ c ∈ v.display, p c = true) :
    (∀ x ∈ snowflake v, x.Suits (lexis true) p) ∧
      (snowflake v).map Piece.slot ∈ snowflakeForms := by
  unfold snowflake snowflakeForms
  simp only
  split
  · rename_i hnumeral
    exact ⟨by simpa using IsName.ofNumeral hnumeral, by simp⟩
  · have hspelled : ∀ c ∈ Text.strip v.display, p c = true :=
      fun c hc => h c (Text.mem_of_mem_stripBy hc)
    exact ⟨by simpa using hspelled, by simp⟩

section Actions

-- forms are decided character by character
set_option maxRecDepth 20000

/-- An embed is made under a name, by the same statement up to its texts. -/
theorem embed_alike
    {p : Char → Bool}
    {t t' u u' : Text}
    (ht : ∀ c ∈ t, p c = true)
    (hu : ∀ c ∈ u, p c = true)
    (v : Value) :
    Emit.Alike
      (fun a b => a.1 = b.1 ∧ (lexis true).IsName a.1 ∧ Code.Same (IsStatement p) a.2 b.2)
      (embed (.literal t) (.literal u) v.asColour)
      (embed (.literal t') (.literal u') v.asColour) := by
  refine (Emit.alike_fresh (lexis true) "embed" (by decide)).bind fun name name' hname => ?_
  obtain ⟨rfl, hname⟩ := hname
  refine .pure ⟨rfl, hname, .line rfl ⟨?_, ?_⟩⟩
  · simpa [hname] using ⟨ht, hu, isName_colour v⟩
  · simp
    decide

theorem messageEmbed_alike
    {p : Char → Bool}
    {keys : List String}
    {s s' : Subject}
    (h : Subject.Alike keys s s')
    (hs : s.Speaks p)
    (hkey : "embed_color" ∉ keys) :
    Emit.Alike
      (fun a b => a.1 = b.1 ∧ (lexis true).IsName a.1 ∧ Code.Same (IsStatement p) a.2 b.2)
      (messageEmbed s) (messageEmbed s') := by
  unfold messageEmbed
  rw [h.value _ hkey]
  exact embed_alike (hs.value _) (hs.value _) _

theorem reply_shares :
    Shares ["content", "embed_title", "embed_description"] reply := by
  intro p s s' h hs
  unfold reply
  rw [h.flag "ephemeral" (by simp), h.flag "useEmbed" (by simp)]
  simp only
  split
  · refine (messageEmbed_alike h hs (by simp)).bind fun a b hab => ?_
    obtain ⟨name, code⟩ := a
    obtain ⟨name', code'⟩ := b
    obtain ⟨rfl, hname, hcode⟩ := hab
    refine .pure (.stack (by simp) (.cons hcode (.cons (.line rfl ⟨by simp [hname], ?_⟩) .nil)))
    cases s.flag "ephemeral" <;> simp <;> decide
  · refine alike_line rfl (by simp [hs.suits]) ?_
    cases s.flag "ephemeral" <;> simp <;> decide

/-- Fetching the channel of a message gives the same statements and the same name. -/
theorem messageChannel_alike
    {p : Char → Bool}
    {keys : List String}
    {s s' : Subject}
    (h : Subject.Alike keys s s')
    (hs : s.Speaks p)
    (hkey : "channel_id" ∉ keys) :
    Emit.Alike
      (fun a b => a = b ∧ (lexis true).IsName a.2 ∧
        List.Forall₂ (Code.Same (IsStatement p)) a.1 a.1)
      (messageChannel s) (messageChannel s') := by
  unfold messageChannel
  rw [h.value _ hkey]
  have hchannel : ∀ c ∈ Text.strip (s.value "channel_id").display, p c = true :=
    fun c hc => hs.value "channel_id" c (Text.mem_of_mem_stripBy hc)
  simp only
  split
  · exact .pure ⟨rfl, ⟨by simp, List.all_eq_true.1 (by decide)⟩, .nil⟩
  · refine (Emit.alike_fresh (lexis true) "channel" (by decide)).bind fun name name' hname => ?_
    obtain ⟨rfl, hname⟩ := hname
    obtain ⟨hsuits, hform⟩ := snowflake_spells (p := p)
      (v := .str (String.ofList (Text.strip (s.value "channel_id").display)))
      (by simpa [Value.display] using hchannel)
    refine .pure ⟨rfl, hname, .cons (.line rfl ⟨?_, ?_⟩) .nil⟩
    · simpa [hname, or_imp, forall_and] using hsuits
    · have hforms := List.all_eq_true.1 (show (snowflakeForms.all fun id =>
        isStatement (.name :: .code " = bot.get_channel(" :: (id ++
          (.code ") or await bot.fetch_channel(" :: (id ++ [.code ")"]))))) = true by decide)
        _ hform
      simpa using hforms

theorem sendMessage_shares :
    Shares ["content", "embed_title", "embed_description"] sendMessage := by
  intro p s s' h hs
  unfold sendMessage
  rw [h.flag "useEmbed" (by simp)]
  refine (messageChannel_alike h hs (by simp)).bind fun a b hab => ?_
  obtain ⟨fetch, target⟩ := a
  obtain ⟨rfl, hname, hfetch⟩ := hab
  simp only
  split
  · refine (messageEmbed_alike h hs (by simp)).bind fun a b hab => ?_
    obtain ⟨name, code⟩ := a
    obtain ⟨name', code'⟩ := b
    obtain ⟨rfl, hembed, hcode⟩ := hab
    refine .pure (.stack (by simp) (List.rel_append hfetch (.cons hcode (.cons ?_ .nil))))
    refine .line rfl ⟨by simpa using ⟨hname, hembed⟩, ?_⟩
    simp
    decide
  · refine .pure (.stack (by simp) (List.rel_append hfetch (.cons ?_ .nil)))
    refine .line rfl ⟨by simpa [hs.suits] using hname, ?_⟩
    simp
    decide

theorem deferReply_shares :
    Shares [] deferReply := by
  intro p s s' h hs
  unfold deferReply
  rw [h.flag "ephemeral" (by simp)]
  refine alike_line rfl (by simp) ?_
  cases s.flag "ephemeral" <;> simp <;> decide

theorem editReply_shares :
    Shares ["content"] editReply := by
  intro p s s' h hs
  refine alike_line rfl (by simp [hs.suits]) ?_
  simp
  decide

theorem followUp_shares :
    Shares ["content"] followUp := by
  intro p s s' h hs
  unfold followUp
  rw [h.flag "ephemeral" (by simp)]
  refine alike_line rfl (by simp [hs.suits]) ?_
  cases s.flag "ephemeral" <;> simp <;> decide

theorem sendEmbed_shares :
    Shares ["title", "description", "embed_title", "embed_description"] sendEmbed := by
  intro p s s' h hs
  unfold sendEmbed embedText embedColour
  rw [h.stored "color" (by simp), h.stored "embed_color" (by simp)]
  have htext : ∀ key messageKey,
      ∀ c ∈ (s.valueOr key (s.stored messageKey)).display, p c = true :=
    fun key messageKey => hs.valueOr key _ (hs.stored messageKey)
  refine (embed_alike (htext _ _) (htext _ _) _).bind fun a b hab => ?_
  obtain ⟨name, code⟩ := a
  obtain ⟨name', code'⟩ := b
  obtain ⟨rfl, hname, hcode⟩ := hab
  refine .pure (.stack (by simp) (.cons hcode (.cons (.line rfl ⟨by simpa using hname, ?_⟩) .nil)))
  simp
  decide

theorem editMessage_shares :
    Shares ["content"] editMessage := by
  intro p s s' h hs
  refine alike_line rfl (by simp [hs.suits]) ?_
  simp
  decide

theorem deleteMessage_shares :
    Shares [] deleteMessage :=
  fun _ _ _ _ _ => alike_line rfl (by simp) (by decide)

theorem consoleLog_shares :
    Shares ["message"] consoleLog := by
  intro p s s' h hs
  have hmessage : (s.literalOr "message" "[Log Block]").Suits (lexis true) p :=
    hs.suits_literalOr "message" "[Log Block]" (by decide)
  refine alike_line rfl (by simpa using hmessage) ?_
  simp
  decide

/-- The name of a style is the same. -/
theorem styleName_eq
    {keys : List String}
    {s s' : Subject}
    (h : Subject.Alike keys s s')
    {key : String}
    (hkey : key ∉ keys)
    (standard : String)
    (fallback : Text) :
    styleName s' key standard fallback = styleName s key standard fallback := by
  unfold styleName
  rw [h.valueOr key _ hkey]

/-- The name of a style is a name. -/
theorem isName_styleName
    (s : Subject)
    (key standard fallback : String)
    (h : (!fallback.toList.isEmpty && fallback.toList.all Text.isPlain) = true) :
    (lexis true).IsName (styleName s key standard fallback.toList) :=
  IsName.snakeOr (.ofString h) _

theorem addButton_shares :
    Shares ["customId", "label", "content"] addButton := by
  intro p s s' h hs
  unfold addButton
  rw [styleName_eq h (by simp)]
  refine (Emit.alike_fresh (lexis true) "view" (by decide)).bind fun view _ hview => ?_
  obtain ⟨rfl, hview⟩ := hview
  have hstyle := isName_styleName s "style" "Primary" "primary" (by decide)
  refine alike_line rfl (by simpa [hs.suits, hview] using hstyle) ?_
  simp
  decide

theorem addSelectMenu_shares :
    Shares ["customId", "placeholder", "content"] addSelectMenu := by
  intro p s s' h hs
  refine (Emit.alike_fresh (lexis true) "view" (by decide)).bind fun view _ hview => ?_
  obtain ⟨rfl, hview⟩ := hview
  refine alike_line rfl (by simp [hs.suits, hview]) ?_
  simp
  decide

theorem showModal_shares :
    Shares ["customId", "title", "text_input_id", "text_input_label"] showModal := by
  intro p s s' h hs
  unfold showModal
  rw [styleName_eq h (by simp)]
  refine (Emit.alike_fresh (lexis true) "modal" (by decide)).bind fun modal _ hmodal => ?_
  obtain ⟨rfl, hmodal⟩ := hmodal
  have hstyle := isName_styleName s "text_input_style" "Short" "short" (by decide)
  refine alike_line rfl (by simpa [hs.suits, hmodal] using hstyle) ?_
  simp
  decide

/-- Fetching a member gives the same statement and the same name. -/
theorem fetchMember_alike
    {p : Char → Bool}
    {keys : List String}
    {s s' : Subject}
    (h : Subject.Alike keys s s')
    (hs : s.Speaks p)
    (hkey : "userId" ∉ keys) :
    Emit.Alike
      (fun a b => a = b ∧ (lexis true).IsName a.1 ∧ Code.Same (IsStatement p) a.2 a.2)
      (fetchMember s) (fetchMember s') := by
  unfold fetchMember
  rw [h.value _ hkey]
  refine (Emit.alike_fresh (lexis true) "member" (by decide)).bind fun member _ hmember => ?_
  obtain ⟨rfl, hmember⟩ := hmember
  obtain ⟨hsuits, hform⟩ := snowflake_spells (hs.value "userId")
  refine .pure ⟨rfl, hmember, .line rfl ⟨?_, ?_⟩⟩
  · simpa [hmember, or_imp, forall_and] using hsuits
  · have hforms := List.all_eq_true.1 (show (snowflakeForms.all fun id =>
      isStatement (.name :: .code " = await interaction.guild.fetch_member(" ::
        (id ++ [.code ")"]))) = true by decide) _ hform
    simpa using hforms

theorem kick_shares :
    Shares ["reason"] kick := by
  intro p s s' h hs
  refine (fetchMember_alike h hs (by simp)).bind fun a b hab => ?_
  obtain ⟨member, fetch⟩ := a
  obtain ⟨rfl, hmember, hfetch⟩ := hab
  refine .pure (.stack (by simp) (.cons hfetch (.cons (.line rfl ⟨?_, ?_⟩) .nil)))
  · simpa [hs.suits] using hmember
  · simp
    decide

theorem ban_shares :
    Shares ["reason"] ban := by
  intro p s s' h hs
  refine (fetchMember_alike h hs (by simp)).bind fun a b hab => ?_
  obtain ⟨member, fetch⟩ := a
  obtain ⟨rfl, hmember, hfetch⟩ := hab
  refine .pure (.stack (by simp) (.cons hfetch (.cons (.line rfl ⟨?_, ?_⟩) .nil)))
  · simpa [hs.suits] using hmember
  · simp
    decide

theorem timeout_shares :
    Shares ["reason"] timeout := by
  intro p s s' h hs
  unfold timeout
  rw [h.valueOr "minutes" _ (by simp)]
  refine (fetchMember_alike h hs (by simp)).bind fun a b hab => ?_
  obtain ⟨member, fetch⟩ := a
  obtain ⟨rfl, hmember, hfetch⟩ := hab
  refine (Emit.Alike.refl _).bind fun minutes _ hminutes => ?_
  subst hminutes
  refine .pure (.stack (by simp) (.cons hfetch (.cons (.line rfl ⟨?_, ?_⟩) .nil)))
  · simpa [hs.suits, IsName.number] using hmember
  · simp
    decide

theorem automodAlert_shares :
    Shares ["message"] automodAlert := by
  intro p s s' h hs
  refine alike_line rfl (by simp [hs.suits]) ?_
  simp
  decide

theorem roleCreate_shares :
    Shares ["name"] roleCreate := by
  intro p s s' h hs
  refine alike_line rfl (by simp [hs.suits]) ?_
  simp
  decide

theorem channelCreate_shares :
    Shares ["name"] channelCreate := by
  intro p s s' h hs
  refine alike_line rfl (by simp [hs.suits]) ?_
  simp
  decide

theorem threadCreate_shares :
    Shares ["name"] threadCreate := by
  intro p s s' h hs
  refine alike_line rfl (by simp [hs.suits]) ?_
  simp
  decide

theorem eventSchedule_shares :
    Shares ["name", "startTime"] eventSchedule := by
  intro p s s' h hs
  refine (Emit.alike_fresh (lexis true) "start_time" (by decide)).bind fun start _ hstart => ?_
  obtain ⟨rfl, hstart⟩ := hstart
  refine alike_line rfl (by simp [hs.suits, hstart]) ?_
  simp
  decide

theorem voiceJoin_shares :
    Shares [] voiceJoin := by
  intro p s s' h hs
  unfold voiceJoin
  rw [h.value "channelId" (by simp)]
  refine (Emit.alike_fresh (lexis true) "voice_channel" (by decide)).bind
    fun channel _ hchannel => ?_
  obtain ⟨rfl, hchannel⟩ := hchannel
  obtain ⟨hsuits, hform⟩ := snowflake_spells (hs.value "channelId")
  refine alike_line rfl ?_ ?_
  · simpa [hchannel, or_imp, forall_and] using hsuits
  · have hforms := List.all_eq_true.1 (show (snowflakeForms.all fun id =>
      isStatement (.name :: .code " = interaction.guild.get_channel(" ::
        (id ++ [.code ")\nawait ", .name, .code ".connect()"]))) = true by decide) _ hform
    simpa using hforms

theorem voiceLeave_shares :
    Shares [] voiceLeave :=
  fun _ _ _ _ _ => alike_line rfl (by simp) (by decide)

theorem wait_shares :
    Shares [] wait := by
  intro p s s' h hs
  unfold wait
  rw [h.valueOr "duration" _ (by simp)]
  refine (Emit.Alike.refl _).bind fun seconds _ hseconds => ?_
  subst hseconds
  refine alike_line rfl (by simp [IsName.number]) ?_
  simp
  decide

/-- The variable that takes a result is the same. -/
theorem target_eq
    {keys : List String}
    {s s' : Subject}
    (h : Subject.Alike keys s s')
    {key : String}
    (hkey : key ∉ keys)
    (fallback : String) :
    target s' key fallback = target s key fallback := by
  unfold target
  rw [h.valueOr key _ hkey]

/-- The variable that takes a result is a name. -/
theorem isName_target
    (s : Subject)
    (key : String)
    {fallback : String}
    (h : (!fallback.toList.isEmpty && fallback.toList.all Text.isPlain) = true) :
    (lexis true).IsName (target s key fallback) :=
  .identifier (.ofString h) _

/-- Expressions that differ in texts only, and with which an assignment is a line of statements. -/
structure SameExpression (p : Char → Bool) (expression expression' : List Piece) : Prop where
  blank : expression'.map Piece.blank = expression.map Piece.blank
  suits : ∀ x ∈ expression, x.Suits (lexis true) p
  form : isStatement (.name :: .code " = " :: expression.map Piece.slot) = true

theorem assign_alike
    {p : Char → Bool}
    {name : Text}
    {expression expression' : List Piece}
    (hname : (lexis true).IsName name)
    (h : SameExpression p expression expression') :
    Code.Same (IsStatement p) (assign name expression) (assign name expression') := by
  refine .line ?_ ⟨?_, ?_⟩
  · simp [h.blank]
  · simpa [hname] using h.suits
  · simpa using h.form

theorem setVariable_shares :
    Shares ["value"] setVariable := by
  intro p s s' h hs
  unfold setVariable
  rw [target_eq h (by simp)]
  refine .pure (assign_alike (isName_target s "name" (by decide)) ⟨rfl, by simp [hs.suits], ?_⟩)
  simp only [List.map_cons, List.map_nil, Piece.slot_code, Subject.slot_literal]
  decide

/-- Remarks are lines of statements. -/
theorem isStatement_remark
    (p : Char → Bool)
    (t : Text) :
    IsStatement p ["#", " ", .remark (Text.squeeze t)] := by
  refine ⟨by simp, ?_⟩
  simp only [List.map_cons, List.map_nil, Piece.slot_code, Piece.slot_remark]
  decide

/-- An operation is an assignment that the table has, or a remark. -/
theorem alike_operation
    {p : Char → Bool}
    {name : Text}
    (hname : (lexis true).IsName name)
    {table table' : List (String × List Piece)}
    (htable : List.Forall₂ (fun a b => a.1 = b.1 ∧ SameExpression p a.2 b.2) table table')
    (operation : String)
    (t : Text) :
    Emit.Alike (Code.Same (IsStatement p))
      (match table.lookup operation with
        | some expression => pure (assign name expression)
        | none => pure (remark t))
      (match table'.lookup operation with
        | some expression => pure (assign name expression)
        | none => pure (remark t)) := by
  have hrel := rel_lookup htable operation
  revert hrel
  generalize table.lookup operation = found
  generalize table'.lookup operation = found'
  rintro (h | _)
  · exact .pure (assign_alike hname h)
  · exact .pure (.line rfl (isStatement_remark p t))

theorem stringManipulation_shares :
    Shares ["input"] stringManipulation := by
  intro p s s' h hs
  unfold stringManipulation
  rw [h.value "operation" (by simp), target_eq h (by simp)]
  refine alike_operation (isName_target s "saveTo" (by decide)) ?_ _ _
  refine .cons ⟨rfl, ?_⟩ (.cons ⟨rfl, ?_⟩ (.cons ⟨rfl, ?_⟩ (.cons ⟨rfl, ?_⟩ (.cons ⟨rfl, ?_⟩ .nil))))
  all_goals
    refine ⟨rfl, by simp [hs.suits], ?_⟩
    simp only [List.map_cons, List.map_nil, Piece.slot_code, Subject.slot_literal]
    decide

theorem mathAdvanced_shares :
    Shares [] mathAdvanced := by
  intro p s s' h hs
  unfold mathAdvanced
  rw [h.value "operation" (by simp), target_eq h (by simp)]
  refine alike_operation (isName_target s "saveTo" (by decide)) ?_ _ _
  refine .cons ⟨rfl, ?_⟩ (.cons ⟨rfl, ?_⟩ (.cons ⟨rfl, ?_⟩ (.cons ⟨rfl, ?_⟩ .nil)))
  all_goals
    refine ⟨rfl, by simp, ?_⟩
    simp only [List.map_cons, List.map_nil, Piece.slot_code]
    decide

theorem httpRequest_shares :
    Shares ["url"] httpRequest := by
  intro p s s' h hs
  unfold httpRequest
  rw [target_eq h (by simp)]
  refine (Emit.alike_fresh (lexis true) "session" (by decide)).bind fun session _ hsession => ?_
  obtain ⟨rfl, hsession⟩ := hsession
  refine (Emit.alike_fresh (lexis true) "resp" (by decide)).bind fun response _ hresponse => ?_
  obtain ⟨rfl, hresponse⟩ := hresponse
  have htarget : (lexis true).IsName (target s "saveTo" "api_result") :=
    isName_target s "saveTo" (by decide)
  refine alike_line rfl (by simpa [hs.suits, hsession, hresponse] using htarget) ?_
  simp
  decide

theorem webhookSend_shares :
    Shares ["url", "content"] webhookSend := by
  intro p s s' h hs
  refine (Emit.alike_fresh (lexis true) "session" (by decide)).bind fun session _ hsession => ?_
  obtain ⟨rfl, hsession⟩ := hsession
  refine (Emit.alike_fresh (lexis true) "resp" (by decide)).bind fun response _ hresponse => ?_
  obtain ⟨rfl, hresponse⟩ := hresponse
  refine alike_line rfl (by simp [hs.suits, hsession, hresponse]) ?_
  simp
  decide

end Actions

/-- The properties of each block type whose texts stand in literals only. -/
def textKeys : List (String × List String) :=
  [("action_reply", ["content", "embed_title", "embed_description"]),
   ("send_message", ["content", "embed_title", "embed_description"]),
   ("action_defer_reply", []), ("edit_reply", ["content"]), ("follow_up", ["content"]),
   ("send_embed", ["title", "description", "embed_title", "embed_description"]),
   ("edit_message", ["content"]), ("delete_message", []), ("console_log", ["message"]),
   ("add_button", ["customId", "label", "content"]),
   ("add_select_menu", ["customId", "placeholder", "content"]),
   ("show_modal", ["customId", "title", "text_input_id", "text_input_label"]),
   ("action_kick", ["reason"]), ("action_ban", ["reason"]), ("member_timeout", ["reason"]),
   ("automod_alert", ["message"]), ("role_create", ["name"]), ("channel_create", ["name"]),
   ("thread_create", ["name"]), ("event_schedule", ["name", "startTime"]), ("voice_join", []),
   ("voice_leave", []), ("wait", []), ("set_variable", ["value"]),
   ("string_manipulation", ["input"]), ("math_advanced", []), ("http_request", ["url"]),
   ("webhook_send", ["url", "content"])]

/-- Every action shares its statements with those of the same block with other texts. -/
theorem actions_share :
    List.Forall₂ (fun a b => a.1 = b.1 ∧ Shares b.2 a.2) actions textKeys := by
  unfold actions textKeys
  simp only [List.forall₂_cons, List.forall₂_nil_left_iff, true_and, and_true]
  exact ⟨reply_shares, sendMessage_shares, deferReply_shares, editReply_shares, followUp_shares,
    sendEmbed_shares, editMessage_shares, deleteMessage_shares, consoleLog_shares,
    addButton_shares, addSelectMenu_shares, showModal_shares, kick_shares, ban_shares,
    timeout_shares, automodAlert_shares, roleCreate_shares, channelCreate_shares,
    threadCreate_shares, eventSchedule_shares, voiceJoin_shares, voiceLeave_shares, wait_shares,
    setVariable_shares, stringManipulation_shares, mathAdvanced_shares, httpRequest_shares,
    webhookSend_shares⟩

/-- The properties of a block type whose texts stand in literals only. -/
def textKeysOf (type : String) : List String :=
  (textKeys.lookup type).getD []

/-- So do all blocks that do not branch. -/
theorem emitAction_alike
    {p : Char → Bool}
    {s s' : Subject}
    (h : Subject.Alike (textKeysOf s.block.type) s s')
    (hs : s.Speaks p) :
    Emit.Alike (Code.Same (IsStatement p)) (dialect.emitAction s) (dialect.emitAction s') :=
  Dialect.emitAction_alike (d := dialect) (P := IsStatement) actions_share isStatement_remark h hs

end BotCanvas.Offside
