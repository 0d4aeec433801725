import BotCanvas.Offside.Frame

/-!
# Actions in the language with suites

The statements of each block type that does not branch.
-/

namespace BotCanvas.Offside

/-- The spelling of a flag. -/
def boolWord (b : Bool) : Piece :=
  .code (if b then "True" else "False")

/-- Makes an embed under a fresh name. -/
def embed (title description : Piece) (colour : Text) : Emit (Text × Code) := do
  let name ← Emit.fresh "embed"
  pure (name, .line [.name name, " = discord.Embed(title=\"", title, "\", description=\"",
    description, "\", color=", .name (Text.replaceChar '#' "0x" colour), ")"])

/-- Makes the embed of a message. -/
def messageEmbed (s : Subject) : Emit (Text × Code) :=
  embed (s.literal "embed_title") (s.literal "embed_description")
    (s.value "embed_color").asColour

/-- Answers an interaction. -/
def reply (s : Subject) : Emit Code := do
  let ephemeral := boolWord (s.flag "ephemeral")
  if s.flag "useEmbed" then
    let (name, code) ← messageEmbed s
    pure (.stack [code, .line ["await interaction.response.send_message(embed=", .name name,
      ", ephemeral=", ephemeral, ")"]])
  else
    pure (.line ["await interaction.response.send_message(\"", s.literal "content",
      "\", ephemeral=", ephemeral, ")"])

/-- The channel that a message goes to: the one given, which is fetched first, or the one that the
interaction came from. -/
def messageChannel (s : Subject) : Emit (List Code × Text) := do
  let channel := Text.strip (s.value "channel_id").display
  if channel.isEmpty then pure ([], "interaction.channel".toList)
  else
    let name ← Emit.fresh "channel"
    let id := snowflake (.str (String.ofList channel))
    pure ([.line (.name name :: " = bot.get_channel(" :: (id ++
      (.code ") or await bot.fetch_channel(" :: (id ++ [.code ")"]))))], name)

/-- Sends a message to a channel. -/
def sendMessage (s : Subject) : Emit Code := do
  let (fetch, target) ← messageChannel s
  if s.flag "useEmbed" then
    let (name, code) ← messageEmbed s
    pure (.stack (fetch ++ [code, .line ["await ", .name target, ".send(embed=", .name name,
      ")"]]))
  else
    pure (.stack (fetch ++ [.line ["await ", .name target, ".send(content=\"",
      s.literal "content", "\")"]]))

/-- Acknowledges an interaction. -/
def deferReply (s : Subject) : Emit Code :=
  pure (.line ["await interaction.response.defer(ephemeral=", boolWord (s.flag "ephemeral"),
    ")"])

/-- Changes an answer. -/
def editReply (s : Subject) : Emit Code :=
  pure (.line ["await interaction.edit_original_response(content=\"", s.literal "content",
    "\")"])

/-- Answers once more. -/
def followUp (s : Subject) : Emit Code :=
  pure (.line ["await interaction.followup.send(\"", s.literal "content", "\", ephemeral=",
    boolWord (s.flag "ephemeral"), ")"])

/-- A property of an embed block, with the property of an embed inside a message as fallback. -/
def embedText (s : Subject) (key messageKey : String) : Piece :=
  .literal (s.valueOr key (s.stored messageKey)).display

/-- The colour of an embed block. -/
def embedColour (s : Subject) : Text :=
  (if (s.stored "color").isPresent then s.stored "color" else s.stored "embed_color").asColour

/-- Answers with an embed. -/
def sendEmbed (s : Subject) : Emit Code := do
  let (name, code) ← embed (embedText s "title" "embed_title")
    (embedText s "description" "embed_description") (embedColour s)
  pure (.stack [code, .line ["await interaction.response.send_message(embed=", .name name,
    ")"]])

/-- Changes the message that an interaction is about. -/
def editMessage (s : Subject) : Emit Code :=
  pure (.line ["await interaction.message.edit(content=\"", s.literal "content", "\")"])

/-- Deletes the message that an interaction is about. -/
def deleteMessage (_ : Subject) : Emit Code :=
  pure "await interaction.message.delete()"

/-- Writes to the console. -/
def consoleLog (s : Subject) : Emit Code :=
  pure (.line ["print(\"", s.literalOr "message" "[Log Block]", "\")"])

/-- The name of a style, in small letters. -/
def styleName (s : Subject) (key standard : String) (fallback : Text) : Text :=
  let name := Name.snake (s.valueOr key (.str standard)).display
  if name.isEmpty then fallback else name

/-- Answers with a button. -/
def addButton (s : Subject) : Emit Code := do
  let view ← Emit.fresh "view"
  pure (.line [.name view, " = discord.ui.View()\n", .name view,
    ".add_item(discord.ui.Button(label=\"", s.literal "label", "\", style=discord.ButtonStyle.",
    .name (styleName s "style" "Primary" "primary"), ", custom_id=\"", s.literal "customId",
    "\"))\nawait interaction.response.send_message(\"", s.literal "content", "\", view=",
    .name view, ")"])

/-- Answers with a select menu. -/
def addSelectMenu (s : Subject) : Emit Code := do
  let view ← Emit.fresh "view"
  pure (.line [.name view, " = discord.ui.View()\n", .name view,
    ".add_item(discord.ui.Select(\n    custom_id=\"", s.literal "customId",
    "\",\n    placeholder=\"", s.literal "placeholder",
    "\",\n    options=[discord.SelectOption(label=\"Option 1\", value=\"option_1\")],\n))\nawait interaction.response.send_message(\"",
    s.literal "content", "\", view=", .name view, ")"])

/-- Shows a form. -/
def showModal (s : Subject) : Emit Code := do
  let modal ← Emit.fresh "modal"
  pure (.line [.name modal, " = discord.ui.Modal(title=\"", s.literal "title",
    "\", custom_id=\"", s.literal "customId", "\")\n", .name modal,
    ".add_item(discord.ui.TextInput(\n    label=\"", s.literal "text_input_label",
    "\",\n    custom_id=\"", s.literal "text_input_id", "\",\n    style=discord.TextStyle.",
    .name (styleName s "text_input_style" "Short" "short"),
    ",\n))\nawait interaction.response.send_modal(", .name modal, ")"])

/-- Fetches the member that a block is about. -/
def fetchMember (s : Subject) : Emit (Text × Code) := do
  let member ← Emit.fresh "member"
  pure (member, .line (.name member :: " = await interaction.guild.fetch_member(" ::
    (snowflake (s.value "userId") ++ [.code ")"])))

/-- Kicks a member. -/
def kick (s : Subject) : Emit Code := do
  let (member, fetch) ← fetchMember s
  pure (.stack [fetch, .line ["await ", .name member, ".kick(reason=\"", s.literal "reason",
    "\")"]])

/-- Bans a member. -/
def ban (s : Subject) : Emit Code := do
  let (member, fetch) ← fetchMember s
  pure (.stack [fetch, .line ["await ", .name member, ".ban(reason=\"", s.literal "reason",
    "\")"]])

/-- Silences a member for some minutes. -/
def timeout (s : Subject) : Emit Code := do
  let (member, fetch) ← fetchMember s
  let minutes ← Emit.number (s.valueOr "minutes" (.int 10)) 10
  pure (.stack [fetch, .line ["await ", .name member, ".timeout(datetime.timedelta(minutes=",
    .name minutes.text, "), reason=\"", s.literal "reason", "\")"]])

/-- Raises an alert on the console. -/
def automodAlert (s : Subject) : Emit Code :=
  pure (.line ["print(\"[AutoMod Alert]: ", s.literal "message", "\")"])

/-- Makes a role. -/
def roleCreate (s : Subject) : Emit Code :=
  pure (.line ["await interaction.guild.create_role(name=\"", s.literal "name",
    "\", reason=\"System action\")"])

/-- Makes a channel. -/
def channelCreate (s : Subject) : Emit Code :=
  pure (.line ["await interaction.guild.create_text_channel(\"", s.literal "name", "\")"])

/-- Makes a thread. -/
def threadCreate (s : Subject) : Emit Code :=
  pure (.line ["await interaction.channel.create_thread(name=\"", s.literal "name",
    "\", auto_archive_duration=60)"])

/-- Schedules an event of one hour. -/
def eventSchedule (s : Subject) : Emit Code := do
  let start ← Emit.fresh "start_time"
  pure (.line [.name start, " = datetime.datetime.fromisoformat(\"", s.literal "startTime",
    "\")\nawait interaction.guild.create_scheduled_event(\n    name=\"", s.literal "name",
    "\",\n    start_time=", .name start, ",\n    end_time=", .name start,
    " + datetime.timedelta(hours=1),\n    entity_type=discord.EntityType.external,\n    location=\"Discord\",\n    privacy_level=discord.PrivacyLevel.guild_only,\n)"])

/-- Joins a voice channel. -/
def voiceJoin (s : Subject) : Emit Code := do
  let channel ← Emit.fresh "voice_channel"
  pure (.line (.name channel :: " = interaction.guild.get_channel(" ::
    (snowflake (s.value "channelId") ++
      [.code ")\nawait ", .name channel, .code ".connect()"])))

/-- Leaves the voice channel. -/
def voiceLeave (_ : Subject) : Emit Code :=
  pure "if interaction.guild.voice_client:\n    await interaction.guild.voice_client.disconnect()"

/-- Waits some seconds. -/
def wait (s : Subject) : Emit Code := do
  let seconds ← Emit.number (s.valueOr "duration" (.int 1)) 1
  pure (.line ["await asyncio.sleep(", .name seconds.text, ")"])

/-- The variable that takes a result. -/
def target (s : Subject) (key fallback : String) : Text :=
  Name.identifier fallback.toList (s.valueOr key (.str fallback)).display

/-- Assigns to a variable. -/
def assign (name : Text) (expression : List Piece) : Code :=
  .line (.name name :: " = " :: expression)

/-- Sets a variable. -/
def setVariable (s : Subject) : Emit Code :=
  pure (assign (target s "name" "v") ["\"", s.literal "value", "\""])

/-- A remark on one line. -/
def remark (t : Text) : Code :=
  .remarkLine "#" t

/-- The operations on a text. -/
def stringExpressions (input : Piece) : List (String × List Piece) :=
  [("split", ["\"", input, "\".split(\" \")"]),
   ("join", ["\" \".join([\"", input, "\"])"]),
   ("replace", ["\"", input, "\".replace(\"a\", \"b\")"]),
   ("upper", ["\"", input, "\".upper()"]),
   ("lower", ["\"", input, "\".lower()"])]

/-- Computes with a text. -/
def stringManipulation (s : Subject) : Emit Code :=
  let operation := (s.value "operation").display
  match (stringExpressions (s.literal "input")).lookup (String.ofList operation) with
  | some expression => pure (assign (target s "saveTo" "str_result") expression)
  | none => pure (remark ("String Op: ".toList ++ operation))

/-- The operations on numbers. -/
def mathExpressions : List (String × List Piece) :=
  [("pow", ["pow(2, 3)"]), ("sqrt", ["math.sqrt(16)"]), ("round", ["round(10.5)"]),
   ("random_range", ["random.randint(0, 100)"])]

/-- Computes with numbers. -/
def mathAdvanced (s : Subject) : Emit Code :=
  let operation := (s.value "operation").display
  match mathExpressions.lookup (String.ofList operation) with
  | some expression => pure (assign (target s "saveTo" "math_result") expression)
  | none => pure (remark ("Math Op: ".toList ++ operation))

/-- Fetches a document. -/
def httpRequest (s : Subject) : Emit Code := do
  let session ← Emit.fresh "session"
  let response ← Emit.fresh "resp"
  pure (.line ["async with aiohttp.ClientSession() as ", .name session, ":\n    async with ",
    .name session, ".get(\"", s.literal "url", "\") as ", .name response, ":\n        ",
    .name (target s "saveTo" "api_result"), " = await ", .name response, ".json()"])

/-- Posts a message to a webhook. -/
def webhookSend (s : Subject) : Emit Code := do
  let session ← Emit.fresh "session"
  let response ← Emit.fresh "resp"
  pure (.line ["async with aiohttp.ClientSession() as ", .name session, ":\n    async with ",
    .name session, ".post(\"", s.literal "url", "\", json=\x7b\"content\": \"",
    s.literal "content", "\"\x7d) as ", .name response, ":\n        if ", .name response,
    ".status >= 400:\n            print(\"Webhook failed\", ", .name response, ".status)"])

/-- The statements of each action by block type. -/
def actions : List (String × (Subject → Emit Code)) :=
  [("action_reply", reply), ("send_message", sendMessage), ("action_defer_reply", deferReply),
   ("edit_reply", editReply), ("follow_up", followUp), ("send_embed", sendEmbed),
   ("edit_message", editMessage), ("delete_message", deleteMessage),
   ("console_log", consoleLog), ("add_button", addButton), ("add_select_menu", addSelectMenu),
   ("show_modal", showModal), ("action_kick", kick), ("action_ban", ban),
   ("member_timeout", timeout), ("automod_alert", automodAlert), ("role_create", roleCreate),
   ("channel_create", channelCreate), ("thread_create", threadCreate),
   ("event_schedule", eventSchedule), ("voice_join", voiceJoin), ("voice_leave", voiceLeave),
   ("wait", wait), ("set_variable", setVariable), ("string_manipulation", stringManipulation),
   ("math_advanced", mathAdvanced), ("http_request", httpRequest),
   ("webhook_send", webhookSend)]

/-- The dialect of the language with suites. -/
def dialect : Dialect where
  language := "discord.py"
  entryPoint := "main.py"
  manifestPath := "requirements.txt"
  spelling := spelling
  noop := noop
  remarkMark := "#"
  sectionSeparator := sectionSeparator
  installCommand := "pip install -r requirements.txt"
  runCommand := "python main.py"
  docsUrl := "https://discordpy.readthedocs.io"
  eventName := eventName
  header := header
  footer := footer
  guarded := guarded
  suite := suite
  choice := choice
  gate := gate
  recovery := recovery
  actions := actions
  handler := handler
  dependencies := dependencies

end BotCanvas.Offside
