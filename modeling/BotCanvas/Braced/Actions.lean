import BotCanvas.Braced.Frame
import BotCanvas.Name.Identifier

/-!
# Actions in the language with braces

The statements of each block type that does not branch.
-/

namespace BotCanvas.Braced

/-- The spelling of a flag. -/
def boolWord (b : Bool) : Piece :=
  .code (if b then "true" else "false")

/-- Makes an embed under a fresh name. -/
def embed (title description : Piece) (colour : Text) : Emit (Text × Code) := do
  let name ← Emit.fresh "embed"
  pure (name, .line ["const ", .name name, " = new EmbedBuilder()\n  .setTitle(`", title,
    "`)\n  .setDescription(`", description, "`)\n  .setColor('", .name colour, "');"])

/-- Makes the embed of a message. -/
def messageEmbed (s : Subject) : Emit (Text × Code) :=
  embed (s.literal "embed_title") (s.literal "embed_description")
    (s.value "embed_color").asColour

/-- Answers an interaction. -/
def reply (s : Subject) : Emit Code := do
  let ephemeral := boolWord (s.flag "ephemeral")
  if s.flag "useEmbed" then
    let (name, code) ← messageEmbed s
    pure (.stack [code, .line ["await interaction.reply(\x7b embeds: [", .name name,
      "], ephemeral: ", ephemeral, " \x7d);"]])
  else
    pure (.line ["await interaction.reply(\x7b content: `", s.literal "content",
      "`, ephemeral: ", ephemeral, " \x7d);"])

/-- The channel that a message goes to: the one given, which is fetched first, or the one that the
interaction came from. -/
def messageChannel (s : Subject) : Emit (List Code × Text) := do
  let channel := Text.strip (s.value "channel_id").display
  if channel.isEmpty then pure ([], "interaction.channel".toList)
  else
    let name ← Emit.fresh "channel"
    pure ([.line ["const ", .name name, " = await client.channels.fetch('", .literal channel,
      "');"]], name)

/-- Sends a message to a channel. -/
def sendMessage (s : Subject) : Emit Code := do
  let (fetch, target) ← messageChannel s
  if s.flag "useEmbed" then
    let (name, code) ← messageEmbed s
    pure (.stack (fetch ++ [code, .line ["await ", .name target, ".send(\x7b embeds: [",
      .name name, "] \x7d);"]]))
  else
    pure (.stack (fetch ++ [.line ["await ", .name target, ".send(\x7b content: `",
      s.literal "content", "` \x7d);"]]))

/-- Acknowledges an interaction. -/
def deferReply (s : Subject) : Emit Code :=
  pure (.line ["await interaction.deferReply(\x7b ephemeral: ", boolWord (s.flag "ephemeral"),
    " \x7d);"])

/-- Changes an answer. -/
def editReply (s : Subject) : Emit Code :=
  pure (.line ["await interaction.editReply(\x7b content: `", s.literal "content", "` \x7d);"])

/-- Answers once more. -/
def followUp (s : Subject) : Emit Code :=
  pure (.line ["await interaction.followUp(\x7b content: `", s.literal "content",
    "`, ephemeral: ", boolWord (s.flag "ephemeral"), " \x7d);"])

/-- A property of an embed block, with the property of an embed inside a message as fallback. -/
def embedText (s : Subject) (key messageKey : String) : Piece :=
  .literal (s.valueOr key (s.stored messageKey)).display

/-- The colour of an embed block. -/
def embedColour (s : Subject) : Text :=
  (if (s.stored "color").isPresent then s.stored "color" else s.stored "embed_color").asColour

/-- Answers with an embed. -/
def sendEmbed (s : Subject) : Emit Code := do
  let (name, code) ← embed (embedText s "title" "embed_title")
    (embedText s "description" "embed_description") (embedColour s)
  pure (.stack [code, .line ["await interaction.reply(\x7b embeds: [", .name name, "] \x7d);"]])

/-- Changes the message that an interaction is about. -/
def editMessage (s : Subject) : Emit Code :=
  pure (.line ["await interaction.message.edit(\x7b content: `", s.literal "content",
    "` \x7d);"])

/-- Deletes the message that an interaction is about. -/
def deleteMessage (_ : Subject) : Emit Code :=
  pure "await interaction.message.delete();"

/-- Writes to the console. -/
def consoleLog (s : Subject) : Emit Code :=
  pure (.line ["console.log('", s.literalOr "message" "[Log Block]", "');"])

/-- Answers with a button. -/
def addButton (s : Subject) : Emit Code := do
  let button ← Emit.fresh "button"
  let row ← Emit.fresh "row"
  pure (.line ["const ", .name button, " = new ButtonBuilder()\n  .setCustomId('",
    s.literal "customId", "')\n  .setLabel('", s.literal "label",
    "')\n  .setStyle(ButtonStyle.", .name (flagName "Primary" (s.value "style")), ");\nconst ",
    .name row, " = new ActionRowBuilder().addComponents(", .name button,
    ");\nawait interaction.reply(\x7b content: `", s.literal "content", "`, components: [",
    .name row, "] \x7d);"])

/-- Answers with a select menu. -/
def addSelectMenu (s : Subject) : Emit Code := do
  let select ← Emit.fresh "select"
  let row ← Emit.fresh "rowMenu"
  pure (.line ["const ", .name select, " = new StringSelectMenuBuilder()\n  .setCustomId('",
    s.literal "customId", "')\n  .setPlaceholder('", s.literal "placeholder",
    "')\n  .addOptions(\x7b label: 'Option 1', value: 'option_1' \x7d);\nconst ", .name row,
    " = new ActionRowBuilder().addComponents(", .name select,
    ");\nawait interaction.reply(\x7b content: `", s.literal "content", "`, components: [",
    .name row, "] \x7d);"])

/-- Shows a form. -/
def showModal (s : Subject) : Emit Code := do
  let modal ← Emit.fresh "modal"
  let field ← Emit.fresh "input"
  let row ← Emit.fresh "modalRow"
  pure (.line ["const ", .name modal, " = new ModalBuilder()\n  .setCustomId('",
    s.literal "customId", "')\n  .setTitle('", s.literal "title", "');\nconst ", .name field,
    " = new TextInputBuilder()\n  .setCustomId('", s.literal "text_input_id",
    "')\n  .setLabel('", s.literal "text_input_label", "')\n  .setStyle(TextInputStyle.",
    .name (flagName "Short" (s.value "text_input_style")), ");\nconst ", .name row,
    " = new ActionRowBuilder().addComponents(", .name field, ");\n", .name modal,
    ".addComponents(", .name row, ");\nawait interaction.showModal(", .name modal, ");"])

/-- Kicks a member. -/
def kick (s : Subject) : Emit Code :=
  pure (.line ["await interaction.guild.members.kick('", s.literal "userId", "', '",
    s.literal "reason", "');"])

/-- Bans a member. -/
def ban (s : Subject) : Emit Code :=
  pure (.line ["await interaction.guild.members.ban('", s.literal "userId",
    "', \x7b reason: '", s.literal "reason", "' \x7d);"])

/-- Silences a member for some minutes, which the library counts in milliseconds. -/
def timeout (s : Subject) : Emit Code := do
  let member ← Emit.fresh "member"
  let minutes ← Emit.number (s.valueOr "minutes" (.int 10)) 10
  let milliseconds ← Emit.normalise (minutes.scale 60000)
  pure (.line ["const ", .name member, " = await interaction.guild.members.fetch('",
    s.literal "userId", "');\nawait ", .name member, ".timeout(", .name milliseconds.text,
    ", '", s.literal "reason", "');"])

/-- Raises an alert on the console. -/
def automodAlert (s : Subject) : Emit Code :=
  pure (.line ["console.log('[AutoMod Alert]: ", s.literal "message", "');"])

/-- Makes a role. -/
def roleCreate (s : Subject) : Emit Code :=
  pure (.line ["await interaction.guild.roles.create(\x7b name: '", s.literal "name",
    "', reason: 'System action' \x7d);"])

/-- Makes a channel. -/
def channelCreate (s : Subject) : Emit Code :=
  pure (.line ["await interaction.guild.channels.create(\x7b name: '", s.literal "name",
    "' \x7d);"])

/-- Makes a thread. -/
def threadCreate (s : Subject) : Emit Code :=
  pure (.line ["await interaction.channel.threads.create(\x7b name: '", s.literal "name",
    "', autoArchiveDuration: 60 \x7d);"])

/-- Schedules an event. -/
def eventSchedule (s : Subject) : Emit Code :=
  pure (.line ["await interaction.guild.scheduledEvents.create(\x7b name: '",
    s.literal "name", "', scheduledStartTime: '", s.literal "startTime",
    "', privacyLevel: 2, entityType: 3 \x7d);"])

/-- Joins a voice channel. -/
def voiceJoin (s : Subject) : Emit Code :=
  pure (.line ["joinVoiceChannel(\x7b channelId: '", s.literal "channelId",
    "', guildId: interaction.guildId, adapterCreator: interaction.guild.voiceAdapterCreator \x7d);"])

/-- Leaves the voice channel. -/
def voiceLeave (_ : Subject) : Emit Code := do
  let connection ← Emit.fresh "connection"
  pure (.line ["const ", .name connection, " = getVoiceConnection(interaction.guildId);\nif (",
    .name connection, ") ", .name connection, ".destroy();"])

/-- Waits some seconds, which the library counts in milliseconds. -/
def wait (s : Subject) : Emit Code := do
  let seconds ← Emit.number (s.valueOr "duration" (.int 1)) 1
  let milliseconds ← Emit.normalise (seconds.scale 1000)
  pure (.line ["await new Promise(r => setTimeout(r, ", .name milliseconds.text, "));"])

/-- Assigns to a variable, and declares it the first time. -/
def assign (name : Text) (expression : List Piece) : Emit Code := do
  let first ← Emit.declare name
  pure (.line (.code (if first then "let " else "") :: .name name :: " = " ::
    (expression ++ [.code ";"])))

/-- The variable that takes a result. -/
def target (s : Subject) (key fallback : String) : Text :=
  Name.identifier fallback.toList (s.valueOr key (.str fallback)).display

/-- Sets a variable. -/
def setVariable (s : Subject) : Emit Code :=
  assign (target s "name" "v") ["`", s.literal "value", "`"]

/-- The operations on a text. -/
def stringExpressions (input : Piece) : List (String × List Piece) :=
  [("split", ["\"", input, "\".split(' ')"]),
   ("join", ["[\"", input, "\"].join(' ')"]),
   ("replace", ["\"", input, "\".replace('a', 'b')"]),
   ("upper", ["\"", input, "\".toUpperCase()"]),
   ("lower", ["\"", input, "\".toLowerCase()"])]

/-- A remark on one line. -/
def remark (t : Text) : Code :=
  .remarkLine "//" t

/-- Computes with a text. -/
def stringManipulation (s : Subject) : Emit Code :=
  let operation := (s.value "operation").display
  match (stringExpressions (s.literal "input")).lookup (String.ofList operation) with
  | some expression => assign (target s "saveTo" "strResult") expression
  | none => pure (remark ("String Op: ".toList ++ operation))

/-- The operations on numbers. -/
def mathExpressions : List (String × List Piece) :=
  [("pow", ["Math.pow(2, 3)"]), ("sqrt", ["Math.sqrt(16)"]), ("round", ["Math.round(10.5)"]),
   ("random_range", ["Math.floor(Math.random() * 100)"])]

/-- Computes with numbers. -/
def mathAdvanced (s : Subject) : Emit Code :=
  let operation := (s.value "operation").display
  match mathExpressions.lookup (String.ofList operation) with
  | some expression => assign (target s "saveTo" "mathResult") expression
  | none => pure (remark ("Math Op: ".toList ++ operation))

/-- Fetches a document. -/
def httpRequest (s : Subject) : Emit Code := do
  let response ← Emit.fresh "response"
  let assignment ← assign (target s "saveTo" "apiResult") ["await ", .name response, ".json()"]
  pure (.stack [.line ["const ", .name response, " = await fetch('", s.literal "url", "');"],
    assignment])

/-- Posts a message to a webhook. -/
def webhookSend (s : Subject) : Emit Code := do
  let response ← Emit.fresh "webhookRes"
  pure (.line ["const ", .name response, " = await fetch('", s.literal "url",
    "', \x7b method: 'POST', headers: \x7b 'Content-Type': 'application/json' \x7d, body: JSON.stringify(\x7b content: `",
    s.literal "content", "` \x7d) \x7d);\nif (!", .name response,
    ".ok) console.error('Webhook failed', ", .name response, ".status);"])

/-- The statements of each action by block type. -/
def actions : List (String × (Subject → Emit Code)) :=
  [("action_reply", reply), ("send_message", sendMessage), ("action_defer_reply", deferReply),
   ("edit_reply", editReply), ("follow_up", followUp), ("send_embed", sendEmbed),
   ("edit_message", editMessage), ("delete_message", deleteMessage),
   ("console_log", consoleLog), ("add_button", addButton), ("add_select_menu", addSelectMenu),
   ("show_modal", showModal), ("action_kick", kick), ("action_ban", ban),
   ("member_timeout", timeout), ("automod_alert", automodAlert), ("role_create", roleCreate),
   ("channel_create", channelCreate), ("thread_create", threadCreate),
   ("event_schedule", eventSchedule), ("voice_join", voiceJoin), ("voice_leave", voiceLeave),
   ("wait", wait), ("set_variable", setVariable), ("string_manipulation", stringManipulation),
   ("math_advanced", mathAdvanced), ("http_request", httpRequest),
   ("webhook_send", webhookSend)]

/-- The dialect of the language with braces. -/
def dialect : Dialect where
  language := "discord.js"
  entryPoint := "index.js"
  manifestPath := "package.json"
  spelling := spelling
  noop := noop
  remarkMark := "//"
  sectionSeparator := "\n\n"
  installCommand := "npm install"
  runCommand := "npm start"
  docsUrl := "https://discord.js.org"
  eventName := eventName
  header := header
  footer := footer
  guarded := guarded
  suite := id
  choice := choice
  gate := gate
  recovery := recovery
  actions := actions
  handler _ _ kind guard body subcommands := pure (handler kind guard body subcommands)
  dependencies := dependencies

end BotCanvas.Braced
