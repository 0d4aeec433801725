import BotCanvas.Braced.Spelling
import BotCanvas.Program.Dialect

/-!
# Programs in the language with braces

What surrounds the statements: the header with its imports, the error guard, branches, handlers,
and the footer that registers the commands.
-/

namespace BotCanvas.Braced

/-- The line that does nothing. -/
def noop : Text := "// Define logic components..."

/-- The first lines: the imports of the library. -/
def importLines : List Code :=
  ["require('dotenv').config();",
   "const \x7b",
   "  Client,",
   "  GatewayIntentBits,",
   "  EmbedBuilder,",
   "  ActionRowBuilder,",
   "  ButtonBuilder,",
   "  ButtonStyle,",
   "  StringSelectMenuBuilder,",
   "  ModalBuilder,",
   "  TextInputBuilder,",
   "  TextInputStyle,",
   "  PermissionFlagsBits,",
   "  ApplicationCommandOptionType,",
   "\x7d = require('discord.js');"]

/-- The import of the voice library. -/
def voiceImport : Code :=
  "const \x7b joinVoiceChannel, getVoiceConnection \x7d = require('@discordjs/voice');"

/-- The lines that make the client. -/
def clientLines : List Code :=
  ["",
   "const client = new Client(\x7b",
   "  intents: [",
   "    GatewayIntentBits.Guilds,",
   "    GatewayIntentBits.GuildMessages,",
   "    GatewayIntentBits.MessageContent,",
   "    GatewayIntentBits.GuildMembers,",
   "    GatewayIntentBits.GuildVoiceStates,",
   "  ],",
   "\x7d);"]

/-- What comes first in a program. -/
def header (types : List String) : Code :=
  .stack (importLines ++ (if usesAny types voiceTypes then [voiceImport] else []) ++ clientLines)

/-- A description as it is registered: on one line, within the limit. -/
def description (t : Text) : Piece :=
  .literal ((Text.squeeze t).take Value.descriptionLimit)

/-- The registration of a command. -/
def registration (c : CommandSpec) : List Code :=
  let entry : List Piece :=
    ["name: '", .literal c.name, "', description: '", description c.description, "'"]
  let opened (closing : String) : Code := .line (.code "  \x7b " :: entry ++ [.code closing])
  let options : List Code := c.subcommands.map fun (name, summary) =>
    .line ["      \x7b type: ApplicationCommandOptionType.Subcommand, name: '", .literal name,
      "', description: '", description summary, "' \x7d,"]
  let closing : List Code := ["    ],", "  \x7d,"]
  if c.subcommands.isEmpty then [opened " \x7d,"]
  else opened "," :: "    options: [" :: (options ++ closing)

/-- The commands without later ones of a name that came before. -/
def firstOfEachName : List CommandSpec → List CommandSpec :=
  List.foldl (fun kept c => if kept.any fun k => k.name == c.name then kept else kept ++ [c]) []

/-- The lines that start the client. -/
def startLines : List Code :=
  ["];",
   "",
   "client.once('ready', async () => \x7b",
   "  if (commands.length > 0) \x7b",
   "    await client.application.commands.set(commands);",
   "  \x7d",
   "  console.log(`Logged in as $\x7bclient.user.tag\x7d`);",
   "\x7d);",
   "",
   "client.login(process.env.BOT_TOKEN);"]

/-- What comes last in a program. -/
def footer (commands : List CommandSpec) : Code :=
  .stack ("const commands = [" :: ((firstOfEachName commands).flatMap registration ++ startLines))

/-- The lines that answer an interaction after an error. -/
def replyLines : List Code :=
  ["  if (!interaction.replied && !interaction.deferred) \x7b",
   .line ["    await interaction.reply(\x7b content: '", .code errorReply,
     "', ephemeral: true \x7d);"],
   "  \x7d"]

/-- Code whose errors are logged under a label and, if asked for, answered. -/
def guarded (label : Text) (body : Code) (reply : Bool) : Code :=
  .stack ("try \x7b" :: body.deeper :: "\x7d catch (error) \x7b" ::
    .line ["  console.error('[", .literal label, "] Error:', error);"] ::
    ((if reply then replyLines else []) ++ ([("\x7d" : Code)])))

/-- The condition of a choice. -/
def condition (s : Subject) : List Piece :=
  if s.block.type = "condition_has_role" then
    ["interaction.member.roles.cache.has('", s.literal "roleId", "')"]
  else if s.block.type = "condition_has_permission" then
    ["interaction.member.permissions.has(PermissionFlagsBits.",
      .name (permissionName (s.value "permission")), ")"]
  else
    let spelled := Text.strip (s.valueOr "condition" (.str "true")).display
    [.condition (if spelled.isEmpty then "true" else spelled)]

/-- A choice between two arms. -/
def choice (s : Subject) (yes no : Code) : Code :=
  .stack [.line ("if (" :: (condition s ++ [.code ") \x7b"])), yes.deeper, "\x7d else \x7b", no.deeper,
    "\x7d"]

/-- Whose permissions a check looks at. -/
def permissionSource (type : String) : String :=
  if type = "check_bot_permissions" then "appPermissions" else "memberPermissions"

/-- The answer to a member without the permission. -/
def denial : Code :=
  .line ["await interaction.reply(\x7b content: '", .code deniedReply,
    "', ephemeral: true \x7d);"]

/-- A permission check. -/
def gate (s : Subject) (denied allowed : Option Code) : Code :=
  .stack (.line ["if (!interaction.", .code (permissionSource s.block.type),
      "?.has(PermissionFlagsBits.", .name (permissionName (s.value "permission")), ")) \x7b"] ::
    (denied.getD denial).deeper :: Code.deeper "return;" :: "\x7d" :: allowed.toList)

/-- A body whose errors are caught, and logged if the block says so. -/
def recovery (s : Subject) (body : Code) : Code :=
  let onError : Code :=
    if s.flag "logToConsole" then
      .line ["console.error('", s.literal "errorMessage", "', error);"]
    else .written noop
  .stack ["try \x7b", body.deeper, "\x7d catch (error) \x7b", onError.deeper, "\x7d"]

/-- A handler of interactions that pass a test. -/
def onInteraction (test : List Piece) (body : Code) : Code :=
  .stack ["client.on('interactionCreate', async (interaction) => \x7b",
    .line ("  if (" :: (test ++ [.code ") \x7b"])), .nest 2 body, "  \x7d", "\x7d);"]

/-- The dispatch of a command to its subcommands. -/
def dispatch (subcommands : List Subcommand) : Code :=
  let cases : List Code := subcommands.zipIdx.flatMap fun (sub, index) =>
    [.line [.code (if index = 0 then "if" else "\x7d else if"), " (subcommand === '",
      .literal sub.name, "') \x7b"], sub.body.deeper]
  .stack ("const subcommand = interaction.options.getSubcommand(false);" ::
    (cases ++ [("\x7d" : Code)]))

/-- The branch chain of a slash command: the same body for a chat command and for the two kinds of
context menu. -/
def slashChain (body : Code) : Code :=
  .stack ["if (interaction.isChatInputCommand()) \x7b", body.deeper,
    "\x7d else if (interaction.isUserContextMenuCommand()) \x7b", body.deeper,
    "\x7d else if (interaction.isMessageContextMenuCommand()) \x7b", body.deeper, "\x7d"]

/-- Tests for code that is nothing but the line that does nothing. -/
def isNoop (body : Code) : Bool :=
  body.amountsTo spelling noop

/-- The handler of a trigger. -/
def handler (kind : TriggerKind) (guard : Text) (body : Code) (subcommands : List Subcommand) :
    Code :=
  match kind with
  | .slash =>
      if subcommands.isEmpty then
        onInteraction ["interaction.commandName === '", .literal guard, "'"]
          (if isNoop body then slashChain body else guarded guard (slashChain body) true)
      else
        onInteraction
          ["interaction.isChatInputCommand() && interaction.commandName === '", .literal guard,
            "'"]
          (guarded guard (dispatch subcommands) true)
  | .component =>
      onInteraction ["interaction.customId === '", .literal guard, "'"]
        (if isNoop body then body else guarded guard body true)
  | .event =>
      let event := eventName guard
      .stack [.line ["client.on('", .name event, "', async (interaction) => \x7b"],
        (if isNoop body then body else guarded event body false).deeper, "\x7d);"]

/-- The packages of every program. -/
def basePackages : List (String × String) :=
  [("discord.js", "^14.14.1"), ("dotenv", "^16.4.5")]

/-- The packages of programs that use voice channels. -/
def voicePackages : List (String × String) :=
  [("@discordjs/voice", "^0.16.1"), ("libsodium-wrappers", "^0.7.13")]

/-- The packages that a program needs. -/
def dependencies (program : Text) (types : List String) : List (String × String) :=
  if usesAny types voiceTypes || Text.occursIn "@discordjs/voice" program then
    basePackages ++ voicePackages
  else basePackages

end BotCanvas.Braced
