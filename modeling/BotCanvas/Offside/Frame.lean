import BotCanvas.Name.Identifier
import BotCanvas.Offside.Condition
import BotCanvas.Offside.Spelling
import BotCanvas.Program.Dialect

/-!
# Programs in the language with suites

What surrounds the statements: the header with its imports, the error guard, branches, handlers
with their function names, and the last line that starts the bot.
-/

namespace BotCanvas.Offside

/-- The line that does nothing. -/
def noop : Text := "pass"

/-- The lines that make the bot. -/
def botLines : List Code :=
  ["import discord",
   "from discord.ext import commands",
   "from dotenv import load_dotenv",
   "",
   "load_dotenv()",
   "",
   "intents = discord.Intents.default()",
   "intents.message_content = True",
   "intents.members = True",
   "",
   "bot = commands.Bot(command_prefix=os.getenv('PREFIX', '!'), intents=intents)",
   "",
   "",
   "@bot.event",
   "async def on_ready():",
   "    await bot.tree.sync()",
   "    print(f'Logged in as \x7bbot.user\x7d')"]

/-- What comes first in a program. -/
def header (types : List String) : Code :=
  let always : List Code := ["import asyncio", "import datetime", "import os"]
  let math : List Code := ["import math", "import random"]
  let request : List Code := ["import aiohttp"]
  .stack (always ++ (if types.contains "math_advanced" then math else []) ++
    [.written []] ++ (if usesAny types requestTypes then request else []) ++ botLines)

/-- What comes last in a program. -/
def footer (_ : List CommandSpec) : Code :=
  "bot.run(os.getenv('BOT_TOKEN'))"

/-- The lines that answer an interaction after an error. -/
def replyLines : List Code :=
  ["    if not interaction.response.is_done():",
   .line ["        await interaction.response.send_message(\"", .code errorReply,
     "\", ephemeral=True)"]]

/-- Code whose errors are logged under a label and, if asked for, answered. -/
def guarded (label : Text) (body : Code) (reply : Bool) : Code :=
  .stack ("try:" :: body.deeper :: "except Exception as error:" ::
    .line ["    print(\"[", .literal label, "] Error:\", error)"] ::
    (if reply then replyLines else []))

/-- Tests for a line without a statement. -/
def isBareLine (line : Text) : Bool :=
  let t := line.dropWhile Text.isBlank
  t.isEmpty || t.head? == some '#'

/-- A suite with a statement: one without gets the line that does nothing. -/
def suite (body : Code) : Code :=
  if (Text.lineBodies (body.write spelling)).all isBareLine then .stack [body, .written noop]
  else body

/-- The condition of a choice. -/
def condition (s : Subject) : List Piece :=
  if s.block.type = "condition_has_role" then
    ["any(str(role.id) == \"", s.literal "roleId", "\" for role in interaction.user.roles)"]
  else if s.block.type = "condition_has_permission" then
    ["interaction.user.guild_permissions.", .name (permissionName (s.value "permission"))]
  else [.condition (conditionCode (s.valueOr "condition" (.str "True")))]

/-- A choice between two arms. -/
def choice (s : Subject) (yes no : Code) : Code :=
  .stack [.line ("if " :: (condition s ++ [.code ":"])), yes.deeper, "else:", no.deeper]

/-- Whose permissions a check looks at. -/
def permissionSource (type : String) : String :=
  if type = "check_bot_permissions" then "app_permissions" else "permissions"

/-- The answer to a member without the permission. -/
def denial : Code :=
  .line ["await interaction.response.send_message(\"", .code deniedReply, "\", ephemeral=True)"]

/-- A permission check. -/
def gate (s : Subject) (denied allowed : Option Code) : Code :=
  .stack (.line ["if not interaction.", .code (permissionSource s.block.type), ".",
      .name (permissionName (s.value "permission")), ":"] ::
    (denied.getD denial).deeper :: Code.deeper "return" :: allowed.toList)

/-- A body whose errors are caught, and logged if the block says so. -/
def recovery (s : Subject) (body : Code) : Code :=
  let onError : Code :=
    if s.flag "logToConsole" then .line ["print(\"", s.literal "errorMessage", "\", error)"]
    else .written noop
  .stack ["try:", body.deeper, "except Exception as error:", onError.deeper]

/-- The body of a handler: guarded, unless it does nothing. -/
def handlerBody (label : Text) (body : Code) (reply : Bool) : Code :=
  if body.amountsTo spelling noop then body else guarded label body reply

/-- The first line of a function that answers an interaction. -/
def functionLine (name : Text) : Code :=
  .line ["async def ", .name name, "(interaction: discord.Interaction):"]

/-- What separates the sections of a program. -/
def sectionSeparator : Text := "\n\n\n"

/-- The parts of a command with subcommands: each under a decorator of the group. -/
def groupParts (group base guard : Text) : List Subcommand → Naming (List Code)
  | [] => pure []
  | sub :: rest => do
      let function ← Naming.fresh
        (base ++ '_' :: (Name.identifier "sub" sub.name ++ "_command".toList))
      let body := handlerBody (guard ++ ' ' :: sub.name) sub.body true
      let part : Code := .stack
        [.line ["@", .name group, ".command(name=\"", .literal sub.name, "\", description=\"",
          .literal sub.description, "\")"],
         functionLine function, body.deeper]
      let parts ← groupParts group base guard rest
      pure (part :: parts)

/-- Code with the separator of sections between neighbours: two empty lines. -/
def spaced (parts : List Code) : Code :=
  .stack ((parts.map fun c => [c]).intersperse [.written [], .written []]).flatten

/-- A slash command with subcommands: a group that is added to the tree. -/
def commandGroup (guard summary base : Text) (subcommands : List Subcommand) : Naming Code := do
  let group ← Naming.fresh (base ++ "_group".toList)
  let parts ← groupParts group base guard subcommands
  let opening : Code := .line [.name group, " = discord.app_commands.Group(name=\"",
    .literal guard, "\", description=\"", .literal summary, "\")"]
  pure (spaced (opening :: (parts ++
    [.line ["bot.tree.add_command(", .name group, ")"]])))

/-- The description of the command that a trigger is. -/
def summaryOf (catalog : Catalog) (trigger : Option Block) : Value :=
  (trigger.map fun t => (Subject.mk catalog t).value "description").getD .null

/-- The handler of a trigger. -/
def handler (catalog : Catalog) (trigger : Option Block) (kind : TriggerKind) (guard : Text)
    (body : Code) (subcommands : List Subcommand) : Naming Code :=
  match kind with
  | .slash => do
      let summary := (summaryOf catalog trigger).asDescription "A bot command"
      let base := Name.identifier "command" guard
      if subcommands.isEmpty then
        let function ← Naming.fresh (base ++ "_command".toList)
        pure (.stack
          [.line ["@bot.tree.command(name=\"", .literal guard, "\", description=\"",
            .literal summary, "\")"],
           functionLine function, (handlerBody guard body true).deeper])
      else commandGroup guard summary base subcommands
  | .component => do
      let lead := (trigger.map Block.type).getD "component"
      let function ← Naming.fresh (lead.toList ++ '_' :: Name.identifier "component" guard)
      pure (.stack
        ["@bot.listen('on_interaction')", functionLine function,
         .line ["    if interaction.data and interaction.data.get('custom_id') == \"",
           .literal guard, "\":"],
         .nest 2 (handlerBody guard body true)])
  | .event => do
      let event := eventName guard
      let function ← Naming.fresh (Name.identifier "value" (event ++ "_listener".toList))
      pure (.stack
        [.line ["@bot.listen('on_", .name event, "')"],
         .line ["async def ", .name function, "(interaction=None, *args):"],
         (handlerBody event body false).deeper])

/-- The packages of every program. -/
def basePackages : List (String × String) :=
  [("discord.py", "2.3.2"), ("python-dotenv", "1.0.0")]

/-- The packages of programs that send requests. -/
def requestPackages : List (String × String) :=
  [("aiohttp", "3.9.1")]

/-- The packages of programs that use voice channels. -/
def voicePackages : List (String × String) :=
  [("PyNaCl", "1.5.0")]

/-- The packages that a program needs. -/
def dependencies (program : Text) (types : List String) : List (String × String) :=
  basePackages ++
    (if usesAny types requestTypes || Text.occursIn "import aiohttp" program then
      requestPackages else []) ++
    (if usesAny types voiceTypes then voicePackages else [])

end BotCanvas.Offside
