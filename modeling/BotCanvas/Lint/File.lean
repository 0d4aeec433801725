import BotCanvas.Layout.Check
import BotCanvas.Lint.Brackets
import BotCanvas.Lint.Manifest
import BotCanvas.Path
import BotCanvas.Project.File

/-!
# Checks of single files

What is checked depends on the last name of the path. A blank file has no other issue; entry files
must hold the call that starts the bot; programs, manifests and the environment are looked into.
-/

namespace BotCanvas.Lint

/-- The call that starts the bot, by the name of the entry file, and the issue if it is missing. -/
def requiredCalls : List (String × String × String) :=
  [("index.js", "client.login(",
    "index.js never logs the client in (missing client.login call)"),
   ("main.py", "bot.run(", "main.py never starts the bot (missing bot.run call)")]

/-- The issue of an entry file that never starts the bot. -/
def entryIssues (name : String) (content : Text) : List String :=
  match requiredCalls.lookup name with
  | some (call, issue) => if Text.occursIn call.toList content then [] else [issue]
  | none => []

/-- Tests for a line, from the start or after a line feed, that sets the token of the bot. -/
def definesToken (content : Text) : Bool :=
  (Text.splitOn '\n' content).any fun line => "BOT_TOKEN=".toList.isPrefixOf line

/-- The issues with a content, by the suffix and the name of its file. -/
def contentIssues (suffix name : String) (content : Text) : List String :=
  if suffix == ".js" then (Brackets.check content).map BracketIssue.message
  else if suffix == ".py" then (Layout.check content).toList.map Layout.Issue.message
  else if name == "package.json" then Manifest.checkDocument content
  else if name == "requirements.txt" then Manifest.checkRequirements content
  else if name == ".env" && !definesToken content then [".env does not define BOT_TOKEN"]
  else []

/-- The issues with a file. -/
def check (f : GeneratedFile) : List String :=
  let path := Path.read f.path.toList
  let content := f.content.toList
  if (Text.strip content).isEmpty then [f.path ++ " is empty"]
  else
    let name := String.ofList path.name
    entryIssues name content ++ contentIssues (String.ofList path.suffix) name content

end BotCanvas.Lint
