import BotCanvas.Project.Template

/-!
# The documents around a program

Every exported project comes with a readme, a dependency manifest and a file with the environment
of the bot; the answer to an export carries quick-start instructions.
-/

namespace BotCanvas.Documents

open TemplatePart Term

/-- The readme. -/
def readme : Template :=
  [.text "# ", .shown (.named "project_name"),
   .text "\n\nThis Discord bot was generated from a visual block canvas.\n\n## Features\n\n",
   .given (.field "counts" "slash")
     [.text "- Slash Commands (", .shown (.field "counts" "slash"), .text ")\n"],
   .given (.field "counts" "component")
     [.text "- Component Handlers (", .shown (.field "counts" "component"), .text ")\n"],
   .given (.field "counts" "event")
     [.text "- Event Listeners (", .shown (.field "counts" "event"), .text ")\n"],
   .text "- Environment Configuration\n\n## Setup\n\n### 1. Install Dependencies\n\n\x60\x60\x60bash\n",
   .shown (.named "install_command"),
   .text "\n\x60\x60\x60\n\n### 2. Configure Environment\n\nThe \x60.env\x60 file was generated with the credentials supplied at export time:\n\n\x60\x60\x60env\nBOT_TOKEN=your_bot_token_here\nCLIENT_ID=your_client_id_here\n\x60\x60\x60\n\n### 3. Run the Bot\n\n\x60\x60\x60bash\n",
   .shown (.named "run_command"),
   .text "\n\x60\x60\x60\n\n## Project Structure\n\n\x60\x60\x60\n├── ",
   .padded 18 (.named "entry_point"), .text " # Main bot file\n├── ",
   .padded 18 (.named "manifest_path"),
   .text " # Dependencies\n├── README.md          # This file\n└── .env               # Configuration\n\x60\x60\x60\n\n## Dependencies\n\n",
   .each (.named "dependencies") "name" "version"
     [.text "- \x60", .shown (.named "name"), .text "\x60 ", .shown (.named "version"), .text "\n"],
   .text "\n## Need Help?\n\n- [", .shown (.named "language"), .text " Documentation](",
   .shown (.named "docs_url"), .text ")\n"]

/-- The environment of the bot. -/
def environment : Template :=
  [.text "# Discord Bot Configuration\nBOT_TOKEN=", .oneLine (.field "settings" "bot_token"),
   .text "\nCLIENT_ID=", .oneLine (.field "settings" "client_id"), .text "\n",
   .given (.field "settings" "prefix")
     [.text "PREFIX=", .oneLine (.field "settings" "prefix"), .text "\n"],
   .text "\n# DO NOT COMMIT THIS FILE TO VERSION CONTROL\n"]

/-- The quick-start instructions. -/
def instructions : Template :=
  [.text "## Quick Start Guide\n\n1. **Install Dependencies**\n   Run: ",
   .shown (.named "install_command"),
   .text "\n\n2. **Configure Bot Token**\n   Add your bot token to the .env file\n\n3. **Register Slash Commands**\n   Commands are registered automatically when the bot starts\n\n4. **Start the Bot**\n   Run: ",
   .shown (.named "run_command"),
   .text "\n\n5. **Test in Discord**\n   Invite your bot and test the commands!\n\n## Generated Components\n- ",
   .shown (.field "counts" "slash"), .text " Slash Commands\n- ",
   .shown (.field "counts" "component"), .text " Component Handlers\n- ",
   .shown (.field "counts" "event"), .text " Event Handlers\n"]

/-- The manifest as a document. -/
def manifest : Template :=
  [.document "manifest", .text "\n"]

/-- The manifest as a list of requirements. -/
def requirements : Template :=
  [.each (.named "dependencies") "name" "version"
    [.shown (.named "name"), .text "==", .shown (.named "version"), .text "\n"]]

/-- All templates by the names they are stored under, in order of the names. -/
def table : List (String × Template) :=
  [("README.md.j2", readme), ("env.j2", environment), ("instructions.md.j2", instructions),
   ("package.json.j2", manifest), ("requirements.txt.j2", requirements)]

/-- The names of the templates. -/
def names : List String := table.map Prod.fst

end BotCanvas.Documents
