/-!
# What the command line says about itself
-/

namespace BotCanvas.Usage

/-- The name of the program. -/
def program : String := "botexport"

/-- How the program is called. -/
def synopsis : List String :=
  ["usage: botexport [-h] [--language LANGUAGE] [--output OUTPUT]",
   "                 [--zip | --preview] [--token TOKEN] [--client-id CLIENT_ID]",
   "                 [--prefix PREFIX] [--traversal \x7bposition,connections\x7d]",
   "                 [--config CONFIG] [--verbose]",
   "                 canvas"]

/-- What the program does and what its arguments mean. -/
def help : List String :=
  synopsis ++
  ["",
   "Export a Discord bot block graph to a runnable project",
   "",
   "positional arguments:",
   "  canvas                Path to a canvas JSON file (bare canvas or a full",
   "                        export request)",
   "",
   "options:",
   "  -h, --help            show this help message and exit",
   "  --language LANGUAGE, -l LANGUAGE",
   "                        Target language: discord.js, discord.py (default:",
   "                        discord.js)",
   "  --output OUTPUT, -o OUTPUT",
   "                        Output directory, or zip path with --zip (default:",
   "                        ./bot)",
   "  --zip                 Write a zip archive instead of a directory",
   "  --preview             Only print a preview of each file",
   "  --token TOKEN         Bot token written into .env",
   "  --client-id CLIENT_ID",
   "                        Application id written into .env",
   "  --prefix PREFIX       Prefix command character written into .env",
   "  --traversal \x7bposition,connections\x7d",
   "                        Action ordering: by Y position or by walking",
   "                        connections",
   "  --config CONFIG       Path to an exporter config JSON file",
   "  --verbose, -v         Log progress",
   "",
   "Examples:",
   "  botexport canvas.json -o ./my-bot",
   "  botexport canvas.json --language discord.py --zip",
   "  botexport canvas.json --preview --traversal connections"]

end BotCanvas.Usage
