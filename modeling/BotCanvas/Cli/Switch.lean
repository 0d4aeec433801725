/-!
# Switches of the command line

Every switch has a long name, some have a short one, and some take a value.
-/

namespace BotCanvas

/-- The switches. -/
inductive Switch
  | help
  | language
  | output
  | zip
  | preview
  | token
  | clientId
  | commandPrefix
  | traversal
  | config
  | verbose
  deriving DecidableEq

namespace Switch

/-- All switches with their names, in the order in which they are listed. -/
def table : List (Switch × List String) :=
  [(help, ["-h", "--help"]), (language, ["--language", "-l"]), (output, ["--output", "-o"]),
   (zip, ["--zip"]), (preview, ["--preview"]), (token, ["--token"]),
   (clientId, ["--client-id"]), (commandPrefix, ["--prefix"]), (traversal, ["--traversal"]),
   (config, ["--config"]), (verbose, ["--verbose", "-v"])]

/-- The names of a switch. -/
def names (s : Switch) : List String :=
  (table.lookup s).getD []

/-- What messages call a switch. -/
def title (s : Switch) : String :=
  "/".intercalate s.names

/-- Every name with its switch. -/
def named : List (String × Switch) :=
  table.flatMap fun (s, names) => names.map fun n => (n, s)

/-- The switch of a name. -/
def ofName? (name : String) : Option Switch :=
  named.lookup name

/-- Tests for a switch that takes a value. -/
def takesValue : Switch → Bool
  | help => false
  | zip => false
  | preview => false
  | verbose => false
  | _ => true

end Switch

end BotCanvas
