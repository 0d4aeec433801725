import BotCanvas.Cli.Switch
import BotCanvas.Flow.Basic
import BotCanvas.Text.Quoted
import BotCanvas.Text.Trim

/-!
# Arguments of the command line

The words of a command line are sorted first: a word is plain, or it starts with a dash and stands
for a switch. Long names may be cut short as long as they stay unambiguous, a value may be joined to
its switch, and short switches may be joined to each other. All words after two dashes are plain.
Then the words are taken in order; the first plain word is the canvas.
-/

namespace BotCanvas

/-- What a command line asks for. -/
structure Arguments where
  canvas : String
  language : Option String
  output : String
  zip : Bool
  preview : Bool
  token : Option String
  clientId : Option String
  commandPrefix : Option String
  traversal : Option Traversal
  config : Option String
  verbose : Bool
  deriving DecidableEq

/-- Why a command line cannot be understood. -/
inductive UsageError
  | ambiguous (word : String) (names : List String)
  | valueMissing (s : Switch)
  | valueIgnored (s : Switch) (value : String)
  | excluded (s other : Switch)
  | unknownChoice (s : Switch) (value : String) (choices : List String)
  | canvasMissing
  | unrecognized (words : List String)
  deriving DecidableEq

namespace UsageError

/-- A text between quotation marks. -/
def quoted (s : String) : String :=
  String.ofList (Text.quoted s.toList)

/-- The wording of an error. -/
def message : UsageError → String
  | ambiguous word names =>
      "ambiguous option: " ++ word ++ " could match " ++ ", ".intercalate names
  | valueMissing s => "argument " ++ s.title ++ ": expected one argument"
  | valueIgnored s value =>
      "argument " ++ s.title ++ ": ignored explicit argument " ++ quoted value
  | excluded s other => "argument " ++ s.title ++ ": not allowed with argument " ++ other.title
  | unknownChoice s value choices =>
      "argument " ++ s.title ++ ": invalid choice: " ++ quoted value ++ " (choose from " ++
        ", ".intercalate (choices.map quoted) ++ ")"
  | canvasMissing => "the following arguments are required: canvas"
  | unrecognized words => "unrecognized arguments: " ++ " ".intercalate words

end UsageError

/-- A sorted word. -/
inductive Word
  | plain (s : String)
  | unknown (s : String)
  /-- A switch without a value of its own. -/
  | bare (s : Switch)
  /-- A switch with the rest of its word, its name being short or long, after an equals sign or
  directly. -/
  | joined (s : Switch) (short equals : Bool) (value : Text)
  deriving DecidableEq

namespace Word

/-- Tests for digits in the way of a number: whole, or with a point before the last digits. -/
def isNegativeNumber (s : Text) : Bool :=
  let isNumber (t : Text) : Bool := !t.isEmpty && t.all fun c => (Text.decimalValue? c).isSome
  match s with
  | '-' :: r =>
      let whole := r.takeWhile (· != '.')
      match r.drop whole.length with
      | [] => isNumber whole
      | _ :: fraction => (whole.isEmpty || isNumber whole) && isNumber fraction
  | _ => false

/-- A word that starts with a dash and names no switch. -/
def unmatched (s : String) : Word :=
  if isNegativeNumber s.toList || s.toList.contains ' ' then plain s else unknown s

/-- The part before the first equals sign, and the part after it. -/
def splitEquals (s : Text) : Text × Option Text :=
  let before := s.takeWhile (· != '=')
  (before, match s.drop before.length with
    | [] => none
    | _ :: after => some after)

/-- A switch under a name, with the part after an equals sign. -/
def withValue (s : Switch) (name : String) : Option Text → Word
  | none => bare s
  | some value => joined s (name.length == 2) true value

/-- Sorts a word that starts with two dashes and is no full name. -/
def readLong (s : String) : Except UsageError Word :=
  let (before, value) := splitEquals s.toList
  match Switch.named.filter fun (name, _) => before.isPrefixOf name.toList with
  | [] => .ok (unmatched s)
  | [(name, o)] => .ok (withValue o name value)
  | found => .error (.ambiguous s (found.map Prod.fst))

/-- Sorts a word. -/
def read (s : String) : Except UsageError Word :=
  match s.toList with
  | '-' :: c :: r =>
      let (before, value) := splitEquals s.toList
      let name := String.ofList before
      match Switch.ofName? s, Switch.ofName? name with
      | some o, _ => .ok (bare o)
      | none, some o => .ok (withValue o name value)
      | none, none =>
          if c = '-' then readLong s
          else
            match Switch.ofName? (String.ofList ['-', c]) with
            | some o => .ok (joined o true false r)
            | none => .ok (unmatched s)
  | _ => .ok (plain s)

end Word

/-- The switches of one word: those without a value, then one with a value, one whose value is the
next word, or a rest that names none. -/
inductive Bundle
  | done
  | flag (s : Switch) (more : Bundle)
  | valued (s : Switch) (value : String)
  | open (s : Switch)
  | stray (word : String)
  deriving DecidableEq

namespace Bundle

/-- A switch at the end of a word. -/
def last (s : Switch) : Bundle :=
  if s.takesValue then .open s else flag s done

/-- The switches that a switch with a short name and the rest of its word stand for. -/
def ofShort (s : Switch) (equals : Bool) : Text → Except UsageError Bundle
  | [] => if s.takesValue then .ok (valued s "") else .error (.valueIgnored s "")
  | c :: r =>
      if s.takesValue then .ok (valued s (String.ofList (c :: r)))
      else if equals || c == '-' then .error (.valueIgnored s (String.ofList (c :: r)))
      else
        match Switch.ofName? (String.ofList ['-', c]) with
        | none => .ok (flag s (stray (String.ofList ('-' :: c :: r))))
        | some next =>
            match r with
            | [] => .ok (flag s (last next))
            | '=' :: value => (ofShort next true value).map (flag s)
            | d :: r => (ofShort next false (d :: r)).map (flag s)

end Bundle

/-- What a command line is found to ask for. -/
inductive Reading
  | help
  | run (a : Arguments)
  deriving DecidableEq

namespace Arguments

/-- The folder that a project is written to if none is named. -/
def standardOutput : String := "./bot"

/-- The arguments before any word is taken. -/
def blank : Arguments :=
  ⟨"", none, standardOutput, false, false, none, none, none, none, none, false⟩

/-- What is known after some words: the canvas may be missing, words may be left over, and the last
word may have been the canvas. -/
structure State where
  arguments : Arguments
  hasCanvas : Bool
  extras : List String
  endsWithCanvas : Bool

/-- Sets the value of a switch. -/
def setValue (a : Arguments) (s : Switch) (value : String) : Except UsageError Arguments :=
  match s with
  | .language => .ok { a with language := some value }
  | .output => .ok { a with output := value }
  | .token => .ok { a with token := some value }
  | .clientId => .ok { a with clientId := some value }
  | .commandPrefix => .ok { a with commandPrefix := some value }
  | .config => .ok { a with config := some value }
  | .traversal =>
      match Traversal.table.lookup value with
      | some mode => .ok { a with traversal := some mode }
      | none => .error (.unknownChoice s value (Traversal.table.map Prod.fst))
  | _ => .ok a

/-- Sets a switch without a value; `none` if help is asked for. -/
def setFlag (a : Arguments) (s : Switch) : Except UsageError (Option Arguments) :=
  match s with
  | .help => .ok none
  | .zip => if a.preview then .error (.excluded .zip .preview) else .ok (some { a with zip := true })
  | .preview =>
      if a.zip then .error (.excluded .preview .zip) else .ok (some { a with preview := true })
  | .verbose => .ok (some { a with verbose := true })
  | _ => .ok (some a)

/-- Takes a plain word: the canvas, or a word too many. -/
def State.plain (st : State) (s : String) : State :=
  if st.hasCanvas then { st with extras := st.extras ++ [s], endsWithCanvas := false }
  else ⟨{ st.arguments with canvas := s }, true, st.extras, true⟩

/-- Takes a word that names no switch. -/
def State.unknown (st : State) (s : String) : State :=
  { st with extras := st.extras ++ [s], endsWithCanvas := false }

/-- Sets the switches of a word, given the word after it. The answer is none if help is asked for;
the flag says whether the word after it was used. -/
def State.apply (st : State) (next : Option String) :
    Bundle → Except UsageError (Option (State × Bool))
  | .done => .ok (some ({ st with endsWithCanvas := false }, false))
  | .stray word => .ok (some (st.unknown word, false))
  | .valued s value =>
      (setValue st.arguments s value).map fun a =>
        some ({ st with arguments := a, endsWithCanvas := false }, false)
  | .open s =>
      match next with
      | none => .error (.valueMissing s)
      | some value =>
          (setValue st.arguments s value).map fun a =>
            some ({ st with arguments := a, endsWithCanvas := false }, true)
  | .flag s more =>
      (setFlag st.arguments s).bind fun
        | none => .ok none
        | some a => State.apply { st with arguments := a } next more

/-- The switch at the end of a bundle that waits for a value. -/
def waiting? : Bundle → Option Switch
  | .open s => some s
  | .flag _ more => waiting? more
  | _ => none

/-- The switches of a word. -/
def bundleOf : Word → Except UsageError (Option Bundle)
  | .plain _ => .ok none
  | .unknown _ => .ok none
  | .bare s => .ok (some (Bundle.last s))
  | .joined s true equals value => (Bundle.ofShort s equals value).map some
  | .joined s false _ value =>
      if s.takesValue then .ok (some (.valued s (String.ofList value)))
      else .error (.valueIgnored s (String.ofList value))

/-- The text of a plain word. -/
def plainText? : Word → Option String
  | .plain s => some s
  | _ => none

/-- Takes words in order. The answer is none if help is asked for. -/
def takeWords : State → List Word → Except UsageError (Option State)
  | st, [] => .ok (some st)
  | st, .plain s :: rest => takeWords (st.plain s) rest
  | st, .unknown s :: rest => takeWords (st.unknown s) rest
  | st, [w] => do
      match ← bundleOf w with
      | none => .ok (some st)
      | some bundle =>
          (waiting? bundle).elim (.ok ()) fun s => .error (.valueMissing s)
          return (← st.apply none bundle).map Prod.fst
  | st, w :: next :: rest => do
      match ← bundleOf w with
      | none => takeWords st (next :: rest)
      | some bundle =>
          match waiting? bundle, plainText? next with
          | some s, none => .error (.valueMissing s)
          | _, text =>
              match ← st.apply text bundle with
              | none => .ok none
              | some (st, true) => takeWords st rest
              | some (st, false) => takeWords st (next :: rest)

/-- Takes the words after two dashes. The dashes themselves are left over, unless they stand
directly before or after the canvas. -/
def takeTail (st : State) (tail : List String) : State :=
  if st.hasCanvas then
    { st with extras := st.extras ++ (if st.endsWithCanvas then tail else "--" :: tail) }
  else
    match tail with
    | [] => st.unknown "--"
    | s :: rest => rest.foldl State.plain (st.plain s)

/-- What the state after all words comes to. -/
def finish (st : State) : Except UsageError Reading :=
  if !st.hasCanvas then .error .canvasMissing
  else if !st.extras.isEmpty then .error (.unrecognized st.extras)
  else .ok (.run st.arguments)

/-- Reads a command line. -/
def read (words : List String) : Except UsageError Reading := do
  let head := words.takeWhile (· != "--")
  let tail := words.drop head.length
  let sorted ← head.mapM Word.read
  match ← takeWords ⟨blank, false, [], false⟩ sorted with
  | none => .ok .help
  | some st =>
      match tail with
      | [] => finish st
      | _ :: tail => finish (takeTail st tail)

end Arguments

end BotCanvas
