import BotCanvas.Proofs.Offside.Literals
import BotCanvas.Proofs.Program.Edge
import BotCanvas.Proofs.Program.Variables

/-!
# Declarations of a program

What a program declares is read from the rows that stand at the left edge: the functions that answer
interactions, the variables that hold groups of commands, the commands that functions are registered
as, and the groups that are registered. A row that begins with a blank is inside of a handler and
declares nothing (`declarations_eq`).
-/

namespace BotCanvas

namespace Offside

/-! ## Reading rows -/

/-- What a row at the left edge declares. -/
inductive Declaration
  /-- The function below is registered as a command. -/
  | command (name : Text)
  /-- A function that answers interactions. -/
  | function (holder : Text)
  /-- A variable that holds a group of commands of a name. -/
  | group (holder name : Text)
  /-- The group in a variable is registered. -/
  | addition (holder : Text)
  deriving DecidableEq

/-- The text in a literal whose opening mark was read. -/
def literal? (t : Text) : Option Text :=
  (quoted.read t).map Prod.fst

/-- What a decorator declares, given its first word and what follows it. -/
def decoration? (word rest : Text) : Option Declaration :=
  if word = "bot".toList then
    ((rest.dropPrefix? ".tree.command(name=\"".toList).bind literal?).map .command
  else none

/-- What a statement declares, given its first word and what follows it. -/
def statement? (word rest : Text) : Option Declaration :=
  match rest.dropPrefix? " = discord.app_commands.Group(name=\"".toList with
  | some r => if word = [] then none else (literal? r).map (.group word)
  | none =>
      if word = "async".toList then
        (rest.dropPrefix? " def ".toList).bind fun r =>
          ((r.dropWhile Text.isWord).dropPrefix? "(interaction".toList).map fun _ =>
            .function (r.takeWhile Text.isWord)
      else if word = "bot".toList then
        (rest.dropPrefix? ".tree.add_command(".toList).map fun r =>
          .addition (r.takeWhile Text.isWord)
      else none

/-- What a row declares. -/
def declaration? : Text → Option Declaration
  | [] => none
  | c :: r =>
      if c = '@' then decoration? (r.takeWhile Text.isWord) (r.dropWhile Text.isWord)
      else statement? ((c :: r).takeWhile Text.isWord) ((c :: r).dropWhile Text.isWord)

/-- What the rows of a text declare, in order. -/
def declarations (t : Text) : List Declaration :=
  (Text.splitOn '\n' t).filterMap declaration?

/-! ## Rows of each kind -/

open Text (IsVariable)

variable {s : Text}

/-- A literal is read up to its closing mark. -/
theorem literal?_escape
    (t post : Text) :
    literal? (escape t ++ '\x22' :: post) = some t := by
  have hread := quoted_spells.read_append t post
  change quoted.read (escape t ++ '\x22' :: post) = _ at hread
  rw [literal?, hread]
  rfl

/-- A row that begins with a blank declares nothing. -/
theorem declaration?_of_isBlank
    {c : Char}
    (hc : Text.isBlank c = true)
    (r : Text) :
    declaration? (c :: r) = none := by
  have hmark : c ≠ '@' := by
    rintro rfl
    exact absurd hc (by decide)
  have hword : Text.isWord c = false := by
    cases h : Text.isWord c with
    | false => rfl
    | true => rw [Text.not_isBlank_of_class (.inl h)] at hc; cases hc
  rw [declaration?, if_neg hmark, List.takeWhile_cons_of_neg (by simp [hword]), statement?]
  split
  · rfl
  · rfl

/-- A decorator of something else than the command tree declares nothing. -/
theorem declaration?_decorator
    {word : Text}
    (hword : IsVariable word)
    {c : Char}
    (hc : Text.isWord c = false)
    {r : Text}
    (hr : (c :: r).dropPrefix? ".tree.command(name=\"".toList = none) :
    declaration? ('@' :: (word ++ c :: r)) = none := by
  rw [declaration?, if_pos rfl, hword.takeWhile_append hc, hword.dropWhile_append hc, decoration?,
    hr]
  split <;> rfl

/-- A decorator of the command tree registers a command. -/
theorem declaration?_command
    (name post : Text) :
    declaration? ("@bot.tree.command(name=\"".toList ++ (escape name ++ '\x22' :: post)) =
      some (.command name) := by
  have hbot : IsVariable "bot".toList := .ofString (by decide)
  have hrow : ∀ r, "@bot.tree.command(name=\"".toList ++ r =
      '@' :: ("bot".toList ++ '.' :: ("tree.command(name=\"".toList ++ r)) := fun _ => rfl
  have hrest : ∀ r, ('.' :: ("tree.command(name=\"".toList ++ r)).dropPrefix?
      ".tree.command(name=\"".toList = some r := Text.dropPrefix?_append _
  rw [hrow, declaration?, if_pos rfl, hbot.takeWhile_append (by decide),
    hbot.dropWhile_append (by decide), decoration?, if_pos rfl, hrest, Option.bind_some,
    literal?_escape]
  rfl

/-- A row that begins with a variable is read as a statement. -/
theorem declaration?_statement
    {word : Text}
    (hword : IsVariable word)
    {c : Char}
    (hc : Text.isWord c = false)
    (r : Text) :
    declaration? (word ++ c :: r) = statement? word (c :: r) := by
  have htake := hword.takeWhile_append hc r
  have hdrop := hword.dropWhile_append hc r
  obtain ⟨hne, hchars⟩ := hword
  obtain ⟨d, word, rfl⟩ := List.exists_cons_of_ne_nil hne
  have hmark : d ≠ '@' := by
    rintro rfl
    exact absurd (hchars '@' (by simp)) (by decide)
  rw [List.cons_append] at htake hdrop ⊢
  rw [declaration?, if_neg hmark, htake, hdrop]

/-- The first line of a function declares it. -/
theorem declaration?_function
    {name : Text}
    (hname : IsVariable name)
    (post : Text) :
    declaration? ("async def ".toList ++ (name ++ ("(interaction".toList ++ post))) =
      some (.function name) := by
  have hasync : IsVariable "async".toList := .ofString (by decide)
  have hrow : ∀ r, "async def ".toList ++ r = "async".toList ++ ' ' :: ("def ".toList ++ r) :=
    fun _ => rfl
  have hgroup : ∀ r, (' ' :: ("def ".toList ++ r)).dropPrefix?
      " = discord.app_commands.Group(name=\"".toList = none := fun _ => rfl
  have hrest : ∀ r, (' ' :: ("def ".toList ++ r)).dropPrefix? " def ".toList = some r :=
    Text.dropPrefix?_append _
  have htake : (name ++ ("(interaction".toList ++ post)).takeWhile Text.isWord = name :=
    hname.takeWhile_append (by decide) _
  have hdrop : (name ++ ("(interaction".toList ++ post)).dropWhile Text.isWord =
      "(interaction".toList ++ post := hname.dropWhile_append (by decide) _
  rw [hrow, declaration?_statement hasync (by decide), statement?, hgroup]
  simp only [if_true, hrest, Option.bind_some, htake, hdrop, Text.dropPrefix?_append,
    Option.map_some]

/-- The assignment of a group declares it. -/
theorem declaration?_group
    {holder : Text}
    (hholder : IsVariable holder)
    (name post : Text) :
    declaration? (holder ++ (" = discord.app_commands.Group(name=\"".toList ++
      (escape name ++ '\x22' :: post))) = some (.group holder name) := by
  have hrow : ∀ r, holder ++ (" = discord.app_commands.Group(name=\"".toList ++ r) =
      holder ++ ' ' :: ("= discord.app_commands.Group(name=\"".toList ++ r) := fun _ => rfl
  have hrest : ∀ r, (' ' :: ("= discord.app_commands.Group(name=\"".toList ++ r)).dropPrefix?
      " = discord.app_commands.Group(name=\"".toList = some r := Text.dropPrefix?_append _
  rw [hrow, declaration?_statement hholder (by decide), statement?, hrest]
  simp only [if_neg hholder.1, literal?_escape, Option.map_some]

/-- A call that adds a group to the command tree registers it. -/
theorem declaration?_addition
    {holder : Text}
    (hholder : IsVariable holder) :
    declaration? ("bot.tree.add_command(".toList ++ (holder ++ ")".toList)) =
      some (.addition holder) := by
  have hbot : IsVariable "bot".toList := .ofString (by decide)
  have hrow : ∀ r, "bot.tree.add_command(".toList ++ r =
      "bot".toList ++ '.' :: ("tree.add_command(".toList ++ r) := fun _ => rfl
  have hgroup : ∀ r, ('.' :: ("tree.add_command(".toList ++ r)).dropPrefix?
      " = discord.app_commands.Group(name=\"".toList = none := fun _ => rfl
  have hrest : ∀ r, ('.' :: ("tree.add_command(".toList ++ r)).dropPrefix?
      ".tree.add_command(".toList = some r := Text.dropPrefix?_append _
  have htake : (holder ++ ")".toList).takeWhile Text.isWord = holder :=
    hholder.takeWhile_append (by decide) _
  rw [hrow, declaration?_statement hbot (by decide), statement?, hgroup]
  simp only [if_neg (show "bot".toList ≠ "async".toList by decide), if_true, hrest,
    Option.map_some, htake]

/-! ## Texts and code -/

/-- What is declared is declared at the left edge. -/
theorem declarations_eq
    (t : Text) :
    declarations t = (Text.edge t).filterMap declaration? := by
  rw [declarations, Text.edge, List.filterMap_filter]
  refine List.filterMap_congr fun row _ => ?_
  split
  · rfl
  · rename_i hedge
    cases row with
    | nil => rfl
    | cons c r => exact declaration?_of_isBlank (by simpa [Text.isAtEdge] using hedge) r

end Offside

end BotCanvas
