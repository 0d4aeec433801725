import BotCanvas.Proofs.Offside.Handlers

/-!
# Registration of slash commands

A program registers commands when it is loaded: by decorators of functions, and by adding groups,
which it looks up in their variables (`registered?`). Functions take the place of groups of the same
name. That never happens between a group and its registration: the names of functions and groups
have different stems.

So every slash command of a canvas is registered, in document order (`registrations_eq`), also one
whose name was registered before. The commands that a program counts as registered are the first of
each name, so both agree just if all names are different.
-/

namespace BotCanvas.Offside

open Text (IsVariable)

/-- The names that declarations register, given the group that each variable holds; nothing if a
variable is added that holds none. -/
def registered? (held : Text → Option Text) : List Declaration → Option (List Text)
  | [] => some []
  | .command name :: rest => (registered? held rest).map (name :: ·)
  | .function holder :: rest => registered? (Function.update held holder none) rest
  | .group holder name :: rest => registered? (Function.update held holder (some name)) rest
  | .addition holder :: rest =>
      (held holder).bind fun name => (registered? held rest).map (name :: ·)

/-- The names that a program registers, in order. -/
def registrations (program : Text) : Option (List Text) :=
  registered? (fun _ => none) (declarations program)

/-- Functions register nothing and leave groups in other variables alone. -/
theorem registered?_functions
    (held : Text → Option Text)
    (functions : List Text)
    (rest : List Declaration) :
    ∃ held', registered? held (functions.map .function ++ rest) = registered? held' rest ∧
      ∀ holder, holder ∉ functions → held' holder = held holder := by
  induction functions generalizing held with
  | nil => exact ⟨held, rfl, fun _ _ => rfl⟩
  | cons f functions ih =>
      obtain ⟨held', hrest, hkept⟩ := ih (Function.update held f none)
      refine ⟨held', hrest, fun holder hholder => ?_⟩
      rw [List.mem_cons, not_or] at hholder
      rw [hkept holder hholder.2, Function.update_of_ne hholder.1]

/-- The variable of a group is none of the functions of its parts. -/
theorem group_not_mem_functions
    (base : Text)
    (subcommands : List Text)
    (t t' : Tally) :
    t.nextName (base ++ "_group".toList) ∉ t'.names (subcommands.map fun name =>
      base ++ '_' :: (Name.identifier "sub" name ++ "_command".toList)) := by
  intro hmem
  obtain ⟨function, hfunction, hstem⟩ := Tally.exists_stem_of_mem_names hmem
  obtain ⟨name, -, rfl⟩ := List.mem_map.1 hfunction
  have hgroup : ¬Tally.EndsInDigit (base ++ "_group".toList) := by
    rw [Tally.endsInDigit_append_iff _ (by decide)]
    decide
  have hcommand : ¬Tally.EndsInDigit
      ((base ++ '_' :: Name.identifier "sub" name) ++ "_command".toList) := by
    rw [Tally.endsInDigit_append_iff _ (by decide)]
    decide
  rw [← List.cons_append, ← List.append_assoc, Tally.stem_eq_self hcommand, Tally.nextName_eq,
    Tally.stem_numbered, Tally.stem_eq_self hgroup] at hstem
  have hlast := congrArg List.getLast? hstem
  rw [List.getLast?_append_of_ne_nil _ (by decide),
    List.getLast?_append_of_ne_nil _ (by decide)] at hlast
  exact absurd hlast (by decide)

/-- A group registers its name once, if none of its functions takes its variable. -/
theorem registered?_group
    (held : Text → Option Text)
    {group : Text}
    {functions : List Text}
    (hgroup : group ∉ functions)
    (name : Text)
    (rest : List Declaration) :
    ∃ held', registered? held
        (.group group name :: (functions.map .function ++ [.addition group]) ++ rest) =
      (registered? held' rest).map (name :: ·) := by
  obtain ⟨held', hrest, hkept⟩ := registered?_functions (Function.update held group (some name))
    functions (.addition group :: rest)
  have hheld : held' group = some name := by
    rw [hkept group hgroup, Function.update_self]
  refine ⟨held', ?_⟩
  rw [List.cons_append, registered?, List.append_assoc, List.singleton_append, hrest, registered?,
    hheld, Option.bind_some]

/-- A handler registers the command that it is, if it is one. -/
theorem registered?_declared
    (held : Text → Option Text)
    (p : HandlerPlan)
    (t : Tally)
    (rest : List Declaration) :
    ∃ held', registered? held (declared p (t.names (requests p)) ++ rest) =
      (registered? held' rest).map ((if p.kind = .slash then [p.guard] else []) ++ ·) := by
  have hfunctions : ∀ functions : List Text, ∃ held',
      registered? held (functions.map .function ++ rest) =
        (registered? held' rest).map (([] : List Text) ++ ·) := by
    intro functions
    obtain ⟨held', hrest, -⟩ := registered?_functions held functions rest
    exact ⟨held', hrest.trans Option.map_id'.symm⟩
  obtain ⟨type, kind, guard, subcommands⟩ := p
  cases kind with
  | slash =>
      cases subcommands with
      | nil =>
          obtain ⟨held', hrest, -⟩ := registered?_functions held
            (t.names [Name.identifier "command" guard ++ "_command".toList]) rest
          exact ⟨held', congrArg (Option.map (guard :: ·)) hrest⟩
      | cons name names =>
          exact registered?_group held (group_not_mem_functions (Name.identifier "command" guard)
            (name :: names) t (t.bump (Name.identifier "command" guard ++ "_group".toList)))
            guard rest
  | component => exact hfunctions _
  | event => exact hfunctions _

/-- Handlers register the slash commands among them, in order. -/
theorem registered?_declaredAfter
    (held : Text → Option Text)
    (t : Tally)
    (plans : List HandlerPlan) :
    registered? held (declaredAfter t plans) =
      some ((plans.filter fun p => p.kind == .slash).map HandlerPlan.guard) := by
  induction plans generalizing held t with
  | nil => rfl
  | cons p rest ih =>
      obtain ⟨held', hp⟩ := registered?_declared held p t
        (declaredAfter (t.after (requests p)) rest)
      rw [declaredAfter, hp, ih, Option.map_some, List.filter_cons]
      by_cases hkind : p.kind = .slash
      · rw [if_pos hkind, if_pos (beq_iff_eq.2 hkind)]
        rfl
      · rw [if_neg hkind, if_neg (by simpa using hkind)]
        rfl

/-- A program registers all slash commands of its canvas. -/
theorem registrations_eq
    {catalog : Catalog}
    {mode : Traversal}
    {canvas : Canvas}
    {program : Text}
    (h : dialect.program catalog mode canvas = .ok program) :
    registrations program = some (Dialect.slashNames catalog canvas) := by
  rw [registrations, declarations_program h, registered?_declaredAfter, Dialect.map_guard_slash]

/-- A program registers every slash command of its canvas by its name, in document order. The
commands that it counts as registered have the first of these names each. Both agree just if all
names are different. -/
theorem registrations_program
    {catalog : Catalog}
    {mode : Traversal}
    {canvas : Canvas}
    {program : Text}
    (h : dialect.program catalog mode canvas = .ok program) :
    ∃ units, dialect.handlerUnits catalog mode canvas = .ok units ∧
      registrations program = some (Dialect.slashNames catalog canvas) ∧
      (Dialect.commands catalog units).map CommandSpec.name =
        (Dialect.slashNames catalog canvas).eraseDups ∧
      ((Dialect.slashNames catalog canvas).Nodup ↔
        registrations program =
          some ((Dialect.commands catalog units).map CommandSpec.name)) := by
  obtain ⟨units, hunits, -⟩ := Dialect.exists_units h
  have hcommands := Dialect.map_name_commands hunits
  refine ⟨units, hunits, registrations_eq h, hcommands, ?_⟩
  rw [registrations_eq h, hcommands, Option.some.injEq, eq_comm, eraseDups_eq_self_iff]

/-- A slash command of a name. -/
def slashBlock (id name : String) : Block :=
  ⟨id, "command_slash", .finite false 0, .finite false 0, [("name", .str name)], "triggers", ""⟩

/-- A canvas with two slash commands, one of them with a subcommand. -/
def groupCanvas : Canvas :=
  ⟨[slashBlock "1" "ping", slashBlock "2" "Admin",
    ⟨"3", "command_subcommand", .finite false 0, .finite false 0, [("name", .str "kick")],
      "triggers", ""⟩],
   [⟨"e", "2", "3", none, none⟩]⟩

/-- Both are registered, the second as a group. -/
theorem registrations_program_groupCanvas :
    ∃ program, dialect.program ⟨[]⟩ .connections groupCanvas = .ok program ∧
      .group "admin_group" "admin" ∈ declarations program ∧
      registrations program = some ["ping".toList, "admin".toList] := by
  obtain ⟨program, h⟩ := exists_of_isSome (m := dialect.program ⟨[]⟩ .connections groupCanvas)
    (by decide +kernel)
  obtain ⟨units, -, hregistrations, -⟩ := registrations_program h
  refine ⟨program, h, ?_, hregistrations.trans (by decide +kernel)⟩
  rw [declarations_program h]
  decide +kernel

/-- Two commands of one name are both registered. -/
theorem not_forall_nodup_registrations :
    ¬∀ catalog mode canvas program, dialect.program catalog mode canvas = .ok program →
      ∀ names, registrations program = some names → names.Nodup := by
  intro hall
  obtain ⟨program, h⟩ := exists_of_isSome (m := dialect.program ⟨[]⟩ .connections
    ⟨[slashBlock "1" "ping", slashBlock "2" "ping"], []⟩) (by decide +kernel)
  have hnodup := hall _ _ _ program h _ (registrations_eq h)
  exact absurd hnodup (by decide +kernel)

end BotCanvas.Offside
