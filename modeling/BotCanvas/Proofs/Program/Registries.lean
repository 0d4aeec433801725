import BotCanvas.Proofs.Braced.CommandList
import BotCanvas.Proofs.Offside.CommandTree

/-!
# Commands in both dialects

One canvas registers its slash commands in either dialect: by decorators and groups in the one, by a
list at the end of the program in the other. Read back from the two programs, the commands have the
same names and the same subcommands in the same order, and the list has the first of each name
(`registers_alike`).

**Descriptions.** The list brings each description onto one line and cuts it once more. That drops a
blank at which the description was cut off, and nothing else. So a name stands for the same command
in both programs just if no description of it was cut off at a blank.
-/

namespace BotCanvas.Dialect

variable {catalog : Catalog}
variable {mode : Traversal}
variable {canvas : Canvas}

/-- The tree of one program has all slash commands of the canvas. -/
theorem commandTree?_eq
    {program : Text}
    (h : Offside.dialect.program catalog mode canvas = .ok program) :
    Offside.commandTree? program = some (slashSpecs catalog canvas) := by
  obtain ⟨units, hunits, htree⟩ := Offside.commandTree?_program h
  rw [htree, map_commandSpec_units hunits]

/-- The first of each name have the names of the canvas, each once. -/
theorem map_name_firstOfEachName
    {d : Dialect}
    {program : Text}
    (h : d.program catalog mode canvas = .ok program) :
    (Braced.firstOfEachName (slashSpecs catalog canvas)).map CommandSpec.name =
      (slashNames catalog canvas).eraseDups := by
  obtain ⟨units, hunits, -⟩ := exists_units h
  rw [← commands_eq_firstOfEachName hunits, map_name_commands hunits]

/-- The list of the other has the first of each name, without blanks at the ends of descriptions. -/
theorem commandList?_eq
    {program : Text}
    (h : Braced.dialect.program catalog mode canvas = .ok program) :
    Braced.commandList? program =
      some ((Braced.firstOfEachName (slashSpecs catalog canvas)).map CommandSpec.trimmed) := by
  obtain ⟨units, hunits, hlist⟩ := Braced.commandList?_program h
  have hkept : Braced.firstOfEachName (Braced.firstOfEachName (slashSpecs catalog canvas)) =
      Braced.firstOfEachName (slashSpecs catalog canvas) :=
    firstOfEachName_of_nodup (by rw [map_name_firstOfEachName h]; exact nodup_eraseDups _)
  have hrelisted : (Braced.firstOfEachName (slashSpecs catalog canvas)).map Braced.relisted =
      (Braced.firstOfEachName (slashSpecs catalog canvas)).map CommandSpec.trimmed := by
    refine List.map_congr_left fun c hc => CommandSpec.mapDescriptions_congr fun t ht => ?_
    exact (isCut_of_mem_slashSpecs (mem_of_mem_firstOfEachName hc) t ht).squeeze_take
  rw [hlist, commands_eq_firstOfEachName hunits, hkept, hrelisted]

/-- A name stands for the same command in both, up to blanks at the ends of descriptions. -/
theorem firstNamed_trimmed
    (name : Text)
    (specs : List CommandSpec) :
    firstNamed name ((Braced.firstOfEachName specs).map CommandSpec.trimmed) =
      (firstNamed name specs).map CommandSpec.trimmed := by
  rw [firstNamed, List.find?_map, ← firstNamed_firstOfEachName]
  rfl

/-- Both programs of a canvas register its commands by the same names and with the same subcommands.
Their descriptions differ in blanks at the end only, and only where a description was cut off at
one. -/
theorem registers_alike
    {suites braces : Text}
    (hsuites : Offside.dialect.program catalog mode canvas = .ok suites)
    (hbraces : Braced.dialect.program catalog mode canvas = .ok braces) :
    ∃ tree list, Offside.commandTree? suites = some tree ∧
      Braced.commandList? braces = some list ∧
      tree.map CommandSpec.name = slashNames catalog canvas ∧
      list.map CommandSpec.name = (slashNames catalog canvas).eraseDups ∧
      ∀ name, firstNamed name list = (firstNamed name tree).map CommandSpec.trimmed ∧
        (firstNamed name list = firstNamed name tree ↔
          ∀ c ∈ firstNamed name tree, ¬c.CutAtBlank) := by
  refine ⟨_, _, commandTree?_eq hsuites, commandList?_eq hbraces,
    map_name_slashSpecs catalog canvas, ?_, fun name => ⟨firstNamed_trimmed name _, ?_⟩⟩
  · rw [List.map_map, ← map_name_firstOfEachName hbraces]
    rfl
  · rw [firstNamed_trimmed]
    cases hname : firstNamed name (slashSpecs catalog canvas) with
    | none => simp
    | some c =>
        have hc : c ∈ slashSpecs catalog canvas := List.mem_of_find?_eq_some hname
        rw [Option.map_some, Option.some.injEq, trimmed_eq_self_iff hc]
        simp

/-- A canvas with two commands. The description of the first is cut off at a blank, and that of the
second needs escaping. -/
def describedCanvas : Canvas :=
  ⟨[⟨"1", "command_slash", .finite false 0, .finite false 0,
      [("name", .str "ping"),
       ("description", .str (String.ofList (List.replicate 99 'a' ++ " b".toList)))],
      "triggers", ""⟩,
    ⟨"2", "command_slash", .finite false 0, .finite false 0,
      [("name", .str "Admin"), ("description", .str "it's  \"all\"\nhere")], "triggers", ""⟩,
    ⟨"3", "command_subcommand", .finite false 0, .finite false 0,
      [("name", .str "kick"), ("description", .str "`out`")], "triggers", ""⟩],
   [⟨"e", "2", "3", none, none⟩]⟩

/-- Both programs register the second command as it is, and the first with different
descriptions. -/
theorem registers_alike_describedCanvas :
    ∃ suites braces tree list,
      Offside.dialect.program ⟨[]⟩ .connections describedCanvas = .ok suites ∧
      Braced.dialect.program ⟨[]⟩ .connections describedCanvas = .ok braces ∧
      Offside.commandTree? suites = some tree ∧ Braced.commandList? braces = some list ∧
      tree.map CommandSpec.name = ["ping".toList, "admin".toList] ∧
      firstNamed "admin" list = some ⟨"admin", "it's \"all\" here", [("kick", "`out`")]⟩ ∧
      firstNamed "ping" list ≠ firstNamed "ping" tree := by
  obtain ⟨suites, hsuites⟩ := exists_of_isSome
    (m := Offside.dialect.program ⟨[]⟩ .connections describedCanvas) (by decide +kernel)
  obtain ⟨braces, hbraces⟩ := exists_of_isSome
    (m := Braced.dialect.program ⟨[]⟩ .connections describedCanvas) (by decide +kernel)
  obtain ⟨tree, list, htree, hlist, hnames, -, hfirst⟩ := registers_alike hsuites hbraces
  have hspecs : tree = slashSpecs ⟨[]⟩ describedCanvas :=
    Option.some.inj (htree.symm.trans (commandTree?_eq hsuites))
  refine ⟨suites, braces, tree, list, hsuites, hbraces, htree, hlist,
    hnames.trans (by decide +kernel), ?_, ?_⟩
  · rw [(hfirst "admin").1, hspecs]
    decide +kernel
  · rw [Ne, (hfirst "ping").2, hspecs]
    decide +kernel

/-- The two programs of a canvas need not register a command with the same description. -/
theorem not_forall_registers_same :
    ¬∀ catalog mode canvas suites braces,
      Offside.dialect.program catalog mode canvas = .ok suites →
      Braced.dialect.program catalog mode canvas = .ok braces →
      ∀ tree list, Offside.commandTree? suites = some tree →
        Braced.commandList? braces = some list →
        ∀ name, firstNamed name list = firstNamed name tree := by
  intro hall
  obtain ⟨suites, hsuites⟩ := exists_of_isSome
    (m := Offside.dialect.program ⟨[]⟩ .connections describedCanvas) (by decide +kernel)
  obtain ⟨braces, hbraces⟩ := exists_of_isSome
    (m := Braced.dialect.program ⟨[]⟩ .connections describedCanvas) (by decide +kernel)
  have hping := hall _ _ _ suites braces hsuites hbraces _ _ (commandTree?_eq hsuites)
    (commandList?_eq hbraces) "ping"
  exact absurd hping (by decide +kernel)

end BotCanvas.Dialect
