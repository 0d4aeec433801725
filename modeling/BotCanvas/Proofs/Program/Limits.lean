import BotCanvas.Proofs.Braced.CommandList
import BotCanvas.Proofs.Program.Names
import BotCanvas.Proofs.Program.Registries
import Mathlib.Data.Nat.Digits.Defs

/-!
# The limits that registered commands keep

A command is only accepted with a short name of few characters and with a description that is
neither empty nor long. Names and descriptions are cut to these limits where they are made, and so
is what stands in for an empty one (`commands_within_limits`).

**Numbers in names.** A subcommand without a name gets its number instead, which is not cut. It
stays within the limit for any number of twenty-nine digits, and there are no more subcommands than
connections. So what limits the names is only how many connections a canvas can have at all.

**Blanks.** The list of a program drops the blank at which a description was cut off. Since no
description begins with a blank, none becomes empty by that.
-/

namespace BotCanvas

/-! ## Single spaces -/

namespace Text

/-- The blanks of a text are spaces, and no two of them stand side by side. -/
structure IsSpaced (t : Text) : Prop where
  blank : ∀ c ∈ t, isBlank c = true → c = ' '
  single : t.IsChain fun a b => ¬(isBlank a = true ∧ isBlank b = true)

/-- A text stays so up to any character. -/
theorem IsSpaced.mono
    {s t : Text}
    (ht : t.IsSpaced)
    (h : s <+: t) :
    s.IsSpaced where
  blank := fun c hc => ht.blank c (h.subset hc)
  single := by
    obtain ⟨r, rfl⟩ := h
    exact List.IsChain.left_of_append ht.single

/-- The words of a text on one line stand between single spaces. -/
theorem isSeparated_squeeze
    (s : Text) :
    IsSeparated isBlank ' ' (squeeze s) :=
  isSeparated_join fun _ => solid_of_mem_words

/-- The blanks of a text on one line are single spaces. -/
theorem isSpaced_squeeze
    (s : Text) :
    (squeeze s).IsSpaced where
  blank := (isSeparated_squeeze s).marks
  single := (isSeparated_squeeze s).single

end Text

/-! ## Names and descriptions -/

namespace CommandSpec

/-- A command and its subcommands, each with its name and its description. -/
def entries (c : CommandSpec) : List (Text × Text) :=
  (c.name, c.description) :: c.subcommands

/-- A name that is accepted: of 1 to 32 word characters and hyphens. -/
structure IsAcceptedName (name : Text) : Prop where
  nonempty : 1 ≤ name.length
  short : name.length ≤ 32
  spelled : ∀ c ∈ name, Text.isWord c = true ∨ c = '-'

/-- A description that is accepted: of 1 to 100 characters, with no blanks but single spaces. -/
structure IsAcceptedDescription (description : Text) : Prop where
  nonempty : 1 ≤ description.length
  short : description.length ≤ 100
  spaced : description.IsSpaced

/-- A command that is accepted, with its subcommands. -/
def IsAccepted (c : CommandSpec) : Prop :=
  ∀ p ∈ c.entries, IsAcceptedName p.1 ∧ IsAcceptedDescription p.2

end CommandSpec

open CommandSpec

/-- A name made from free text is accepted if the name in its place is. -/
theorem Name.isAcceptedName_command
    {fallback : Text}
    (h : IsAcceptedName fallback)
    (s : Text) :
    IsAcceptedName (Name.command fallback s) := by
  refine ⟨?_, Name.length_command_le h.short s, ?_⟩ <;> unfold Name.command <;> simp only <;> split
  · exact h.nonempty
  · rename_i hne
    exact List.length_pos_iff.2 (by simpa using hne)
  · exact h.spelled
  · intro c hc
    simpa using (List.mem_filter.1 (List.mem_of_mem_take hc)).2

namespace Dialect

variable {d : Dialect}
variable {catalog : Catalog}
variable {mode : Traversal}
variable {canvas : Canvas}

/-- A description is empty only if the one in its place is. -/
theorem asDescription_ne_nil
    (v : Value)
    {fallback : Text}
    (h : fallback ≠ []) :
    v.asDescription fallback ≠ [] := by
  have htake : ∀ t : Text, t ≠ [] → t.take Value.descriptionLimit ≠ [] := fun t ht => by
    simpa [Value.descriptionLimit] using ht
  rw [Value.asDescription]
  split
  · exact htake _ h
  · rename_i hne
    exact htake _ (by simpa using hne)

/-- A text that was brought onto one line and cut is accepted, unless nothing is left of it. -/
theorem IsCut.isAcceptedDescription
    {t : Text}
    (h : IsCut t)
    (hne : t ≠ []) :
    IsAcceptedDescription t := by
  obtain ⟨s, rfl⟩ := h
  refine ⟨List.length_pos_iff.2 hne, ?_, ?_⟩
  · rw [List.length_take]
    exact Nat.min_le_left _ _
  · exact (Text.isSpaced_squeeze s).mono (List.take_prefix _ _)

/-- It is still accepted without the blank at which it was cut off. -/
theorem IsCut.isAcceptedDescription_stripEnd
    {t : Text}
    (h : IsCut t)
    (hne : t ≠ []) :
    IsAcceptedDescription (Text.stripEnd t) := by
  have haccepted := h.isAcceptedDescription hne
  have hprefix : Text.stripEnd t <+: t := List.rdropWhile_prefix Text.isBlank t
  refine ⟨List.length_pos_iff.2 fun hnil => ?_, hprefix.length_le.trans haccepted.short,
    haccepted.spaced.mono hprefix⟩
  -- a text of blanks alone would begin with one
  obtain ⟨c, r, rfl⟩ := List.exists_cons_of_ne_nil hne
  have hblank : Text.isBlank c = true :=
    List.rdropWhile_eq_nil_iff.1 hnil c List.mem_cons_self
  obtain ⟨s, hs⟩ := h
  have hhead : c ∈ (Text.squeeze s).head? := by
    have htake := congrArg List.head? hs
    rw [List.head?_take] at htake
    simpa [Value.descriptionLimit] using htake.symm
  simp [(Text.isSeparated_squeeze s).head c hhead] at hblank

/-! ## Numbers of subcommands -/

/-- Steps that add one member each at most make no longer list than there are steps. -/
theorem length_foldl_le
    {α β : Type}
    {step : List β → α → List β}
    (hstep : ∀ found a, (step found a).length ≤ found.length + 1)
    (l : List α)
    (found : List β) :
    (l.foldl step found).length ≤ found.length + l.length := by
  induction l generalizing found with
  | nil => exact Nat.le_refl _
  | cons a rest ih =>
      rw [List.foldl_cons, List.length_cons]
      have hrest := ih (step found a)
      have hfirst := hstep found a
      omega

/-- No more subcommands are wired to a command than there are connections. -/
theorem length_subcommands_le
    (canvas : Canvas)
    (command : Block) :
    (Flow.subcommands canvas command).length ≤ canvas.connections.length := by
  have hwired : (canvas.outgoing command.id).length ≤ canvas.connections.length :=
    List.length_filter_le _ _
  unfold Flow.subcommands
  refine (length_foldl_le (fun found e => ?_) _ _).trans (by simpa using hwired)
  split
  · split
    · rw [List.length_append, List.length_singleton]
    · exact Nat.le_succ _
  · exact Nat.le_succ _

/-- A subcommand is registered as its block and the number of its block say. -/
theorem exists_of_mem_subcommandSpecs
    {index : Nat}
    {taken : List Text}
    {l : List Block}
    {p : Text × Text}
    (h : p ∈ subcommandSpecs catalog index taken l) :
    ∃ i b, i < index + l.length ∧ p = (subcommandName catalog i b,
      ((Subject.mk catalog b).value "description").asDescription "A subcommand") := by
  induction l generalizing index taken with
  | nil => exact absurd h List.not_mem_nil
  | cons b rest ih =>
      have hrest : ∀ {taken}, p ∈ subcommandSpecs catalog (index + 1) taken rest →
          ∃ i b', i < index + (b :: rest).length ∧ p = (subcommandName catalog i b',
            ((Subject.mk catalog b').value "description").asDescription "A subcommand") := by
        intro taken h
        obtain ⟨i, b', hi, hp⟩ := ih h
        exact ⟨i, b', by rw [List.length_cons]; omega, hp⟩
      rw [subcommandSpecs] at h
      split at h
      · exact hrest h
      · rcases List.mem_cons.1 h with rfl | h
        · exact ⟨index, b, by rw [List.length_cons]; omega, rfl⟩
        · exact hrest h

/-- A number of twenty-nine digits stands in a name. -/
theorem isAcceptedName_subcommandName
    {index : Nat}
    (h : index < 10 ^ 29)
    (b : Block) :
    IsAcceptedName (subcommandName catalog index b) := by
  have hdigits : (natDigits index).length ≤ 29 := Nat.toDigits_length 10 index 29 (by decide) h
  refine Name.isAcceptedName_command ⟨?_, ?_, fun c hc => .inl ?_⟩ _
  · rw [List.length_append]
    exact Nat.le_add_right_of_le (by decide)
  · rw [List.length_append]
    exact Nat.add_le_add (show "sub".toList.length ≤ 3 by decide) hdigits
  · rcases List.mem_append.1 hc with hc | hc
    · exact List.all_eq_true.1 (show "sub".toList.all Text.isWord = true by decide) c hc
    · exact Text.isWord_of_isPlain (Text.isPlain_natDigits index c hc)

/-! ## Registered commands -/

/-- All that a canvas registers has accepted names, and descriptions that were cut. -/
theorem entries_of_mem_slashSpecs
    (hsize : canvas.connections.length ≤ 10 ^ 29)
    {c : CommandSpec}
    (hc : c ∈ slashSpecs catalog canvas) :
    ∀ p ∈ c.entries, IsAcceptedName p.1 ∧ IsCut p.2 ∧ p.2 ≠ [] := by
  obtain ⟨t, -, rfl⟩ := List.mem_map.1 hc
  rw [CommandSpec.entries, List.forall_mem_cons]
  refine ⟨⟨Name.isAcceptedName_command ?_ _, isCut_asDescription _ (by decide),
    asDescription_ne_nil _ (by decide)⟩, fun p hp => ?_⟩
  · exact ⟨by decide, by decide, fun c hc => .inl (List.all_eq_true.1
      (show "ping".toList.all Text.isWord = true by decide) c hc)⟩
  · rw [specOf, if_pos rfl] at hp
    obtain ⟨i, b, hi, rfl⟩ := exists_of_mem_subcommandSpecs hp
    have hwired := length_subcommands_le canvas t
    exact ⟨isAcceptedName_subcommandName (by omega) b, isCut_asDescription _ (by decide),
      asDescription_ne_nil _ (by decide)⟩

/-- A program registers every name of its slash commands once, and all that it registers is accepted,
with the subcommands: as it is given to the end of the program, and as the list there has it. The
bound on the connections is that of the numbers that fit into a name, and far beyond what a list can
hold. -/
theorem commands_within_limits
    (hsize : canvas.connections.length ≤ 10 ^ 29)
    {units : List HandlerUnit}
    (hunits : d.handlerUnits catalog mode canvas = .ok units) :
    (commands catalog units).map CommandSpec.name = (slashNames catalog canvas).eraseDups ∧
      (∀ c ∈ commands catalog units, c.IsAccepted) ∧
      ∀ program, Braced.dialect.program catalog mode canvas = .ok program →
        Braced.commandList? program = some ((commands catalog units).map CommandSpec.trimmed) ∧
          ∀ c ∈ (commands catalog units).map CommandSpec.trimmed, c.IsAccepted := by
  have hentries : ∀ c ∈ commands catalog units, ∀ p ∈ c.entries,
      IsAcceptedName p.1 ∧ IsCut p.2 ∧ p.2 ≠ [] := by
    intro c hc
    rw [commands_eq_firstOfEachName hunits] at hc
    exact entries_of_mem_slashSpecs hsize (mem_of_mem_firstOfEachName hc)
  refine ⟨map_name_commands hunits, fun c hc p hp => ?_,
    fun program hprogram => ⟨?_, fun c' hc' => ?_⟩⟩
  · obtain ⟨hname, hcut, hne⟩ := hentries c hc p hp
    exact ⟨hname, hcut.isAcceptedDescription hne⟩
  · rw [commandList?_eq hprogram, commands_eq_firstOfEachName hunits]
  · obtain ⟨c, hc, rfl⟩ := List.mem_map.1 hc'
    have htrimmed : c.trimmed.entries = c.entries.map fun p => (p.1, Text.stripEnd p.2) := rfl
    intro p' hp'
    rw [htrimmed] at hp'
    obtain ⟨p, hp, rfl⟩ := List.mem_map.1 hp'
    obtain ⟨hname, hcut, hne⟩ := hentries c hc p hp
    exact ⟨hname, hcut.isAcceptedDescription_stripEnd hne⟩

/-- A command whose description is cut off at a blank is accepted with the blank and without it. -/
theorem commands_within_limits_describedCanvas :
    ∃ units program, Offside.dialect.handlerUnits ⟨[]⟩ .connections describedCanvas = .ok units ∧
      Braced.dialect.program ⟨[]⟩ .connections describedCanvas = .ok program ∧
      describedCanvas.connections.length ≤ 10 ^ 29 ∧
      (commands ⟨[]⟩ units).map CommandSpec.name = ["ping".toList, "admin".toList] ∧
      (∀ c ∈ commands ⟨[]⟩ units, c.IsAccepted) ∧
      Braced.commandList? program = some ((commands ⟨[]⟩ units).map CommandSpec.trimmed) := by
  obtain ⟨units, hunits⟩ := exists_of_isSome
    (m := Offside.dialect.handlerUnits ⟨[]⟩ .connections describedCanvas) (by decide +kernel)
  obtain ⟨program, hprogram⟩ := exists_of_isSome
    (m := Braced.dialect.program ⟨[]⟩ .connections describedCanvas) (by decide +kernel)
  have hsize : describedCanvas.connections.length ≤ 10 ^ 29 := by decide
  obtain ⟨hnames, haccepted, hlist⟩ := commands_within_limits hsize hunits
  exact ⟨units, program, hunits, hprogram, hsize, hnames.trans (by decide +kernel), haccepted,
    (hlist program hprogram).1⟩

end Dialect

end BotCanvas
