import BotCanvas.Braced.Actions
import BotCanvas.Catalog.Builtin
import BotCanvas.Proofs.Program.Plan
import BotCanvas.Proofs.Program.Tally

/-!
# Which subcommands are kept

The subcommand blocks wired to a command get their names in the order of the wires: a block that is
given a name goes by it, any other by its number. A block whose name an earlier one took is passed
over with all its statements, and all others become subcommands, each with its own statements
(`subcommandsOf_eq_mapM`).

**Names that meet.** Two given names meet if they are the same, and two made names never do. But a
given name may be the one that is made for another block, before or behind it (`NamesMeet`). So a
block without a name is lost if an earlier one is given the name that would be made for it, and a
block with a name of its own if that was made for an earlier one (`not_forall_subcommands_kept`).
-/

namespace BotCanvas.Dialect

/-! ## Names -/

/-- A text as the name of a command, if anything is left of it. -/
def commandName? (t : Text) : Option Text :=
  let name := Name.command [] t
  if name.isEmpty then none else some name

/-- What a block stores as its name. -/
def storedName (b : Block) : Value :=
  (getField? "name" b.properties).getD .null

/-- The name that the user gave a block. -/
def ownName? (b : Block) : Option Text :=
  if Catalog.isUnset (storedName b) then none else commandName? (storedName b).display

/-- The name that the catalog gives all blocks of a type whose users set none. -/
def standingName? (catalog : Catalog) (type : String) : Option Text :=
  commandName? (catalog.resolve type [] "name" .null).display

/-- The name that a block is given: by the user, or by the catalog if the user set none. -/
def givenName? (catalog : Catalog) (b : Block) : Option Text :=
  if Catalog.isUnset (storedName b) then standingName? catalog b.type else ownName? b

/-- The name made for a block of a number. -/
def madeName (index : Nat) : Text :=
  "sub".toList ++ natDigits index

/-- A name gives way to the fallback if nothing is left of it. -/
theorem command_eq_getD
    (fallback t : Text) :
    Name.command fallback t = (commandName? t).getD fallback := by
  unfold commandName? Name.command
  simp only
  split <;> rfl

/-- A block that is given no name goes by its number. -/
theorem subcommandName_eq_getD
    (catalog : Catalog)
    (index : Nat)
    (b : Block) :
    subcommandName catalog index b = (givenName? catalog b).getD (madeName index) := by
  have hvalue : commandName? ((Subject.mk catalog b).value "name").display =
      givenName? catalog b := by
    unfold givenName? ownName? standingName? Subject.value Subject.valueOr Catalog.resolve
    change commandName? (Value.display (if !Catalog.isUnset (storedName b) then storedName b
      else _)) = _
    cases Catalog.isUnset (storedName b) <;> rfl
  rw [subcommandName, command_eq_getD, hvalue]
  rfl

/-- Made names tell the numbers. -/
theorem madeName_injective :
    Function.Injective madeName :=
  fun _ _ h => natDigits_injective (List.append_cancel_left h)

/-! ## Names that meet -/

/-- What a numbered block is called. -/
def nameOf (catalog : Catalog) (p : Block × Nat) : Text :=
  (givenName? catalog p.1).getD (madeName p.2)

/-- The names of two numbered blocks meet: both are given and the same, or one is given and made for
the other. -/
def NamesMeet (catalog : Catalog) (q p : Block × Nat) : Prop :=
  (givenName? catalog q.1 = givenName? catalog p.1 ∧ givenName? catalog p.1 ≠ none) ∨
    (givenName? catalog q.1 = some (madeName p.2) ∧ givenName? catalog p.1 = none) ∨
    (givenName? catalog q.1 = none ∧ givenName? catalog p.1 = some (madeName q.2))

instance (catalog : Catalog) (q p : Block × Nat) : Decidable (NamesMeet catalog q p) :=
  inferInstanceAs (Decidable (_ ∨ _ ∨ _))

/-- Blocks of different numbers are called the same just if their names meet. -/
theorem namesMeet_iff
    {catalog : Catalog}
    {q p : Block × Nat}
    (hne : q.2 ≠ p.2) :
    NamesMeet catalog q p ↔ nameOf catalog q = nameOf catalog p := by
  unfold NamesMeet nameOf
  cases givenName? catalog q.1 with
  | none =>
      cases givenName? catalog p.1 with
      | none => simp [madeName_injective.ne hne]
      | some b => simp [eq_comm]
  | some a =>
      cases givenName? catalog p.1 with
      | none => simp
      | some b => simp

/-- An earlier block took the name of a numbered block. -/
def Taken (catalog : Catalog) (blocks : List Block) (p : Block × Nat) : Prop :=
  ∃ q ∈ blocks.zipIdx, q.2 < p.2 ∧ NamesMeet catalog q p

instance (catalog : Catalog) (blocks : List Block) (p : Block × Nat) :
    Decidable (Taken catalog blocks p) :=
  inferInstanceAs (Decidable (∃ q ∈ blocks.zipIdx, q.2 < p.2 ∧ NamesMeet catalog q p))

/-- The numbered blocks whose names no earlier block took. -/
def kept (catalog : Catalog) (blocks : List Block) : List (Block × Nat) :=
  blocks.zipIdx.filter fun p => ¬ Taken catalog blocks p

/-! ## The run over the blocks -/

/-- The subcommand of a numbered block, with the statements of the block itself. -/
def subcommandOf (d : Dialect) (catalog : Catalog) (mode : Traversal) (canvas : Canvas)
    (p : Block × Nat) : Except NumberError Subcommand :=
  (d.flowCode catalog mode canvas p.1).map fun body =>
    { name := nameOf catalog p
      description := ((Subject.mk catalog p.1).value "description").asDescription "A subcommand"
      body := body }

/-- Tests that a numbered block is called neither as an earlier one nor by a name that was taken
before. -/
def isFresh (catalog : Catalog) (taken : List Text) (numbered : List (Block × Nat))
    (p : Block × Nat) : Bool :=
  !taken.contains (nameOf catalog p) &&
    numbered.all fun q => !decide (q.2 < p.2) || nameOf catalog q != nameOf catalog p

theorem isFresh_iff
    {catalog : Catalog}
    {taken : List Text}
    {numbered : List (Block × Nat)}
    {p : Block × Nat} :
    isFresh catalog taken numbered p = true ↔ nameOf catalog p ∉ taken ∧
      ∀ q ∈ numbered, q.2 < p.2 → nameOf catalog q ≠ nameOf catalog p := by
  simp [isFresh, imp_iff_not_or]

/-- The first block is called as no earlier one, and all others are behind it. -/
theorem filter_isFresh_cons
    {catalog : Catalog}
    {taken : List Text}
    {p : Block × Nat}
    {rest : List (Block × Nat)}
    (hrest : ∀ q ∈ rest, p.2 < q.2) :
    (p :: rest).filter (isFresh catalog taken (p :: rest)) =
      if nameOf catalog p ∈ taken then rest.filter (isFresh catalog taken rest)
      else p :: rest.filter (isFresh catalog (nameOf catalog p :: taken) rest) := by
  have hfirst : isFresh catalog taken (p :: rest) p = true ↔ nameOf catalog p ∉ taken := by
    rw [isFresh_iff, and_iff_left_iff_imp, List.forall_mem_cons]
    exact fun _ => ⟨fun h => absurd h (Nat.lt_irrefl _),
      fun q hq h => absurd h (Nat.lt_asymm (hrest q hq))⟩
  have hothers : ∀ q ∈ rest, isFresh catalog taken (p :: rest) q =
      isFresh catalog (nameOf catalog p :: taken) rest q := by
    intro q hq
    rw [Bool.eq_iff_iff, isFresh_iff, isFresh_iff, List.forall_mem_cons, List.mem_cons, not_or]
    constructor
    · rintro ⟨hfree, hne, hbefore⟩
      exact ⟨⟨(hne (hrest q hq)).symm, hfree⟩, hbefore⟩
    · rintro ⟨⟨hne, hfree⟩, hbefore⟩
      exact ⟨hfree, fun _ => Ne.symm hne, hbefore⟩
  by_cases htaken : nameOf catalog p ∈ taken
  · -- a name that was taken does not have to be taken again
    have hagain : ∀ q, isFresh catalog (nameOf catalog p :: taken) rest q =
        isFresh catalog taken rest q := by
      intro q
      rw [Bool.eq_iff_iff, isFresh_iff, isFresh_iff, List.mem_cons, not_or]
      refine and_congr_left fun _ => and_iff_right_of_imp fun hfree heq => hfree ?_
      rwa [heq]
    rw [if_pos htaken, List.filter_cons_of_neg (by simpa [hfirst] using htaken),
      List.filter_congr hothers, List.filter_congr fun q _ => hagain q]
  · rw [if_neg htaken, List.filter_cons_of_pos (hfirst.2 htaken), List.filter_congr hothers]

/-- A run over blocks makes the subcommands of those whose names are new. -/
theorem subcommandsFrom_eq_mapM
    (d : Dialect)
    (catalog : Catalog)
    (mode : Traversal)
    (canvas : Canvas)
    (index : Nat)
    (taken : List Text)
    (blocks : List Block) :
    d.subcommandsFrom catalog mode canvas index taken blocks =
      ((blocks.zipIdx index).filter (isFresh catalog taken (blocks.zipIdx index))).mapM
        (d.subcommandOf catalog mode canvas) := by
  induction blocks generalizing index taken with
  | nil => rfl
  | cons b rest ih =>
      have hrest : ∀ q ∈ rest.zipIdx (index + 1), index < q.2 :=
        fun q hq => (List.mem_zipIdx hq).1
      have hname : subcommandName catalog index b = nameOf catalog (b, index) :=
        subcommandName_eq_getD catalog index b
      rw [subcommandsFrom, List.zipIdx_cons, filter_isFresh_cons hrest]
      simp only [hname, List.contains_iff_mem, ih]
      split
      · rfl
      · rw [List.mapM_cons, subcommandOf]
        cases d.flowCode catalog mode canvas b <;> rfl

/-- The subcommands of a command are those of the blocks wired to it whose names no earlier block
took, in the order of the wires. Each has the name that its block is given, or one made from its
number, and holds the statements of its own block. -/
theorem subcommandsOf_eq_mapM
    (d : Dialect)
    (catalog : Catalog)
    (mode : Traversal)
    (canvas : Canvas)
    (trigger : Block) :
    d.subcommandsOf catalog mode canvas trigger =
      (kept catalog (Flow.subcommands canvas trigger)).mapM
        (d.subcommandOf catalog mode canvas) := by
  rw [subcommandsOf, subcommandsFrom_eq_mapM]
  refine congrArg (fun l : List (Block × Nat) => l.mapM (d.subcommandOf catalog mode canvas))
    (List.filter_congr fun p _ => ?_)
  rw [Bool.eq_iff_iff, isFresh_iff, decide_eq_true_iff, Taken]
  push Not
  refine (and_iff_right List.not_mem_nil).trans (forall₂_congr fun q _ => ?_)
  exact forall_congr' fun hlt => not_congr (namesMeet_iff hlt.ne).symm

/-- A command. -/
def toolsCommand : Block :=
  ⟨"1", "command_slash", .finite false 0, .finite false 0, [("name", .str "tools")], "triggers", ""⟩

/-- A canvas with two subcommands wired to the command: the first goes by the name that would be
made for the second, and the second has a statement and no name. -/
def unnamedCanvas : Canvas :=
  ⟨[toolsCommand,
    ⟨"2", "command_subcommand", .finite false 0, .finite false 0, [("name", .str "sub1")],
      "triggers", ""⟩,
    ⟨"3", "command_subcommand", .finite false 0, .finite false 0, [], "triggers", ""⟩,
    ⟨"4", "action_reply", .finite false 0, .finite false 0, [("content", .str "hi")],
      "actions", ""⟩],
   [⟨"a", "1", "2", none, none⟩, ⟨"b", "1", "3", none, none⟩, ⟨"c", "3", "4", none, none⟩]⟩

/-- A block may be passed over though no user gave its name to an earlier one. -/
theorem not_forall_subcommands_kept :
    ¬∀ catalog mode canvas trigger subs, trigger.type = "command_slash" →
      Braced.dialect.subcommandsOf catalog mode canvas trigger = .ok subs →
      (∀ p ∈ (Flow.subcommands canvas trigger).zipIdx,
        ∀ q ∈ (Flow.subcommands canvas trigger).zipIdx, q.2 < p.2 →
          ¬(ownName? p.1 ≠ none ∧ ownName? q.1 = ownName? p.1)) →
      subs.length = (Flow.subcommands canvas trigger).length := by
  intro hall
  obtain ⟨subs, hsubs⟩ := exists_of_isSome
    (m := Braced.dialect.subcommandsOf .builtin .connections unnamedCanvas toolsCommand)
    (by decide +kernel)
  have hnames : subs.map Subcommand.name = ["sub1".toList] :=
    (map_name_subcommandsFrom hsubs).trans (by decide +kernel)
  have hlength := hall _ _ _ _ subs rfl hsubs (by decide +kernel)
  rw [← List.length_map Subcommand.name, hnames] at hlength
  exact absurd hlength (by decide +kernel)

end BotCanvas.Dialect
