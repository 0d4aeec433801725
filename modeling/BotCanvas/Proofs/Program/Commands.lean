import BotCanvas.Braced.Frame
import BotCanvas.Proofs.Program.Plan
import BotCanvas.Proofs.Text.Ends

/-!
# The commands of a canvas

What a slash command is registered as is settled by the canvas alone: no statement, no order of
actions and no dialect has a say in it. The units of a canvas have the specifications of the canvas
(`map_commandSpec_units`), and the commands to register are the first of each name among them
(`commands_eq`).

**Descriptions.** All descriptions are cut to the limit after they were brought onto one line
(`isCut_of_mem_slashSpecs`). So a cut may fall on a space and leave it at the end.
-/

namespace BotCanvas

namespace CommandSpec

/-- The descriptions of a command and of its subcommands. -/
def descriptions (c : CommandSpec) : List Text :=
  c.description :: c.subcommands.map Prod.snd

/-- A command with other descriptions. -/
def mapDescriptions (f : Text → Text) (c : CommandSpec) : CommandSpec where
  name := c.name
  description := f c.description
  subcommands := c.subcommands.map fun p => (p.1, f p.2)

/-- A command whose descriptions have no blanks at their ends. -/
def trimmed (c : CommandSpec) : CommandSpec :=
  c.mapDescriptions Text.stripEnd

/-- What is done to the descriptions of a command is what is done to each of them. -/
theorem mapDescriptions_congr
    {f g : Text → Text}
    {c : CommandSpec}
    (h : ∀ d ∈ c.descriptions, f d = g d) :
    c.mapDescriptions f = c.mapDescriptions g := by
  rw [descriptions, List.forall_mem_cons] at h
  obtain ⟨hown, hsubs⟩ := h
  have hmap : (c.subcommands.map fun p => (p.1, f p.2)) =
      c.subcommands.map fun p => (p.1, g p.2) :=
    List.map_congr_left fun p hp => by rw [hsubs p.2 (List.mem_map_of_mem hp)]
  rw [mapDescriptions, mapDescriptions, hown, hmap]

/-- A command stays as it is just if all its descriptions do. -/
theorem mapDescriptions_eq_self_iff
    {f : Text → Text}
    {c : CommandSpec} :
    c.mapDescriptions f = c ↔ ∀ d ∈ c.descriptions, f d = d := by
  have hid : c.mapDescriptions id = c := by
    rw [mapDescriptions]
    simp
  constructor
  · intro h
    have hmap : c.descriptions.map f = c.descriptions.map id := by
      rw [List.map_id]
      conv_rhs => rw [← h]
      rw [descriptions, descriptions, mapDescriptions, List.map_cons, List.map_map, List.map_map]
      rfl
    exact List.map_inj_left.1 hmap
  · intro h
    exact (mapDescriptions_congr h).trans hid

/-- A description was cut off at a blank: it has the length of the limit and ends in a blank. -/
def CutAtBlank (c : CommandSpec) : Prop :=
  ∃ d ∈ c.descriptions, d.length = Value.descriptionLimit ∧ d.getLast?.any Text.isBlank = true

instance : DecidablePred CutAtBlank := fun c =>
  inferInstanceAs (Decidable (∃ d ∈ c.descriptions, d.length = Value.descriptionLimit ∧
    d.getLast?.any Text.isBlank = true))

end CommandSpec

/-! ## The first command of each name -/

/-- The first command of a name. -/
def firstNamed (name : Text) (commands : List CommandSpec) : Option CommandSpec :=
  commands.find? fun c => c.name == name

/-- What comes first of a name is kept. -/
theorem firstNamed_firstOfEachName
    (name : Text)
    (commands : List CommandSpec) :
    firstNamed name (Braced.firstOfEachName commands) = firstNamed name commands := by
  -- the commands that were kept so far stand in front of those that are still to come
  have hfold : ∀ kept, firstNamed name (commands.foldl (fun kept c =>
      if kept.any fun k => k.name == c.name then kept else kept ++ [c]) kept) =
        firstNamed name (kept ++ commands) := by
    intro kept
    induction commands generalizing kept with
    | nil => rw [List.foldl_nil, List.append_nil]
    | cons c commands ih =>
        rw [List.foldl_cons, ih]
        split
        · rename_i hkept
          obtain ⟨k, hk, hname⟩ := List.any_eq_true.1 hkept
          rw [firstNamed, firstNamed, List.find?_append, List.find?_append, List.find?_cons]
          cases hc : c.name == name with
          | false => rfl
          | true =>
              have hfound : (kept.find? fun c => c.name == name).isSome = true := by
                rw [List.find?_isSome]
                exact ⟨k, hk, by rw [beq_iff_eq.1 hname, hc]⟩
              rw [Option.or_of_isSome hfound, Option.or_of_isSome hfound]
        · rw [List.append_assoc, List.singleton_append]
  exact hfold []

/-- Commands of different names are all kept. -/
theorem firstOfEachName_of_nodup
    {commands : List CommandSpec}
    (h : (commands.map CommandSpec.name).Nodup) :
    Braced.firstOfEachName commands = commands := by
  have hfold : ∀ kept : List CommandSpec, ((kept ++ commands).map CommandSpec.name).Nodup →
      commands.foldl (fun kept c =>
        if kept.any fun k => k.name == c.name then kept else kept ++ [c]) kept =
          kept ++ commands := by
    intro kept hnodup
    induction commands generalizing kept with
    | nil => rw [List.foldl_nil, List.append_nil]
    | cons c commands ih =>
        have hfree : ¬(kept.any fun k => k.name == c.name) = true := by
          rw [List.any_eq_true]
          rintro ⟨k, hk, hname⟩
          rw [List.map_append, List.map_cons] at hnodup
          have happart := (List.nodup_append.1 hnodup).2.2 k.name (List.mem_map_of_mem hk)
            c.name List.mem_cons_self
          exact happart (beq_iff_eq.1 hname)
        rw [List.append_cons] at hnodup
        rw [List.foldl_cons, if_neg hfree, ih (List.nodup_cons.1 h).2 _ hnodup,
          ← List.append_cons]
  exact hfold [] h

/-- Only commands that were given are kept. -/
theorem mem_of_mem_firstOfEachName
    {commands : List CommandSpec}
    {c : CommandSpec}
    (h : c ∈ Braced.firstOfEachName commands) :
    c ∈ commands := by
  revert c
  refine List.foldlRecOn (motive := fun kept : List CommandSpec =>
    ∀ {c}, c ∈ kept → c ∈ commands) _ _ (by simp) ?_
  intro kept hkept k hk c hc
  split at hc
  · exact hkept hc
  · rcases List.mem_append.1 hc with hc | hc
    · exact hkept hc
    · rw [List.mem_singleton.1 hc]
      exact hk

namespace Dialect

variable {d : Dialect}
variable {catalog : Catalog}
variable {mode : Traversal}
variable {canvas : Canvas}

/-- The subcommands that blocks are registered as, the first of which has the given number. -/
def subcommandSpecs (catalog : Catalog) :
    (index : Nat) → (taken : List Text) → List Block → List (Text × Text)
  | _, _, [] => []
  | index, taken, b :: rest =>
      let name := subcommandName catalog index b
      if taken.contains name then subcommandSpecs catalog (index + 1) taken rest
      else
        (name, ((Subject.mk catalog b).value "description").asDescription "A subcommand") ::
          subcommandSpecs catalog (index + 1) (name :: taken) rest

/-- What the handler of a trigger is registered as, if it is a slash command. -/
def specOf (catalog : Catalog) (canvas : Canvas) (kind : TriggerKind) (t : Block) :
    CommandSpec where
  name := guardOf catalog t kind
  description := ((Subject.mk catalog t).value "description").asDescription "A bot command"
  subcommands :=
    if kind = .slash then subcommandSpecs catalog 0 [] (Flow.subcommands canvas t) else []

/-- What the slash commands of a canvas are registered as, in document order. -/
def slashSpecs (catalog : Catalog) (canvas : Canvas) : List CommandSpec :=
  (triggersOf catalog canvas .slash).map (specOf catalog canvas .slash)

/-- The names of the slash commands are those that they are registered by. -/
theorem map_name_slashSpecs
    (catalog : Catalog)
    (canvas : Canvas) :
    (slashSpecs catalog canvas).map CommandSpec.name = slashNames catalog canvas := by
  rw [slashSpecs, List.map_map]
  rfl

/-- Subcommands are registered as their blocks say. -/
theorem map_spec_subcommandsFrom
    {index : Nat}
    {taken : List Text}
    {l : List Block}
    {subs : List Subcommand}
    (h : d.subcommandsFrom catalog mode canvas index taken l = .ok subs) :
    subs.map (fun sub => (sub.name, sub.description)) = subcommandSpecs catalog index taken l := by
  induction l generalizing index taken subs with
  | nil =>
      cases h
      rfl
  | cons b rest ih =>
      rw [subcommandsFrom] at h
      rw [subcommandSpecs]
      simp only at h ⊢
      split at h
      · rename_i htaken
        rw [if_pos htaken]
        exact ih h
      · rename_i hfree
        obtain ⟨body, -, h⟩ := exists_of_bind h
        obtain ⟨others, hothers, h⟩ := exists_of_bind h
        cases h
        rw [if_neg hfree, List.map_cons, ih hothers]

/-- The unit of a trigger is registered as the trigger says. -/
theorem commandSpec_handlerUnit
    {kind : TriggerKind}
    {t : Block}
    {u : HandlerUnit}
    (h : d.handlerUnit catalog mode canvas kind t = .ok u) :
    u.kind = kind ∧ commandSpec catalog u = specOf catalog canvas kind t := by
  obtain ⟨subs, body, hsubs, rfl⟩ := exists_of_handlerUnit h
  have hspecs : subs.map (fun sub => (sub.name, sub.description)) =
      (specOf catalog canvas kind t).subcommands :=
    map_ownSubcommands (fun _ => map_spec_subcommandsFrom) hsubs
  refine ⟨rfl, ?_⟩
  rw [commandSpec, hspecs]
  rfl

/-- The slash commands among units are registered as the canvas says. -/
theorem map_commandSpec_units
    {units : List HandlerUnit}
    (h : d.handlerUnits catalog mode canvas = .ok units) :
    (units.filter fun u => u.kind == .slash).map (commandSpec catalog) =
      slashSpecs catalog canvas := by
  have hview : ∀ (p : TriggerKind × Block) u,
      d.handlerUnit catalog mode canvas p.1 p.2 = .ok u →
      (u.kind, commandSpec catalog u) = (p.1, specOf catalog canvas p.1 p.2) := by
    intro p u hu
    obtain ⟨hkind, hspec⟩ := commandSpec_handlerUnit hu
    rw [hkind, hspec]
  have hviews : units.map (fun u => (u.kind, commandSpec catalog u)) =
      TriggerKind.all.flatMap fun kind => (triggersOf catalog canvas kind).map fun t =>
        (kind, specOf catalog canvas kind t) := by
    rw [map_eq_of_mapM_eq_ok hview h, List.map_flatMap]
    simp only [List.map_map]
    rfl
  have hslash : (units.map fun u => (u.kind, commandSpec catalog u)).filter
      (fun p => p.1 == .slash) = (triggersOf catalog canvas .slash).map fun t =>
        (.slash, specOf catalog canvas .slash t) := by
    rw [hviews]
    refine filter_kind_flatMap (fun kind p hp => ?_) .slash
    obtain ⟨t, -, rfl⟩ := List.mem_map.1 hp
    rfl
  rw [List.filter_map] at hslash
  have hspecs := congrArg (List.map Prod.snd) hslash
  rw [List.map_map, List.map_map] at hspecs
  exact hspecs

/-- The commands to register are the first of each name that the canvas says. -/
theorem commands_eq_firstOfEachName
    {units : List HandlerUnit}
    (h : d.handlerUnits catalog mode canvas = .ok units) :
    commands catalog units = Braced.firstOfEachName (slashSpecs catalog canvas) := by
  rw [← map_commandSpec_units h, Braced.firstOfEachName, List.foldl_map]
  rfl

/-! ## Descriptions -/

/-- A text that was brought onto one line and cut to the limit. -/
def IsCut (t : Text) : Prop :=
  ∃ s, t = (Text.squeeze s).take Value.descriptionLimit

/-- Descriptions are cut if the text that stands in for an empty one is on one line. -/
theorem isCut_asDescription
    (v : Value)
    {fallback : Text}
    (h : Text.squeeze fallback = fallback) :
    IsCut (v.asDescription fallback) := by
  rw [Value.asDescription]
  split
  · exact ⟨fallback, by rw [h]⟩
  · exact ⟨v.displayPresent, rfl⟩

/-- The descriptions of subcommands are cut. -/
theorem isCut_subcommandSpecs
    {index : Nat}
    {taken : List Text}
    {l : List Block} :
    ∀ p ∈ subcommandSpecs catalog index taken l, IsCut p.2 := by
  induction l generalizing index taken with
  | nil => simp [subcommandSpecs]
  | cons b rest ih =>
      rw [subcommandSpecs]
      split
      · exact ih
      · exact List.forall_mem_cons.2 ⟨isCut_asDescription _ (by decide), ih⟩

/-- So are all descriptions of a canvas. -/
theorem isCut_of_mem_slashSpecs
    {c : CommandSpec}
    (hc : c ∈ slashSpecs catalog canvas) :
    ∀ t ∈ c.descriptions, IsCut t := by
  obtain ⟨trigger, -, rfl⟩ := List.mem_map.1 hc
  rw [CommandSpec.descriptions, List.forall_mem_cons]
  refine ⟨isCut_asDescription _ (by decide), fun t ht => ?_⟩
  obtain ⟨p, hp, rfl⟩ := List.mem_map.1 ht
  rw [specOf, if_pos rfl] at hp
  exact isCut_subcommandSpecs p hp

/-- Bringing a cut text onto one line and cutting it once more drops a blank at its end. -/
theorem IsCut.squeeze_take
    {t : Text}
    (h : IsCut t) :
    (Text.squeeze t).take Value.descriptionLimit = Text.stripEnd t := by
  obtain ⟨s, rfl⟩ := h
  rw [Text.squeeze_take_squeeze]
  refine List.take_of_length_le ((Text.length_stripEnd_le _).trans ?_)
  rw [List.length_take]
  exact Nat.min_le_left _ _

/-- A cut text ends in a blank just if it has the length of the limit and a blank last. -/
theorem IsCut.stripEnd_eq_self_iff
    {t : Text}
    (h : IsCut t) :
    Text.stripEnd t = t ↔
      ¬(t.length = Value.descriptionLimit ∧ t.getLast?.any Text.isBlank = true) := by
  have hlast : Text.stripEnd t = t ↔ ¬t.getLast?.any Text.isBlank = true := by
    rw [Text.stripEnd_eq_self_iff]
    cases t.getLast? <;> simp
  rw [not_and]
  constructor
  · exact fun hstrip _ => hlast.1 hstrip
  · intro hnot
    by_cases hlength : t.length = Value.descriptionLimit
    · exact hlast.2 (hnot hlength)
    · obtain ⟨s, rfl⟩ := h
      exact Text.stripEnd_take_squeeze hlength

/-- A command of a canvas has no blanks to trim just if no description was cut off at one. -/
theorem trimmed_eq_self_iff
    {c : CommandSpec}
    (hc : c ∈ slashSpecs catalog canvas) :
    c.trimmed = c ↔ ¬c.CutAtBlank := by
  have hcut := isCut_of_mem_slashSpecs hc
  rw [CommandSpec.trimmed, CommandSpec.mapDescriptions_eq_self_iff]
  constructor
  · rintro h ⟨t, ht, hblank⟩
    exact (hcut t ht).stripEnd_eq_self_iff.1 (h t ht) hblank
  · intro h t ht
    exact (hcut t ht).stripEnd_eq_self_iff.2 fun hblank => h ⟨t, ht, hblank⟩

end Dialect

end BotCanvas
