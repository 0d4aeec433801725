import BotCanvas.Proofs.Flow.Paths
import BotCanvas.Proofs.Program.Places

/-!
# Flows along connections, wire by wire

What a flow along connections is can be said without a walk. It consists of **stretches**: the steps
of the trigger, and the steps of every arm at any depth. A stretch starts where the connection that
enters it leads to, goes on along the first connection of each block, and ends only at a branching
block or where the next connection leads no further (`Stretch.FollowsWires`). The flow of a trigger
is the only one all of whose stretches do so (`eq_linearize_iff_followsWires`): no block that the wires
lead to is left out, and none is added.

**One turn.** What a turn of the walk can do is said once (`onward_turn`), and what every turn keeps
holds of the walk (`onward_induction`).
-/

namespace BotCanvas.Flow

variable {catalog : Catalog}
variable {canvas : Canvas}
variable {path : List String}
variable {entry : Option Connection}

/-! ## One turn of a walk -/

/-- A connection leads to a block that is no trigger and not on the path. -/
inductive Leads (catalog : Catalog) (canvas : Canvas) (path : List String) :
    Option Connection → Block → Prop
  | intro
      {e : Connection}
      {b : Block} :
      canvas.block? e.target = some b →
      isTrigger catalog b = false →
      e.target ∉ path →
      Leads catalog canvas path (some e) b

/-- There is nowhere to go: no connection, or one whose target is not on the canvas, is a trigger or
is already on the path. -/
inductive Blocked (catalog : Catalog) (canvas : Canvas) (path : List String) :
    Option Connection → Prop
  | unwired : Blocked catalog canvas path none
  | missing
      {e : Connection} :
      canvas.block? e.target = none →
      Blocked catalog canvas path (some e)
  | trigger
      {e : Connection}
      {b : Block} :
      canvas.block? e.target = some b →
      isTrigger catalog b = true →
      Blocked catalog canvas path (some e)
  | visited
      {e : Connection} :
      e.target ∈ path →
      Blocked catalog canvas path (some e)

namespace Leads

variable {b b' : Block}

/-- A connection leads to the block of its target. -/
theorem exists_target
    (h : Leads catalog canvas path entry b) :
    ∃ e, entry = some e ∧ e.target = b.id := by
  obtain ⟨hfound, -, -⟩ := h
  exact ⟨_, rfl, (Canvas.mem_and_id_of_block? hfound).2.symm⟩

/-- A connection leads to one block. -/
theorem unique
    (h : Leads catalog canvas path entry b)
    (h' : Leads catalog canvas path entry b') :
    b' = b := by
  obtain ⟨hfound, -, -⟩ := h
  obtain ⟨hfound', -, -⟩ := h'
  exact Option.some.inj (hfound'.symm.trans hfound)

/-- Where a connection leads on, nothing blocks. -/
theorem not_blocked
    (h : Leads catalog canvas path entry b) :
    ¬Blocked catalog canvas path entry := by
  obtain ⟨hfound, htrigger, hfresh⟩ := h
  rintro (_ | hmissing | ⟨hfound', htrigger'⟩ | hvisited)
  · rw [hfound] at hmissing
    cases hmissing
  · obtain rfl := Option.some.inj (hfound'.symm.trans hfound)
    rw [htrigger] at htrigger'
    cases htrigger'
  · exact hfresh hvisited

/-- A turn leaves fewer identifiers. -/
theorem length_fresh_lt
    (h : Leads catalog canvas path entry b) :
    (canvas.fresh (b.id :: path)).length < (canvas.fresh path).length := by
  obtain ⟨hfound, -, hfresh⟩ := h
  obtain ⟨-, hid⟩ := Canvas.mem_and_id_of_block? hfound
  rw [hid]
  exact Canvas.length_fresh_cons_lt hfound hfresh

end Leads

/-- The steps behind a connection, given the identifiers on the path, the latest first. -/
def onward (catalog : Catalog) (canvas : Canvas) (path : List String) :
    Option Connection → List Step
  | none => []
  | some e => walk catalog canvas path e.target

/-- What a turn of a walk can do: end, branch, or go on. -/
inductive Turn (catalog : Catalog) (canvas : Canvas) (path : List String)
    (entry : Option Connection) : List Step → Prop
  | ends :
      Blocked catalog canvas path entry →
      Turn catalog canvas path entry []
  | branches
      {b : Block}
      {way : Branching} :
      Leads catalog canvas path entry b →
      branching? b.type = some way →
      Turn catalog canvas path entry
        [.mk b ((entries canvas b way).map fun p =>
          (p.1, onward catalog canvas (b.id :: path) p.2))]
  | goesOn
      {b : Block} :
      Leads catalog canvas path entry b →
      branching? b.type = none →
      Turn catalog canvas path entry
        (.plain b :: onward catalog canvas (b.id :: path) (canvas.outgoing b.id).head?)

/-- The steps behind a connection are those of a turn. -/
theorem onward_turn
    (catalog : Catalog)
    (canvas : Canvas)
    (path : List String) :
    ∀ entry, Turn catalog canvas path entry (onward catalog canvas path entry)
  | none => .ends .unwired
  | some e => by
      rw [onward]
      cases hfound : canvas.block? e.target with
      | none =>
          rw [walk_of_none hfound]
          exact .ends (.missing hfound)
      | some b =>
          obtain ⟨-, hid⟩ := Canvas.mem_and_id_of_block? hfound
          rw [walk_of_some hfound]
          by_cases hseen : path.contains e.target = true
          · rw [if_pos hseen]
            exact .ends (.visited (by simpa using hseen))
          rw [if_neg hseen]
          by_cases htrigger : isTrigger catalog b = true
          · rw [if_pos htrigger]
            exact .ends (.trigger hfound htrigger)
          rw [if_neg htrigger]
          have hleads : Leads catalog canvas path (some e) b :=
            .intro hfound (by simpa using htrigger) (by simpa using hseen)
          simp only [← hid]
          cases hway : branching? b.type with
          | some way => exact .branches hleads hway
          | none => exact .goesOn hleads hway

/-- A walk that is blocked takes no steps. -/
theorem onward_of_blocked
    (h : Blocked catalog canvas path entry) :
    onward catalog canvas path entry = [] := by
  have hturn := onward_turn catalog canvas path entry
  generalize onward catalog canvas path entry = steps at hturn ⊢
  cases hturn with
  | ends _ => rfl
  | branches hleads _ => exact absurd h hleads.not_blocked
  | goesOn hleads _ => exact absurd h hleads.not_blocked

/-- A walk that comes to a branching block ends there, with an arm for each entry. -/
theorem onward_of_branching
    {b : Block}
    {way : Branching}
    (h : Leads catalog canvas path entry b)
    (hway : branching? b.type = some way) :
    onward catalog canvas path entry =
      [.mk b ((entries canvas b way).map fun p =>
        (p.1, onward catalog canvas (b.id :: path) p.2))] := by
  have hturn := onward_turn catalog canvas path entry
  generalize onward catalog canvas path entry = steps at hturn ⊢
  cases hturn with
  | ends hblocked => exact absurd hblocked h.not_blocked
  | branches hleads hway' =>
      obtain rfl := h.unique hleads
      obtain rfl := Option.some.inj (hway.symm.trans hway')
      rfl
  | goesOn hleads hway' =>
      obtain rfl := h.unique hleads
      rw [hway] at hway'
      cases hway'

/-- A walk that comes to any other block goes on along its first connection. -/
theorem onward_of_plain
    {b : Block}
    (h : Leads catalog canvas path entry b)
    (hway : branching? b.type = none) :
    onward catalog canvas path entry =
      .plain b :: onward catalog canvas (b.id :: path) (canvas.outgoing b.id).head? := by
  have hturn := onward_turn catalog canvas path entry
  generalize onward catalog canvas path entry = steps at hturn ⊢
  cases hturn with
  | ends hblocked => exact absurd hblocked h.not_blocked
  | branches hleads hway' =>
      obtain rfl := h.unique hleads
      rw [hway] at hway'
      cases hway'
  | goesOn hleads _ =>
      obtain rfl := h.unique hleads
      rfl

/-- What holds where a walk ends, and of a turn if it holds of all walks behind it, holds of every
walk. -/
theorem onward_induction
    (catalog : Catalog)
    (canvas : Canvas)
    {motive : List String → Option Connection → List Step → Prop}
    (ends : ∀ path entry, Blocked catalog canvas path entry → motive path entry [])
    (branches : ∀ path entry b way, Leads catalog canvas path entry b →
      branching? b.type = some way →
      (∀ next, motive (b.id :: path) next (onward catalog canvas (b.id :: path) next)) →
      motive path entry
        [.mk b ((entries canvas b way).map fun p =>
          (p.1, onward catalog canvas (b.id :: path) p.2))])
    (goesOn : ∀ path entry b, Leads catalog canvas path entry b →
      branching? b.type = none →
      (∀ next, motive (b.id :: path) next (onward catalog canvas (b.id :: path) next)) →
      motive path entry
        (.plain b :: onward catalog canvas (b.id :: path) (canvas.outgoing b.id).head?))
    (path : List String)
    (entry : Option Connection) :
    motive path entry (onward catalog canvas path entry) := by
  obtain ⟨n, hn⟩ : ∃ n, (canvas.fresh path).length = n := ⟨_, rfl⟩
  induction n using Nat.strongRecOn generalizing path entry with
  | ind n ih =>
      have hgo : ∀ b, Leads catalog canvas path entry b → ∀ next,
          motive (b.id :: path) next (onward catalog canvas (b.id :: path) next) :=
        fun b hleads next => ih _ (hn ▸ hleads.length_fresh_lt) _ next rfl
      have hturn := onward_turn catalog canvas path entry
      generalize onward catalog canvas path entry = steps at hturn
      cases hturn with
      | ends hblocked => exact ends path entry hblocked
      | branches hleads hway => exact branches path entry _ _ hleads hway (hgo _ hleads)
      | goesOn hleads hway => exact goesOn path entry _ hleads hway (hgo _ hleads)

/-! ## Stretches -/

/-- The connection that enters an arm of a branching block: for yes and for no, the first one from
one of the handles of the arm; for a body, the first one from any handle. -/
def armEntry (canvas : Canvas) (b : Block) (name : String) : Option Connection :=
  if name = "true" then
    (canvas.outgoing b.id).find? fun e =>
      e.sourceHandle ∈ [none, some "true", some "then", some "yes", some "output_0"]
  else if name = "false" then
    (canvas.outgoing b.id).find? fun e =>
      e.sourceHandle ∈ [some "false", some "else", some "no", some "output_1"]
  else (canvas.outgoing b.id).head?

/-- The arms that the walk makes of a branching block are entered by their connections. -/
theorem eq_armEntry_of_mem_entries
    {b : Block}
    {way : Branching}
    {name : String}
    (h : (name, entry) ∈ entries canvas b way) :
    entry = armEntry canvas b name := by
  have hfirst : ∀ handles handles' : List (Option String), (∀ h, h ∈ handles ↔ h ∈ handles') →
      firstFrom canvas b.id handles =
        (canvas.outgoing b.id).find? fun e => e.sourceHandle ∈ handles' := by
    intro handles handles' hsame
    refine congrArg (fun p => (canvas.outgoing b.id).find? p) (funext fun e => ?_)
    rw [Bool.eq_iff_iff, decide_eq_true_iff, List.contains_iff_mem]
    exact hsame e.sourceHandle
  cases way with
  | recovery =>
      obtain ⟨rfl, rfl⟩ := Prod.mk.inj (List.mem_singleton.1 h)
      rfl
  | choice | gate =>
      simp only [entries, List.mem_cons, List.not_mem_nil, or_false, Prod.mk.injEq] at h
      obtain ⟨rfl, rfl⟩ | ⟨rfl, rfl⟩ := h
      · refine hfirst _ _ fun h => ?_
        simp only [yesHandles, List.mem_cons, List.not_mem_nil, or_false]
        tauto
      · exact hfirst _ _ fun h => Iff.rfl

/-- The connection that enters an arm leaves the branching block. -/
theorem mem_outgoing_of_mem_entries
    {b : Block}
    {way : Branching}
    {name : String}
    {e : Connection}
    (h : (name, some e) ∈ entries canvas b way) :
    e ∈ canvas.outgoing b.id := by
  have hfirst : ∀ handles, some e = firstFrom canvas b.id handles → e ∈ canvas.outgoing b.id :=
    fun handles he => List.mem_of_find?_eq_some he.symm
  cases way with
  | recovery =>
      simp only [entries, List.mem_singleton, Prod.mk.injEq] at h
      exact List.mem_of_head? h.2.symm
  | choice | gate =>
      simp only [entries, List.mem_cons, List.not_mem_nil, or_false, Prod.mk.injEq] at h
      rcases h with ⟨-, h⟩ | ⟨-, h⟩
      · exact hfirst _ h
      · exact hfirst _ h

/-- The arms of a branching block have the names of its way of branching. -/
theorem map_fst_entries
    (canvas : Canvas)
    (b : Block)
    (way : Branching) :
    (entries canvas b way).map Prod.fst = armNames way := by
  cases way <;> rfl

/-- The identifiers behind some steps, the latest first. -/
def trail (before : List String) (steps : List Step) : List String :=
  (steps.map fun s => s.block.id).reverse ++ before

@[simp] theorem trail_nil
    (before : List String) :
    trail before [] = before := rfl

@[simp] theorem trail_cons
    (before : List String)
    (s : Step)
    (steps : List Step) :
    trail before (s :: steps) = trail (s.block.id :: before) steps := by
  simp [trail]

/-- A stretch of a flow: steps in a row, the connection that enters them, and the identifiers before
them from the trigger on, the latest first. -/
structure Stretch where
  before : List String
  entry : Option Connection
  steps : List Step

namespace Stretch

/-- The steps of a trigger, as a stretch: its first connection enters them. -/
def ofTrigger (canvas : Canvas) (t : Block) (steps : List Step) : Stretch :=
  ⟨[t.id], (canvas.outgoing t.id).head?, steps⟩

/-- The stretches inside a stretch: itself, and the arms of the steps of its stretches. -/
inductive PartOf (canvas : Canvas) (whole : Stretch) : Stretch → Prop
  | self : PartOf canvas whole whole
  | arm
      {r : Stretch}
      {init rest steps : List Step}
      {b : Block}
      {arms : List (String × List Step)}
      {name : String} :
      PartOf canvas whole r →
      r.steps = init ++ .mk b arms :: rest →
      (name, steps) ∈ arms →
      PartOf canvas whole ⟨b.id :: trail r.before init, armEntry canvas b name, steps⟩

/-- A stretch that follows the wires. -/
structure FollowsWires (catalog : Catalog) (canvas : Canvas) (r : Stretch) : Prop where
  /-- The first step is where the entry leads. -/
  starts : ∀ s rest, r.steps = s :: rest → Leads catalog canvas r.before r.entry s.block
  /-- A step that another one follows does not branch, and its first connection leads there. -/
  continues : ∀ init s s' rest, r.steps = init ++ s :: s' :: rest →
    branching? s.block.type = none ∧
      Leads catalog canvas (trail r.before (init ++ [s])) (canvas.outgoing s.block.id).head?
        s'.block
  /-- A last step branches, or its first connection leads no further. -/
  ends : ∀ init s, r.steps = init ++ [s] → branching? s.block.type = none →
    Blocked catalog canvas (trail r.before r.steps) (canvas.outgoing s.block.id).head?
  /-- There are no steps only if the entry leads nowhere. -/
  empty : r.steps = [] → Blocked catalog canvas r.before r.entry
  /-- Branching steps have the arms of their type, other steps have none. -/
  arms : ∀ s ∈ r.steps, s.arms.map Prod.fst = (branching? s.block.type).elim [] armNames

variable {before : List String}

/-- No steps follow the wires just if the entry leads nowhere. -/
theorem followsWires_nil_iff :
    FollowsWires catalog canvas ⟨before, entry, []⟩ ↔ Blocked catalog canvas before entry := by
  constructor
  · intro h
    exact h.empty rfl
  · intro h
    constructor <;> simp [h]

/-- A step in front of others follows the wires just if the entry leads there and the others follow
the wires from there on. -/
theorem followsWires_cons_iff
    {s : Step}
    {rest : List Step} :
    FollowsWires catalog canvas ⟨before, entry, s :: rest⟩ ↔
      Leads catalog canvas before entry s.block ∧
        s.arms.map Prod.fst = (branching? s.block.type).elim [] armNames ∧
        (branching? s.block.type ≠ none → rest = []) ∧
        (branching? s.block.type = none → FollowsWires catalog canvas
          ⟨s.block.id :: before, (canvas.outgoing s.block.id).head?, rest⟩) := by
  constructor
  · intro h
    refine ⟨h.starts s rest rfl, h.arms s List.mem_cons_self, ?_, fun hway => ⟨?_, ?_, ?_, ?_, ?_⟩⟩
    · intro hway
      cases rest with
      | nil => rfl
      | cons s' rest => exact absurd (h.continues [] s s' rest rfl).1 hway
    · rintro s' rest' rfl
      exact (h.continues [] s s' rest' rfl).2
    · rintro init s₁ s₂ rest' rfl
      simpa using h.continues (s :: init) s₁ s₂ rest' rfl
    · rintro init s' rfl
      simpa using h.ends (s :: init) s' rfl
    · rintro rfl
      simpa using h.ends [] s rfl hway
    · intro s' hs'
      exact h.arms s' (List.mem_cons_of_mem _ hs')
  · rintro ⟨hleads, harms, hlast, hrest⟩
    refine ⟨?_, ?_, ?_, nofun, ?_⟩
    · rintro s' rest' heq
      obtain ⟨rfl, rfl⟩ := List.cons.inj heq
      exact hleads
    · rintro init s₁ s₂ rest' heq
      have hway : branching? s.block.type = none := by
        by_contra hne
        have hlength := congrArg List.length heq
        rw [hlast hne] at hlength
        simp at hlength
        omega
      cases init with
      | nil =>
          obtain ⟨rfl, rfl⟩ := List.cons.inj heq
          exact ⟨hway, (hrest hway).starts s₂ rest' rfl⟩
      | cons s₀ init =>
          obtain ⟨rfl, rfl⟩ := List.cons.inj heq
          simpa using (hrest hway).continues init s₁ s₂ rest' rfl
    · rintro init s' heq hway'
      cases init with
      | nil =>
          obtain ⟨rfl, rfl⟩ := List.cons.inj heq
          exact (hrest hway').empty rfl
      | cons s₀ init =>
          obtain ⟨rfl, rfl⟩ := List.cons.inj heq
          have hway : branching? s.block.type = none := by
            by_contra hne
            simpa using hlast hne
          simpa using (hrest hway).ends init s' rfl hway'
    · rintro s' (_ | ⟨_, hs'⟩)
      · exact harms
      · have hway : branching? s.block.type = none := by
          by_contra hne
          rw [hlast hne] at hs'
          cases hs'
        exact (hrest hway).arms s' hs'

namespace PartOf

variable {whole part r : Stretch}

/-- A stretch inside a part is inside the whole. -/
theorem trans
    (hpart : PartOf canvas whole part)
    (h : PartOf canvas part r) :
    PartOf canvas whole r := by
  induction h with
  | self => exact hpart
  | arm _ hsteps harm ih => exact .arm ih hsteps harm

/-- A stretch inside what is behind the first step is that itself, or inside the whole. -/
theorem behind
    {s : Step}
    {rest : List Step}
    {next : Option Connection}
    (h : PartOf canvas ⟨s.block.id :: before, next, rest⟩ r) :
    r = ⟨s.block.id :: before, next, rest⟩ ∨ PartOf canvas ⟨before, entry, s :: rest⟩ r := by
  induction h with
  | self => exact .inl rfl
  | @arm r init rest' steps b arms name _ hsteps harm ih =>
      right
      obtain rfl | ih := ih
      · simp only at hsteps
        subst hsteps
        have hwhole : s :: (init ++ .mk b arms :: rest') = s :: init ++ .mk b arms :: rest' := rfl
        have hpart : PartOf canvas ⟨before, entry, s :: (init ++ .mk b arms :: rest')⟩ _ :=
          .arm .self hwhole harm
        rwa [trail_cons] at hpart
      · exact .arm ih hsteps harm

end PartOf

/-! ## Walks follow the wires -/

/-- The steps behind a connection follow the wires. -/
theorem followsWires_onward
    (before : List String)
    (entry : Option Connection) :
    FollowsWires catalog canvas ⟨before, entry, onward catalog canvas before entry⟩ := by
  induction before, entry using onward_induction catalog canvas with
  | ends before entry hblocked => exact followsWires_nil_iff.2 hblocked
  | branches before entry b way hleads hway _ =>
      refine followsWires_cons_iff.2 ⟨hleads, ?_, fun _ => rfl, fun hnone => ?_⟩
      · rw [show branching? (Step.block (.mk b _)).type = some way from hway, Option.elim_some,
          ← map_fst_entries canvas b way]
        exact List.map_map
      · rw [show branching? (Step.block (.mk b _)).type = some way from hway] at hnone
        cases hnone
  | goesOn before entry b hleads hway ih =>
      refine followsWires_cons_iff.2 ⟨hleads, ?_, fun hne => absurd hway hne, fun _ => ih _⟩
      rw [show branching? (Step.plain b).block.type = none from hway]
      rfl

/-- What stands behind some steps of a walk is a walk that begins at its own first block. -/
theorem exists_onward_of_append
    {init rest : List Step}
    {s : Step}
    (h : onward catalog canvas before entry = init ++ s :: rest) :
    ∃ e, e.target = s.block.id ∧
      onward catalog canvas (trail before init) (some e) = s :: rest := by
  induction init generalizing before entry with
  | nil =>
      have hturn := onward_turn catalog canvas before entry
      rw [h] at hturn
      obtain ⟨e, rfl, htarget⟩ : ∃ e, entry = some e ∧ e.target = s.block.id := by
        cases hturn with
        | branches hleads _ => exact hleads.exists_target
        | goesOn hleads _ => exact hleads.exists_target
      exact ⟨e, htarget, h⟩
  | cons s₀ init ih =>
      have hturn := onward_turn catalog canvas before entry
      rw [h] at hturn
      rw [trail_cons]
      generalize hsteps : s₀ :: init ++ s :: rest = steps at hturn
      cases hturn with
      | ends _ => cases hsteps
      | branches _ _ => simp at hsteps
      | goesOn _ _ =>
          obtain ⟨rfl, hrest⟩ := List.cons.inj hsteps
          exact ih hrest.symm

/-- Every stretch inside a walk is a walk from its own entry. -/
theorem PartOf.steps_eq
    {r : Stretch}
    (h : PartOf canvas ⟨before, entry, onward catalog canvas before entry⟩ r) :
    r.steps = onward catalog canvas r.before r.entry := by
  induction h with
  | self => rfl
  | @arm r init rest steps b arms name _ hsteps harm ih =>
      obtain ⟨e, -, hwalk⟩ := exists_onward_of_append (ih.symm.trans hsteps)
      have hturn := onward_turn catalog canvas (trail r.before init) (some e)
      rw [hwalk] at hturn
      cases hturn with
      | branches _ _ =>
          obtain ⟨⟨name', entry'⟩, hentry, heq⟩ := List.mem_map.1 harm
          obtain ⟨rfl, rfl⟩ := Prod.mk.inj heq
          rw [eq_armEntry_of_mem_entries hentry]
      | goesOn _ _ => cases harm

/-! ## What follows the wires is a walk -/

/-- Arms with the names of a way of branching are settled by the steps under each name. -/
theorem arms_eq_of_map_fst
    {b : Block}
    {way : Branching}
    {arms : List (String × List Step)}
    {go : Option Connection → List Step}
    (hnames : arms.map Prod.fst = armNames way)
    (hsteps : ∀ name steps, (name, steps) ∈ arms → steps = go (armEntry canvas b name)) :
    arms = (entries canvas b way).map fun p => (p.1, go p.2) := by
  have hown : arms.map (fun p => (p.1, go (armEntry canvas b p.1))) = arms.map id :=
    List.map_congr_left fun p hp => Prod.ext rfl (hsteps p.1 p.2 hp).symm
  calc
    arms = arms.map fun p => (p.1, go (armEntry canvas b p.1)) := by rw [hown, List.map_id]
    _ = (arms.map Prod.fst).map fun name => (name, go (armEntry canvas b name)) := by
      rw [List.map_map]
      rfl
    _ = (entries canvas b way).map fun p => (p.1, go (armEntry canvas b p.1)) := by
      rw [hnames, ← map_fst_entries canvas b way, List.map_map]
      rfl
    _ = (entries canvas b way).map fun p => (p.1, go p.2) :=
      List.map_congr_left fun p hp => by rw [← eq_armEntry_of_mem_entries hp]

/-- Steps all of whose stretches follow the wires are those of a walk. -/
theorem eq_onward_of_followsWires
    {steps : List Step}
    (h : ∀ r, PartOf canvas ⟨before, entry, steps⟩ r → FollowsWires catalog canvas r) :
    steps = onward catalog canvas before entry := by
  induction before, entry using onward_induction catalog canvas
    generalizing steps with
  | ends before entry hblocked =>
      cases steps with
      | nil => rfl
      | cons s rest => exact absurd hblocked ((h _ .self).starts s rest rfl).not_blocked
  | branches before entry b way hleads hway ih =>
      cases steps with
      | nil => exact absurd ((h _ .self).empty rfl) hleads.not_blocked
      | cons s rest =>
          obtain ⟨b', arms⟩ := s
          obtain ⟨hleads', hnames, hlast, -⟩ := followsWires_cons_iff.1 (h _ .self)
          obtain rfl : b' = b := hleads.unique hleads'
          have hway' : branching? (Step.block (.mk b' arms)).type = some way := hway
          rw [hway'] at hnames hlast
          obtain rfl := hlast (Option.some_ne_none way)
          have harms : arms = (entries canvas b' way).map fun p =>
              (p.1, onward catalog canvas (b'.id :: before) p.2) :=
            arms_eq_of_map_fst hnames fun name steps harm => ih _ fun r hr =>
              h r (PartOf.trans (.arm .self (List.nil_append _).symm harm) hr)
          rw [harms]
  | goesOn before entry b hleads hway ih =>
      cases steps with
      | nil => exact absurd ((h _ .self).empty rfl) hleads.not_blocked
      | cons s rest =>
          obtain ⟨b', arms⟩ := s
          obtain ⟨hleads', hnames, -, hrest⟩ := followsWires_cons_iff.1 (h _ .self)
          obtain rfl : b' = b := hleads.unique hleads'
          have hway' : branching? (Step.block (.mk b' arms)).type = none := hway
          rw [hway'] at hnames
          obtain rfl : arms = [] := List.map_eq_nil_iff.1 hnames
          have hbehind : rest = onward catalog canvas (b'.id :: before)
              (canvas.outgoing b'.id).head? := ih _ fun r hr => by
            have hsplit : _ ∨ PartOf canvas ⟨before, entry, .mk b' [] :: rest⟩ r := PartOf.behind hr
            obtain rfl | hr := hsplit
            · exact hrest hway'
            · exact h r hr
          rw [← hbehind]
          rfl

end Stretch

/-- The flow of a trigger along connections is the only one all of whose stretches follow the wires. -/
theorem eq_linearize_iff_followsWires
    (catalog : Catalog)
    (canvas : Canvas)
    (t : Block)
    (flow : List Step) :
    flow = linearize catalog .connections canvas (some t) ↔
      ∀ r, Stretch.PartOf canvas (.ofTrigger canvas t flow) r →
        r.FollowsWires catalog canvas := by
  have hflow : linearize catalog .connections canvas (some t) =
      onward catalog canvas [t.id] (canvas.outgoing t.id).head? := rfl
  rw [hflow]
  constructor
  · rintro rfl r hr
    have hr' := hr.steps_eq
    obtain ⟨before, entry, steps⟩ := r
    simp only at hr'
    rw [hr']
    exact Stretch.followsWires_onward before entry
  · exact fun h => Stretch.eq_onward_of_followsWires h

/-- The blocks of a canvas whose question has several connections on the same side. -/
def doubtingBlocks : List Block :=
  [⟨"start", "event_listener", .finite false 0, .finite false 0, [], "triggers", ""⟩,
   ⟨"question", "if_condition", .finite false 0, .finite false 0, [], "conditions", ""⟩,
   ⟨"agree", "action_reply", .finite false 0, .finite false 0, [], "actions", ""⟩,
   ⟨"refuse", "action_reply", .finite false 0, .finite false 0, [], "actions", ""⟩]

/-- That canvas. Its first answer yes goes back to the question. -/
def doubtingCanvas : Canvas :=
  ⟨doubtingBlocks,
   [⟨"1", "start", "question", none, none⟩, ⟨"2", "question", "refuse", some "else", none⟩,
    ⟨"3", "question", "agree", some "output_0", none⟩, ⟨"4", "question", "refuse", none, none⟩,
    ⟨"5", "agree", "question", none, none⟩]⟩

/-- Its flow follows the wires in both arms, and stops before the question comes again. -/
theorem followsWires_doubtingCanvas :
    ∃ start question agree refuse, doubtingBlocks = [start, question, agree, refuse] ∧
      ∀ r, Stretch.PartOf doubtingCanvas (.ofTrigger doubtingCanvas start
          [.mk question [("true", [.plain agree]), ("false", [.plain refuse])]]) r →
        r.FollowsWires ⟨[]⟩ doubtingCanvas := by
  refine ⟨_, _, _, _, rfl, ?_⟩
  have hturns : walkWithin ⟨[]⟩ doubtingCanvas 5 ["start"] "question" =
      some (walk ⟨[]⟩ doubtingCanvas ["start"] "question") :=
    walkWithin_eq_some (by decide)
  have hflow := Option.some.inj (hturns.symm.trans
    (show _ = some [.mk _ [("true", [.plain _]), ("false", [.plain _])]] from rfl))
  exact (eq_linearize_iff_followsWires ⟨[]⟩ doubtingCanvas _ _).1 hflow.symm

end BotCanvas.Flow
