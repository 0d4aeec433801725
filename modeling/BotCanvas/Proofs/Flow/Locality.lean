import BotCanvas.Proofs.Flow.Wires
import Mathlib.Logic.Relation

/-!
# What a walk depends on

A walk along connections depends on what it can come to and on nothing else: on the blocks and the
connections of the places that it can reach, and, of the path before it, on the part of it that it
can reach. So two canvases that agree on places that no connection leads out of have the same walks
there (`onward_eq_of_agreeOn`), although the walks may have come there on different paths.

Hence what a trigger cannot reach has no influence on its flow, and arms that come to the same
block go on alike if nothing behind it leads back to the path of one of them.
-/

namespace BotCanvas

namespace Canvas

/-- A place that connections lead to from another one, in any number of steps. -/
def Reaches (c : Canvas) : String → String → Prop :=
  Relation.ReflTransGen fun a b => ∃ e ∈ c.outgoing a, e.target = b

/-- Canvases that agree on a set of places: no connection leads out of it, and the same blocks and
connections are found there. -/
structure AgreeOn (S : Set String) (c c' : Canvas) : Prop where
  closed : ∀ id ∈ S, ∀ e ∈ c.outgoing id, e.target ∈ S
  block? : ∀ id ∈ S, c.block? id = c'.block? id
  outgoing : ∀ id ∈ S, c.outgoing id = c'.outgoing id

/-- Canvases that agree on every place of a list from which no connection leads. -/
theorem agreeOn_of_mem
    {c c' : Canvas}
    {ids : List String}
    (closed : ∀ id ∈ ids, ∀ e ∈ c.outgoing id, e.target ∈ ids)
    (found : ∀ id ∈ ids, c.block? id = c'.block? id)
    (outgoing : ∀ id ∈ ids, c.outgoing id = c'.outgoing id) :
    AgreeOn {id | id ∈ ids} c c' :=
  ⟨closed, found, outgoing⟩

/-- No connection leads out of what can be reached. -/
theorem agreeOn_of_reaches
    {c c' : Canvas}
    {start : String}
    (h : ∀ id, c.Reaches start id → c.block? id = c'.block? id ∧ c.outgoing id = c'.outgoing id) :
    AgreeOn {id | c.Reaches start id} c c' where
  closed _ hid e he := hid.tail ⟨e, he, rfl⟩
  block? id hid := (h id hid).1
  outgoing id hid := (h id hid).2

end Canvas

namespace Flow

variable {catalog : Catalog}
variable {c c' : Canvas}
variable {S : Set String}
variable {path path' : List String}
variable {entry : Option Connection}
variable {b : Block}

/-- Where a connection leads, it leads on a canvas that agrees, from a path that agrees. -/
theorem Leads.of_agreeOn
    (hc : Canvas.AgreeOn S c c')
    (hpath : ∀ id ∈ S, id ∈ path ↔ id ∈ path')
    (hentry : ∀ e ∈ entry, e.target ∈ S)
    (h : Leads catalog c path entry b) :
    Leads catalog c' path' entry b := by
  obtain ⟨hfound, htrigger, hfresh⟩ := h
  have htarget := hentry _ rfl
  rw [hc.block? _ htarget] at hfound
  rw [hpath _ htarget] at hfresh
  exact .intro hfound htrigger hfresh

/-- What blocks a connection blocks it on a canvas that agrees, on a path that agrees. -/
theorem Blocked.of_agreeOn
    (hc : Canvas.AgreeOn S c c')
    (hpath : ∀ id ∈ S, id ∈ path ↔ id ∈ path')
    (hentry : ∀ e ∈ entry, e.target ∈ S)
    (h : Blocked catalog c path entry) :
    Blocked catalog c' path' entry := by
  cases h with
  | unwired => exact .unwired
  | missing hmissing =>
      rw [hc.block? _ (hentry _ rfl)] at hmissing
      exact .missing hmissing
  | trigger hfound htrigger =>
      rw [hc.block? _ (hentry _ rfl)] at hfound
      exact .trigger hfound htrigger
  | visited hvisited => exact .visited ((hpath _ (hentry _ rfl)).1 hvisited)

/-- The arms of a block begin alike where the same connections leave it. -/
theorem entries_congr
    (h : c.outgoing b.id = c'.outgoing b.id)
    (way : Branching) :
    entries c b way = entries c' b way := by
  cases way <;> simp only [entries, firstFrom, h]

/-- Walks from a place of a set are the same on canvases that agree on the set, behind paths that
hold the same places of it. -/
theorem onward_eq_of_agreeOn
    (hc : Canvas.AgreeOn S c c')
    (hpath : ∀ id ∈ S, id ∈ path ↔ id ∈ path')
    (hentry : ∀ e ∈ entry, e.target ∈ S) :
    onward catalog c path entry = onward catalog c' path' entry := by
  induction path, entry using onward_induction catalog c
    generalizing path' with
  | ends path entry hblocked =>
      rw [onward_of_blocked (hblocked.of_agreeOn hc hpath hentry)]
  | branches path entry b way hleads hway ih =>
      obtain ⟨e, rfl, htarget⟩ := hleads.exists_target
      have hid : b.id ∈ S := htarget ▸ hentry e rfl
      rw [onward_of_branching (hleads.of_agreeOn hc hpath hentry) hway,
        ← entries_congr (hc.outgoing _ hid)]
      refine congrArg (fun arms => [Step.mk b arms]) (List.map_congr_left fun p hp => ?_)
      refine congrArg (Prod.mk p.1) (ih p.2 ?_ ?_)
      · exact fun id hmem => by rw [List.mem_cons, List.mem_cons, hpath id hmem]
      · rintro e' he'
        have harm : (p.1, some e') ∈ entries c b way := by rwa [← he']
        exact hc.closed _ hid e' (mem_outgoing_of_mem_entries harm)
  | goesOn path entry b hleads hway ih =>
      obtain ⟨e, rfl, htarget⟩ := hleads.exists_target
      have hid : b.id ∈ S := htarget ▸ hentry e rfl
      rw [onward_of_plain (hleads.of_agreeOn hc hpath hentry) hway, ← hc.outgoing _ hid]
      refine congrArg (Step.plain b :: ·) (ih _ ?_ ?_)
      · exact fun id hmem => by rw [List.mem_cons, List.mem_cons, hpath id hmem]
      · exact fun e' he' => hc.closed _ hid e' (List.mem_of_head? he')

/-- The same of the walk itself. -/
theorem walk_eq_of_agreeOn
    (hc : Canvas.AgreeOn S c c')
    (hpath : ∀ id ∈ S, id ∈ path ↔ id ∈ path')
    {start : String}
    (hstart : start ∈ S) :
    walk catalog c path start = walk catalog c' path' start := by
  have hentry : ∀ e ∈ (some ⟨"", "", start, none, none⟩ : Option Connection), e.target ∈ S :=
    fun _ he => Option.some.inj he ▸ hstart
  exact onward_eq_of_agreeOn hc hpath hentry

/-- The flow of a trigger is the same on canvases that agree on a set of places with the trigger. -/
theorem linearize_eq_of_agreeOn
    (hc : Canvas.AgreeOn S c c')
    {t : Block}
    (ht : t.id ∈ S) :
    linearize catalog .connections c (some t) = linearize catalog .connections c' (some t) := by
  have hflow : ∀ c : Canvas, linearize catalog .connections c (some t) =
      onward catalog c [t.id] (c.outgoing t.id).head? := fun _ => rfl
  rw [hflow, hflow, ← hc.outgoing _ ht]
  exact onward_eq_of_agreeOn hc (fun _ _ => Iff.rfl)
    fun e he => hc.closed _ ht e (List.mem_of_head? he)

/-- Where two stretches of a flow come to the same block, they go on alike if nothing that the block
reaches is on the path of one of them. -/
theorem eq_of_rejoined
    {t : Block}
    {r r' : Stretch}
    (hr : Stretch.PartOf c (.ofTrigger c t (linearize catalog .connections c (some t))) r)
    (hr' : Stretch.PartOf c (.ofTrigger c t (linearize catalog .connections c (some t))) r')
    {init init' rest rest' : List Step}
    {s s' : Step}
    (hsteps : r.steps = init ++ s :: rest)
    (hsteps' : r'.steps = init' ++ s' :: rest')
    (hsame : s'.block.id = s.block.id)
    (hfree : ∀ id, c.Reaches s.block.id id →
      id ∉ trail r.before init ∧ id ∉ trail r'.before init') :
    s :: rest = s' :: rest' := by
  obtain ⟨e, he, hwalk⟩ := Stretch.exists_onward_of_append (hr.steps_eq.symm.trans hsteps)
  obtain ⟨e', he', hwalk'⟩ := Stretch.exists_onward_of_append (hr'.steps_eq.symm.trans hsteps')
  have hstart : c.Reaches s.block.id s.block.id := Relation.ReflTransGen.refl
  rw [← hwalk, ← hwalk', onward, onward, he, he', hsame]
  refine walk_eq_of_agreeOn (Canvas.agreeOn_of_reaches fun _ _ => ⟨rfl, rfl⟩) ?_ hstart
  intro id hid
  exact iff_of_false (hfree id hid).1 (hfree id hid).2

/-- Walks along connections are local. On canvases that agree on a set of places, triggers there have
the same flows, and walks from there are the same behind paths with the same places of the set. So
what a trigger cannot reach has no influence on its flow, and stretches that come to the same block
end alike if nothing that the block reaches is on the path of one of them. -/
theorem linearize_local
    (catalog : Catalog)
    (c c' : Canvas) :
    (∀ S, Canvas.AgreeOn S c c' →
      (∀ t : Block, t.id ∈ S → linearize catalog .connections c (some t) =
        linearize catalog .connections c' (some t)) ∧
      ∀ start ∈ S, ∀ path path' : List String, (∀ id ∈ S, id ∈ path ↔ id ∈ path') →
        walk catalog c path start = walk catalog c' path' start) ∧
    (∀ t : Block,
      (∀ id, c.Reaches t.id id → c.block? id = c'.block? id ∧ c.outgoing id = c'.outgoing id) →
      linearize catalog .connections c (some t) = linearize catalog .connections c' (some t)) ∧
    ∀ (t : Block) (r r' : Stretch),
      Stretch.PartOf c (.ofTrigger c t (linearize catalog .connections c (some t))) r →
      Stretch.PartOf c (.ofTrigger c t (linearize catalog .connections c (some t))) r' →
      ∀ init init' rest rest' s s', r.steps = init ++ s :: rest → r'.steps = init' ++ s' :: rest' →
        s'.block.id = s.block.id →
        (∀ id, c.Reaches s.block.id id →
          id ∉ trail r.before init ∧ id ∉ trail r'.before init') →
        s :: rest = s' :: rest' := by
  refine ⟨fun S hc => ⟨fun t ht => linearize_eq_of_agreeOn hc ht, ?_⟩, fun t h => ?_, ?_⟩
  · intro start hstart path path' hpath
    exact walk_eq_of_agreeOn hc hpath hstart
  · exact linearize_eq_of_agreeOn (Canvas.agreeOn_of_reaches h) Relation.ReflTransGen.refl
  · intro t r r' hr hr' init init' rest rest' s s' hsteps hsteps' hsame hfree
    exact eq_of_rejoined hr hr' hsteps hsteps' hsame hfree

/-- The blocks of a canvas whose answers come together again, and one that nothing leads to. -/
def partingBlocks : List Block :=
  [⟨"start", "event_listener", .finite false 0, .finite false 0, [], "triggers", ""⟩,
   ⟨"question", "if_condition", .finite false 0, .finite false 0, [], "conditions", ""⟩,
   ⟨"agree", "action_reply", .finite false 0, .finite false 0, [], "actions", ""⟩,
   ⟨"refuse", "action_reply", .finite false 0, .finite false 0, [], "actions", ""⟩,
   ⟨"part", "send_message", .finite false 0, .finite false 0, [], "actions", ""⟩,
   ⟨"stray", "send_message", .finite false 0, .finite false 0, [], "actions", ""⟩]

/-- The connections of the trigger and of what follows it. -/
def partingWires : List Connection :=
  [⟨"1", "start", "question", none, none⟩, ⟨"2", "question", "agree", some "true", none⟩,
   ⟨"3", "question", "refuse", some "false", none⟩, ⟨"4", "agree", "part", none, none⟩,
   ⟨"5", "refuse", "part", none, none⟩]

/-- The canvas with the block that nothing leads to, and a connection from it. -/
def strayCanvas : Canvas :=
  ⟨partingBlocks, partingWires ++ [⟨"6", "stray", "agree", none, none⟩]⟩

/-- The canvas without it. -/
def partingCanvas : Canvas := ⟨partingBlocks.take 5, partingWires⟩

/-- Both canvases have the same flow, both arms of the question end alike, and behind both answers
the walk goes on as behind no answer at all. -/
theorem linearize_local_strayCanvas :
    ∃ start question agree refuse part stray,
      partingBlocks = [start, question, agree, refuse, part, stray] ∧
      linearize ⟨[]⟩ .connections strayCanvas (some start) =
        linearize ⟨[]⟩ .connections partingCanvas (some start) ∧
      walk ⟨[]⟩ strayCanvas ["agree", "question", "start"] "part" =
        walk ⟨[]⟩ partingCanvas [] "part" ∧
      ∀ rest rest',
        linearize ⟨[]⟩ .connections strayCanvas (some start) =
          [.mk question [("true", .plain agree :: .plain part :: rest),
            ("false", .plain refuse :: .plain part :: rest')]] →
        rest = rest' := by
  refine ⟨_, _, _, _, _, _, rfl, ?_⟩
  obtain ⟨hagree, -, hrejoin⟩ := linearize_local ⟨[]⟩ strayCanvas partingCanvas
  have hreached : Canvas.AgreeOn {id | id ∈ ["start", "question", "agree", "refuse", "part"]}
      strayCanvas partingCanvas := by
    refine Canvas.agreeOn_of_mem (by decide) ?_ (by decide)
    simp only [List.forall_mem_cons]
    exact ⟨rfl, rfl, rfl, rfl, rfl, nofun⟩
  have hend : Canvas.AgreeOn {id | id ∈ ["part"]} strayCanvas partingCanvas :=
    Canvas.agreeOn_of_mem (by decide) (List.forall_mem_singleton.2 rfl) (by decide)
  have hpaths : ∀ id ∈ ["part"], id ∈ ["agree", "question", "start"] ↔ id ∈ [] := by decide
  refine ⟨(hagree _ hreached).1 _ List.mem_cons_self,
    (hagree _ hend).2 _ List.mem_cons_self _ _ hpaths, ?_⟩
  intro rest rest' hflow
  have hstay : ∀ id, strayCanvas.Reaches "part" id → id = "part" := by
    intro id hid
    induction hid with
    | refl => rfl
    | tail _ hstep ih =>
        obtain ⟨e, he, -⟩ := hstep
        have hnone : strayCanvas.outgoing "part" = [] := by decide
        rw [ih, hnone] at he
        cases he
  have hsteps := hflow.trans (List.nil_append _).symm
  refine (List.cons.inj (hrejoin (partingBlocks.head (by decide)) _ _
    (.arm .self hsteps List.mem_cons_self)
    (.arm .self hsteps (List.mem_cons_of_mem _ List.mem_cons_self))
    [_] [_] rest rest' _ _ rfl rfl rfl ?_)).2
  intro id hid
  rw [hstay id hid]
  exact ⟨show "part" ∉ ["agree", "question", "start"] by decide,
    show "part" ∉ ["refuse", "question", "start"] by decide⟩

end Flow

end BotCanvas
