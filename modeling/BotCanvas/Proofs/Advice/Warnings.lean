import BotCanvas.Advice.Rules
import BotCanvas.Proofs.Flow.Wires

/-!
# Warnings about blocks and triggers without connections

Two rules look at connections only: a block that is no trigger and that no connection arrives at is
orphaned, and a trigger that no connection leaves is a dead end. Flows along connections bear them
out. A walk stands on a block only if it starts there or a connection leads there
(`isTarget_of_mem_walk`), so an orphaned block is in no flow at any depth, and a dead end has neither
steps nor subcommands.
-/

namespace BotCanvas

namespace Canvas

/-- An identifier that a connection arrives at. -/
def IsTarget (c : Canvas) (id : String) : Prop :=
  ∃ e ∈ c.connections, e.target = id

/-- An identifier that a connection leaves. -/
def IsSource (c : Canvas) (id : String) : Prop :=
  ∃ e ∈ c.connections, e.source = id

/-- Connections that leave a block arrive somewhere. -/
theorem isTarget_of_mem_outgoing
    {c : Canvas}
    {id : String}
    {e : Connection}
    (h : e ∈ c.outgoing id) :
    c.IsTarget e.target :=
  ⟨e, (mem_outgoing.1 h).1, rfl⟩

/-- Nothing leaves what is no source. -/
theorem outgoing_eq_nil
    {c : Canvas}
    {id : String}
    (h : ¬c.IsSource id) :
    c.outgoing id = [] := by
  rw [List.eq_nil_iff_forall_not_mem]
  intro e he
  obtain ⟨hmem, hsource⟩ := mem_outgoing.1 he
  exact h ⟨e, hmem, hsource⟩

end Canvas

namespace Flow

variable {catalog : Catalog}
variable {canvas : Canvas}

/-- A block is in arms if it is in one of them. -/
theorem mem_armBlocks
    {b : Block}
    {arms : List (String × List Step)} :
    b ∈ armBlocks arms ↔ ∃ arm ∈ arms, b ∈ blocks arm.2 := by
  induction arms with
  | nil => simp [armBlocks]
  | cons arm rest ih =>
      obtain ⟨name, steps⟩ := arm
      simp [armBlocks, ih]

/-- What follows a connection of a block, or nothing, keeps to targets if every walk from a target
does. -/
theorem isTarget_of_mem_follow
    {go : String → List Step}
    (hgo : ∀ id, canvas.IsTarget id → ∀ x ∈ blocks (go id), canvas.IsTarget x.id)
    {b : Block} :
    ∀ {entry : Option Connection}, (∀ e, entry = some e → e ∈ canvas.outgoing b.id) →
      ∀ x ∈ blocks (match entry with
        | none => []
        | some e => go e.target), canvas.IsTarget x.id
  | none, _, x, hx => by simp [blocks] at hx
  | some e, hentry, x, hx => hgo _ (Canvas.isTarget_of_mem_outgoing (hentry e rfl)) x hx

/-- A walk from a target of a connection visits targets only, at every depth. -/
theorem isTarget_of_mem_walk
    {path : List String}
    {start : String}
    (hstart : canvas.IsTarget start) :
    ∀ b ∈ blocks (walk catalog canvas path start), canvas.IsTarget b.id := by
  -- fewer identifiers are left at every turn of the walk
  obtain ⟨n, hn⟩ : ∃ n, (canvas.fresh path).length = n := ⟨_, rfl⟩
  induction n using Nat.strongRecOn generalizing path start with
  | ind n ih =>
      cases hfound : canvas.block? start with
      | none =>
          rw [walk_of_none hfound]
          simp [blocks]
      | some b =>
          obtain ⟨-, hid⟩ := Canvas.mem_and_id_of_block? hfound
          have htarget : canvas.IsTarget b.id := hid ▸ hstart
          rw [walk_of_some hfound]
          by_cases hseen : path.contains start = true
          · rw [if_pos hseen]
            simp [blocks]
          rw [if_neg hseen]
          by_cases htrigger : isTrigger catalog b = true
          · rw [if_pos htrigger]
            simp [blocks]
          rw [if_neg htrigger]
          have hless := Canvas.length_fresh_cons_lt hfound (by simpa using hseen)
          have hgo : ∀ id, canvas.IsTarget id →
              ∀ x ∈ blocks (walk catalog canvas (start :: path) id), canvas.IsTarget x.id :=
            fun id h => ih _ (by omega) h rfl
          cases branching? b.type with
          | some way =>
              simp only [blocks, stepBlocks, List.append_nil, List.mem_cons, mem_armBlocks,
                List.mem_map]
              rintro x (rfl | ⟨_, ⟨⟨name, entry⟩, hentry, rfl⟩, hx⟩)
              · exact htarget
              · refine isTarget_of_mem_follow hgo (b := b) (fun e he => ?_) x hx
                obtain rfl : entry = some e := he
                exact mem_outgoing_of_mem_entries hentry
          | none =>
              simp only [blocks, Step.plain, stepBlocks, armBlocks, List.cons_append,
                List.nil_append, List.mem_cons]
              rintro x (rfl | hx)
              · exact htarget
              · exact isTarget_of_mem_follow hgo (b := b) (fun e he => List.mem_of_head? he) x hx

/-- The flow of a trigger along connections visits targets only, at every depth. -/
theorem isTarget_of_mem_linearize
    {t : Block} :
    ∀ b ∈ blocks (linearize catalog .connections canvas (some t)), canvas.IsTarget b.id :=
  isTarget_of_mem_follow (fun _ h => isTarget_of_mem_walk h) (b := t)
    fun _ he => List.mem_of_head? he

/-- A trigger that no connection leaves has no steps. -/
theorem linearize_eq_nil
    {t : Block}
    (h : ¬canvas.IsSource t.id) :
    linearize catalog .connections canvas (some t) = [] := by
  simp only [linearize, Canvas.outgoing_eq_nil h, List.head?_nil]

/-- A trigger that no connection leaves has no subcommands. -/
theorem subcommands_eq_nil
    {t : Block}
    (h : ¬canvas.IsSource t.id) :
    subcommands canvas t = [] := by
  rw [subcommands, Canvas.outgoing_eq_nil h, List.foldl_nil]

end Flow

namespace Advice

variable {catalog : Catalog}
variable {canvas : Canvas}

/-- A rule reports an identifier if one of its findings names it. -/
def Reports (catalog : Catalog) (canvas : Canvas) (rule id : String) : Prop :=
  ∃ f ∈ analyze catalog canvas, f.rule = rule ∧ id ∈ f.blocks

/-- Besides the first two rules, no rule goes by one of their names. -/
theorem exists_analyze_eq
    (catalog : Catalog)
    (canvas : Canvas) :
    ∃ others, analyze catalog canvas =
        orphanedBlocks catalog canvas ++ (deadEndTriggers catalog canvas ++ others) ∧
      ∀ f ∈ others, f.rule ≠ "orphaned-block" ∧ f.rule ≠ "dead-end-trigger" := by
  refine ⟨selfLoops canvas ++ uncheckedModeration catalog canvas ++ publicReplies canvas ++
    hardcodedChannels canvas ++ heavyDataUsage catalog canvas,
    by simp only [analyze, List.append_assoc], ?_⟩
  intro f hf
  simp only [List.mem_append, selfLoops, publicReplies, hardcodedChannels, List.mem_map] at hf
  rcases hf with (((⟨e, -, rfl⟩ | hf) | ⟨b, -, rfl⟩) | ⟨b, -, rfl⟩) | hf
  · simp
  · simp only [uncheckedModeration] at hf
    split at hf
    · cases hf
    · rw [List.mem_singleton.1 hf]
      simp
  · simp
  · simp
  · simp only [heavyDataUsage] at hf
    split at hf
    · cases hf
    · rw [List.mem_singleton.1 hf]
      simp

/-- Findings made for the blocks that pass a test name the identifiers of these blocks. -/
theorem exists_mem_map_filter_iff
    {p : Block → Bool}
    {finding : Block → Finding}
    (hblocks : ∀ b, (finding b).blocks = [b.id])
    {id : String} :
    (∃ f ∈ (canvas.blocks.filter p).map finding, id ∈ f.blocks) ↔
      ∃ b ∈ canvas.blocks, b.id = id ∧ p b = true := by
  constructor
  · rintro ⟨f, hf, hid⟩
    obtain ⟨b, hb, rfl⟩ := List.mem_map.1 hf
    obtain ⟨hmem, hp⟩ := List.mem_filter.1 hb
    rw [hblocks, List.mem_singleton] at hid
    exact ⟨b, hmem, hid.symm, hp⟩
  · rintro ⟨b, hmem, rfl, hp⟩
    refine ⟨finding b, List.mem_map_of_mem (List.mem_filter.2 ⟨hmem, hp⟩), ?_⟩
    rw [hblocks]
    exact List.mem_singleton_self _

/-- What is reported as orphaned names a block that is no trigger and that no connection arrives
at. -/
theorem reports_orphaned_iff
    {id : String} :
    Reports catalog canvas "orphaned-block" id ↔
      (∃ b ∈ canvas.blocks, b.id = id ∧ Flow.isTrigger catalog b = false) ∧
        ¬canvas.IsTarget id := by
  obtain ⟨others, hanalyze, hothers⟩ := exists_analyze_eq catalog canvas
  have hrule : Reports catalog canvas "orphaned-block" id ↔
      ∃ f ∈ orphanedBlocks catalog canvas, id ∈ f.blocks := by
    simp only [Reports, hanalyze, List.mem_append]
    constructor
    · rintro ⟨f, hf | hf | hf, hrule, hid⟩
      · exact ⟨f, hf, hid⟩
      · obtain ⟨b, -, rfl⟩ := List.mem_map.1 hf
        simp at hrule
      · exact absurd hrule (hothers f hf).1
    · rintro ⟨f, hf, hid⟩
      obtain ⟨b, -, rfl⟩ := List.mem_map.1 hf
      exact ⟨_, .inl hf, rfl, hid⟩
  rw [hrule, orphanedBlocks, exists_mem_map_filter_iff fun _ => rfl]
  simp only [Bool.and_eq_true, Bool.not_eq_true', List.any_eq_false, beq_iff_eq, Canvas.IsTarget]
  constructor
  · rintro ⟨b, hmem, rfl, htrigger, hnone⟩
    exact ⟨⟨b, hmem, rfl, htrigger⟩, fun ⟨e, he, htarget⟩ => hnone e he htarget⟩
  · rintro ⟨⟨b, hmem, rfl, htrigger⟩, hnone⟩
    exact ⟨b, hmem, rfl, htrigger, fun e he htarget => hnone ⟨e, he, htarget⟩⟩

/-- What is reported as a dead end names a trigger that no connection leaves. -/
theorem reports_deadEnd_iff
    {id : String} :
    Reports catalog canvas "dead-end-trigger" id ↔
      (∃ b ∈ canvas.blocks, b.id = id ∧ Flow.isTrigger catalog b = true) ∧
        ¬canvas.IsSource id := by
  obtain ⟨others, hanalyze, hothers⟩ := exists_analyze_eq catalog canvas
  have hrule : Reports catalog canvas "dead-end-trigger" id ↔
      ∃ f ∈ deadEndTriggers catalog canvas, id ∈ f.blocks := by
    simp only [Reports, hanalyze, List.mem_append]
    constructor
    · rintro ⟨f, hf | hf | hf, hrule, hid⟩
      · obtain ⟨b, -, rfl⟩ := List.mem_map.1 hf
        simp at hrule
      · exact ⟨f, hf, hid⟩
      · exact absurd hrule (hothers f hf).2
    · rintro ⟨f, hf, hid⟩
      obtain ⟨b, -, rfl⟩ := List.mem_map.1 hf
      exact ⟨_, .inr (.inl hf), rfl, hid⟩
  rw [hrule, deadEndTriggers, exists_mem_map_filter_iff fun _ => rfl]
  simp only [Bool.and_eq_true, Bool.not_eq_true', List.any_eq_false, beq_iff_eq, Canvas.IsSource]
  constructor
  · rintro ⟨b, hmem, rfl, htrigger, hnone⟩
    exact ⟨⟨b, hmem, rfl, htrigger⟩, fun ⟨e, he, hsource⟩ => hnone e he hsource⟩
  · rintro ⟨⟨b, hmem, rfl, htrigger⟩, hnone⟩
    exact ⟨b, hmem, rfl, htrigger, fun e he hsource => hnone ⟨e, he, hsource⟩⟩

/-- A block that is reported as orphaned is at no depth of a flow along connections, and a trigger
that is reported as a dead end has neither steps nor subcommands. -/
theorem warnings_borne_out
    (catalog : Catalog)
    (canvas : Canvas) :
    (∀ id, Reports catalog canvas "orphaned-block" id →
      ∀ start, ∀ b ∈ Flow.blocks (Flow.linearize catalog .connections canvas (some start)),
        b.id ≠ id) ∧
    ∀ id, Reports catalog canvas "dead-end-trigger" id →
      ∀ t : Block, t.id = id →
        Flow.linearize catalog .connections canvas (some t) = [] ∧
          Flow.subcommands canvas t = [] := by
  constructor
  · rintro id hreported start b hb rfl
    exact (reports_orphaned_iff.1 hreported).2 (Flow.isTarget_of_mem_linearize b hb)
  · rintro id hreported t rfl
    have hsource := (reports_deadEnd_iff.1 hreported).2
    exact ⟨Flow.linearize_eq_nil hsource, Flow.subcommands_eq_nil hsource⟩

/-- A canvas with a block that nothing leads to and a trigger that leads nowhere, beside a trigger
that has a reply. -/
def idleBlocks : List Block :=
  [⟨"start", "event_listener", .finite false 0, .finite false 0, [], "triggers", ""⟩,
   ⟨"idle", "event_listener", .finite false 0, .finite false 0, [], "triggers", ""⟩,
   ⟨"reply", "action_reply", .finite false 0, .finite false 0, [], "actions", ""⟩,
   ⟨"floating", "action_reply", .finite false 0, .finite false 0, [], "actions", ""⟩]

/-- That canvas. -/
def idleCanvas : Canvas :=
  ⟨idleBlocks, [⟨"1", "start", "reply", none, none⟩]⟩

/-- Both are reported. The first is not in the flow that there is, the second has none. -/
theorem warnings_borne_out_idleCanvas :
    ∃ start idle reply floating, idleBlocks = [start, idle, reply, floating] ∧
      Reports ⟨[]⟩ idleCanvas "orphaned-block" floating.id ∧
      Flow.blocks (Flow.linearize ⟨[]⟩ .connections idleCanvas (some start)) = [reply] ∧
      reply.id ≠ floating.id ∧
      Reports ⟨[]⟩ idleCanvas "dead-end-trigger" idle.id ∧
      Flow.linearize ⟨[]⟩ .connections idleCanvas (some idle) = [] ∧
      Flow.subcommands idleCanvas idle = [] := by
  refine ⟨_, _, _, _, rfl, ?_⟩
  obtain ⟨horphaned, hidle⟩ := warnings_borne_out ⟨[]⟩ idleCanvas
  have hfloating : Reports ⟨[]⟩ idleCanvas "orphaned-block" "floating" :=
    reports_orphaned_iff.2 ⟨⟨_, List.getLast_mem (by decide), rfl, by decide⟩,
      by simp [Canvas.IsTarget, idleCanvas]⟩
  have hdead : Reports ⟨[]⟩ idleCanvas "dead-end-trigger" "idle" :=
    reports_deadEnd_iff.2 ⟨⟨_, List.mem_cons_of_mem _ List.mem_cons_self, rfl, by decide⟩,
      by simp [Canvas.IsSource, idleCanvas]⟩
  have hwalk : Flow.walk ⟨[]⟩ idleCanvas ["start"] "reply" = [.plain _] :=
    Option.some.inj ((Flow.walkWithin_eq_some (by decide)).symm.trans
      (show Flow.walkWithin ⟨[]⟩ idleCanvas 5 ["start"] "reply" = some [.plain _] from rfl))
  have hflow : Flow.blocks (Flow.linearize ⟨[]⟩ .connections idleCanvas
      (some (idleBlocks.head (by decide)))) = [idleBlocks[2]] := congrArg Flow.blocks hwalk
  have hreply : idleBlocks[2].id ≠ "floating" :=
    horphaned _ hfloating _ _ (by rw [hflow]; exact List.mem_cons_self)
  exact ⟨hfloating, hflow, hreply, hdead, hidle _ hdead _ rfl⟩

end Advice

end BotCanvas
