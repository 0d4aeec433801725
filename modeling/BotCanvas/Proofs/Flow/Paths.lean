import BotCanvas.Proofs.Flow.Alike
import Mathlib.Data.List.Dedup
import Mathlib.Data.List.Perm.Subperm

/-!
# Paths through a flow

A path through a flow runs its steps in order and takes one arm of every branching step. Whatever
the connections of a canvas are, the walk along them ends, and no path through its flow comes back
to a block.

**Turns.** The walk is a loop, so it is also given as one (`walkWithin`) that is cut off after a
number of turns. As many turns as there are identifiers on the canvas, and one to see that the
walk is over, are enough.

**Invariant.** What is left of a path is simple with respect to the identifiers before it
(`IsSimple`): a turn adds one identifier to those before and one block to the path.
-/

namespace BotCanvas

namespace Canvas

/-- The identifiers of the blocks, each once. -/
def ids (c : Canvas) : List String :=
  (c.blocks.map Block.id).dedup

/-- The identifiers that are not on a path. -/
def fresh (c : Canvas) (path : List String) : List String :=
  c.ids.filter fun id => !path.contains id

/-- A block that is found stands under one of the identifiers. -/
theorem mem_ids_of_block?
    {c : Canvas}
    {id : String}
    {b : Block}
    (h : c.block? id = some b) :
    id ∈ c.ids := by
  obtain ⟨hmem, rfl⟩ := mem_and_id_of_block? h
  exact List.mem_dedup.2 (List.mem_map_of_mem hmem)

/-- Visiting a block leaves fewer identifiers. -/
theorem length_fresh_cons_lt
    {c : Canvas}
    {id : String}
    {b : Block}
    {path : List String}
    (h : c.block? id = some b)
    (hpath : id ∉ path) :
    (c.fresh (id :: path)).length < (c.fresh path).length := by
  have hfilter : c.fresh (id :: path) = (c.fresh path).filter fun x => x != id := by
    simp only [fresh, List.filter_filter]
    apply List.filter_congr
    intro x _
    by_cases hx : x = id
    · simp [hx]
    · simp [hx]
  rw [hfilter]
  apply List.length_filter_lt_length_iff_exists.2
  refine ⟨id, ?_, by simp⟩
  rw [fresh, List.mem_filter]
  exact ⟨mem_ids_of_block? h, by simpa using hpath⟩

end Canvas

namespace Flow

/-! ## The walk as a loop -/

/-- The walk from a block in at most a number of turns, or nothing if they are too few. -/
def walkWithin (catalog : Catalog) (canvas : Canvas) :
    Nat → List String → String → Option (List Step)
  | 0, _, _ => none
  | turns + 1, path, start =>
      match canvas.block? start with
      | none => some []
      | some b =>
          if path.contains start then some []
          else if isTrigger catalog b then some []
          else
            let follow : Option Connection → Option (List Step)
              | none => some []
              | some e => walkWithin catalog canvas turns (start :: path) e.target
            match branching? b.type with
            | some way => do
                let arms ← (entries canvas b way).mapM fun (name, entry) =>
                  return (name, ← follow entry)
                return [.mk b arms]
            | none => return .plain b :: (← follow (canvas.outgoing b.id).head?)

/-- The flow of a trigger along connections, in at most a number of turns for every path. -/
def linearizeWithin (catalog : Catalog) (canvas : Canvas) (t : Block) (turns : Nat) :
    Option (List Step) :=
  match (canvas.outgoing t.id).head? with
  | none => some []
  | some e => walkWithin catalog canvas turns [t.id] e.target

variable {catalog : Catalog}
variable {canvas : Canvas}

/-- More turns than there are identifiers left are enough for the whole walk. -/
theorem walkWithin_eq_some
    {turns : Nat}
    {path : List String}
    {start : String}
    (h : (canvas.fresh path).length < turns) :
    walkWithin catalog canvas turns path start = some (walk catalog canvas path start) := by
  induction turns generalizing path start with
  | zero => omega
  | succ turns ih =>
      cases hfound : canvas.block? start with
      | none =>
          rw [walk_of_none hfound]
          simp only [walkWithin, hfound]
      | some b =>
          rw [walk_of_some hfound]
          simp only [walkWithin, hfound]
          by_cases hseen : path.contains start = true
          · rw [if_pos hseen, if_pos hseen]
          · have hless := Canvas.length_fresh_cons_lt hfound (by simpa using hseen)
            have hgo : ∀ id, walkWithin catalog canvas turns (start :: path) id =
                some (walk catalog canvas (start :: path) id) := by
              intro id
              exact ih (by omega)
            rw [if_neg hseen, if_neg hseen]
            by_cases htrigger : isTrigger catalog b = true
            · rw [if_pos htrigger, if_pos htrigger]
            · rw [if_neg htrigger, if_neg htrigger]
              have hfollow : ∀ entry : Option Connection,
                  (match entry with
                    | none => some []
                    | some e => walkWithin catalog canvas turns (start :: path) e.target) =
                  some (match entry with
                    | none => []
                    | some e => walk catalog canvas (start :: path) e.target) := by
                rintro (_ | e)
                · rfl
                · exact hgo e.target
              simp only [hfollow, Option.bind_eq_bind, Option.bind_some]
              cases branching? b.type with
              | some way =>
                  simp only [List.mapM_pure]
                  rfl
              | none => rfl

/-! ## Paths -/

/-- The paths through a flow: the blocks of its steps in order, and after the block of a branching
step those of a path through one of its arms. -/
inductive IsPath : List Step → List Block → Prop
  | nil : IsPath [] []
  | step
      {b : Block}
      {rest : List Step}
      {path : List Block} :
      IsPath rest path →
      IsPath (.mk b [] :: rest) (b :: path)
  | branch
      {b : Block}
      {arms : List (String × List Step)}
      {arm rest : List Step}
      {name : String}
      {through path : List Block} :
      (name, arm) ∈ arms →
      IsPath arm through →
      IsPath rest path →
      IsPath (.mk b arms :: rest) (b :: (through ++ path))

/-- There is a path through every flow. -/
theorem exists_isPath : ∀ steps : List Step, ∃ path, IsPath steps path
  | [] => ⟨[], .nil⟩
  | .mk b [] :: rest =>
      have ⟨path, hpath⟩ := exists_isPath rest
      ⟨b :: path, .step hpath⟩
  | .mk b ((name, arm) :: arms) :: rest =>
      have ⟨through, hthrough⟩ := exists_isPath arm
      have ⟨path, hpath⟩ := exists_isPath rest
      ⟨b :: (through ++ path), .branch List.mem_cons_self hthrough hpath⟩

namespace IsPath

variable {b : Block}
variable {rest : List Step}
variable {path : List Block}

/-- A path through a step without arms goes on behind it. -/
theorem of_plain
    (h : IsPath (.plain b :: rest) path) :
    ∃ behind, path = b :: behind ∧ IsPath rest behind := by
  cases h with
  | step hrest => exact ⟨_, rfl, hrest⟩
  | branch harm _ _ => exact absurd harm (by simp)

/-- A path through a last step with arms goes through one of them. -/
theorem of_arms
    {arms : List (String × List Step)}
    (harms : arms ≠ [])
    (h : IsPath [.mk b arms] path) :
    ∃ name arm through, path = b :: through ∧ (name, arm) ∈ arms ∧ IsPath arm through := by
  generalize hsteps : [Step.mk b arms] = steps at h
  cases h with
  | nil => cases hsteps
  | step _ =>
      cases hsteps
      exact absurd rfl harms
  | branch harm hthrough hrest =>
      cases hsteps
      cases hrest
      exact ⟨_, _, _, by rw [List.append_nil], harm, hthrough⟩

end IsPath

/-- Blocks that can follow identifiers on a path: each is the block of its identifier and no
trigger, and no identifier comes twice. -/
structure IsSimple (catalog : Catalog) (canvas : Canvas) (before : List String)
    (blocks : List Block) : Prop where
  nodup : (blocks.map Block.id).Nodup
  avoids : ∀ b ∈ blocks, b.id ∉ before
  noTrigger : ∀ b ∈ blocks, isTrigger catalog b = false
  found : ∀ b ∈ blocks, canvas.block? b.id = some b

namespace IsSimple

variable {before : List String}
variable {blocks : List Block}

/-- No blocks can follow any identifiers. -/
theorem nil :
    IsSimple catalog canvas before [] := by
  constructor <;> simp

/-- One turn: a new block that is no trigger can stand before blocks that can follow it. -/
theorem cons
    {start : String}
    {b : Block}
    (hfound : canvas.block? start = some b)
    (hfresh : start ∉ before)
    (htrigger : isTrigger catalog b = false)
    (h : IsSimple catalog canvas (start :: before) blocks) :
    IsSimple catalog canvas before (b :: blocks) := by
  obtain ⟨-, hid⟩ := Canvas.mem_and_id_of_block? hfound
  have havoids : ∀ x ∈ blocks, x.id ≠ b.id ∧ x.id ∉ before := by
    intro x hx
    have hnot := h.avoids x hx
    rw [List.mem_cons, not_or] at hnot
    exact ⟨by rw [hid]; exact hnot.1, hnot.2⟩
  constructor
  · rw [List.map_cons, List.nodup_cons]
    refine ⟨?_, h.nodup⟩
    intro hmem
    obtain ⟨x, hx, hxid⟩ := List.mem_map.1 hmem
    exact (havoids x hx).1 hxid
  · rintro x (_ | ⟨_, hx⟩)
    · rw [hid]
      exact hfresh
    · exact (havoids x hx).2
  · rintro x (_ | ⟨_, hx⟩)
    · exact htrigger
    · exact h.noTrigger x hx
  · rintro x (_ | ⟨_, hx⟩)
    · rw [hid]
      exact hfound
    · exact h.found x hx

/-- There are no more such blocks than identifiers on the canvas. -/
theorem length_le
    (h : IsSimple catalog canvas before blocks) :
    blocks.length ≤ canvas.ids.length := by
  have hsub : blocks.map Block.id ⊆ canvas.ids := by
    intro id hid
    obtain ⟨b, hb, rfl⟩ := List.mem_map.1 hid
    exact Canvas.mem_ids_of_block? (h.found b hb)
  have hle := (List.subperm_of_subset h.nodup hsub).length_le
  rwa [List.length_map] at hle

end IsSimple

/-- A path through what follows a connection, or through nothing. -/
theorem isSimple_follow
    {before : List String}
    (go : String → List Step)
    (hgo : ∀ id blocks, IsPath (go id) blocks → IsSimple catalog canvas before blocks) :
    ∀ {entry : Option Connection} {blocks : List Block},
      IsPath (match entry with
        | none => []
        | some e => go e.target) blocks →
      IsSimple catalog canvas before blocks
  | none, _, .nil => .nil
  | some e, blocks, h => hgo e.target blocks h

/-- Every path through the flow of a walk is simple with respect to the path before it. -/
theorem isSimple_of_isPath_walk
    {before : List String}
    {start : String}
    {blocks : List Block}
    (h : IsPath (walk catalog canvas before start) blocks) :
    IsSimple catalog canvas before blocks := by
  -- as for the walk itself, fewer identifiers are left at every turn
  obtain ⟨n, hn⟩ : ∃ n, (canvas.fresh before).length = n := ⟨_, rfl⟩
  induction n using Nat.strongRecOn generalizing before start blocks with
  | ind n ih =>
      cases hfound : canvas.block? start with
      | none =>
          rw [walk_of_none hfound] at h
          cases h
          exact .nil
      | some b =>
          rw [walk_of_some hfound] at h
          by_cases hseen : before.contains start = true
          · rw [if_pos hseen] at h
            cases h
            exact .nil
          have hfresh : start ∉ before := by simpa using hseen
          have hgo : ∀ id rest, IsPath (walk catalog canvas (start :: before) id) rest →
              IsSimple catalog canvas (start :: before) rest := by
            intro id rest hrest
            have hless := Canvas.length_fresh_cons_lt hfound hfresh
            exact ih _ (by omega) hrest rfl
          rw [if_neg hseen] at h
          by_cases htrigger : isTrigger catalog b = true
          · rw [if_pos htrigger] at h
            cases h
            exact .nil
          rw [if_neg htrigger] at h
          rw [Bool.not_eq_true] at htrigger
          cases hway : branching? b.type with
          | some way =>
              simp only [hway] at h
              have hentries : entries canvas b way ≠ [] := by
                cases way <;> simp [entries]
              obtain ⟨_, _, through, rfl, harm, hthrough⟩ := h.of_arms (by simpa using hentries)
              obtain ⟨⟨name, entry⟩, -, heq⟩ := List.mem_map.1 harm
              obtain ⟨-, rfl⟩ := Prod.mk.inj heq
              exact .cons hfound hfresh htrigger (isSimple_follow _ hgo hthrough)
          | none =>
              simp only [hway] at h
              obtain ⟨behind, rfl, hbehind⟩ := h.of_plain
              exact .cons hfound hfresh htrigger (isSimple_follow _ hgo hbehind)

/-! ## Flows of triggers -/

/-- The flow of a trigger is found in as many turns as there are identifiers and one more. Every
path through it has pairwise different identifiers other than that of the trigger, no triggers and
no subcommands, the block of each identifier, and no more blocks than there are identifiers. -/
theorem linearize_along_connections
    (catalog : Catalog)
    (canvas : Canvas)
    (t : Block) :
    linearizeWithin catalog canvas t (canvas.ids.length + 1) =
        some (linearize catalog .connections canvas (some t)) ∧
      ∀ path, IsPath (linearize catalog .connections canvas (some t)) path →
        (path.map Block.id).Nodup ∧
          (∀ b ∈ path, b.id ≠ t.id ∧ isTrigger catalog b = false ∧ b.type ≠ subcommandType ∧
            canvas.block? b.id = some b) ∧
          path.length ≤ canvas.ids.length := by
  have hflow : linearize catalog .connections canvas (some t) =
      match (canvas.outgoing t.id).head? with
      | none => []
      | some e => walk catalog canvas [t.id] e.target := rfl
  have hturns : ∀ id, walkWithin catalog canvas (canvas.ids.length + 1) [t.id] id =
      some (walk catalog canvas [t.id] id) := by
    intro id
    have hle : (canvas.fresh [t.id]).length ≤ canvas.ids.length := List.length_filter_le _ _
    exact walkWithin_eq_some (by omega)
  rw [hflow]
  constructor
  · unfold linearizeWithin
    cases (canvas.outgoing t.id).head? with
    | none => rfl
    | some e => exact hturns e.target
  · intro path hpath
    have h : IsSimple catalog canvas [t.id] path :=
      isSimple_follow (walk catalog canvas [t.id])
        (fun _ _ hwalk => isSimple_of_isPath_walk hwalk) hpath
    refine ⟨h.nodup, ?_, h.length_le⟩
    intro b hb
    refine ⟨by simpa using h.avoids b hb, h.noTrigger b hb, ?_, h.found b hb⟩
    intro htype
    have hnot := h.noTrigger b hb
    simp [isTrigger, htype] at hnot

/-- The blocks of a canvas that asks, and asks again while the answer is yes. -/
def askingBlocks : List Block :=
  [⟨"start", "event_listener", .finite false 0, .finite false 0, [], "triggers", ""⟩,
   ⟨"ask", "action_reply", .finite false 0, .finite false 0, [], "actions", ""⟩,
   ⟨"answer", "if_condition", .finite false 0, .finite false 0, [], "conditions", ""⟩]

/-- That canvas. Its connections go round in a circle. -/
def askingCanvas : Canvas :=
  ⟨askingBlocks,
   [⟨"1", "start", "ask", none, none⟩, ⟨"2", "ask", "answer", none, none⟩,
    ⟨"3", "answer", "ask", some "true", none⟩]⟩

/-- The path through its flow asks once. -/
theorem linearize_askingCanvas :
    ∃ start ask answer, askingBlocks = [start, ask, answer] ∧
      IsPath (linearize ⟨[]⟩ .connections askingCanvas (some start)) [ask, answer] ∧
      ([ask, answer].map Block.id).Nodup ∧
      [ask, answer].length ≤ askingCanvas.ids.length := by
  refine ⟨_, _, _, rfl, ?_⟩
  obtain ⟨hturns, hpaths⟩ := linearize_along_connections ⟨[]⟩ askingCanvas
    (askingBlocks.head (by decide))
  have hflow := Option.some.inj (hturns.symm.trans
    (show _ = some [.plain _, .mk _ [("true", []), ("false", [])]] from rfl))
  have hpath : IsPath (linearize ⟨[]⟩ .connections askingCanvas
      (some (askingBlocks.head (by decide)))) (askingBlocks.drop 1) := by
    rw [hflow]
    exact .step (.branch List.mem_cons_self .nil .nil)
  obtain ⟨hnodup, -, hlength⟩ := hpaths _ hpath
  exact ⟨hpath, hnodup, hlength⟩

end Flow

end BotCanvas
