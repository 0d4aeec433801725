import BotCanvas.Flow.Walk
import BotCanvas.Proofs.Program.Emission

/-!
# Flows of canvases that look alike

Two canvases look alike if their blocks are related one by one and their connections join the same
places, where the identifiers of one may be renamed in the other. Then the triggers, the
subcommands and the flows of one are those of the other: nothing that orders blocks depends on more
than identifiers, types, categories, heights and connections.

A walk along connections needs less: that look-ups find related blocks and that the connections
which leave a block correspond (`WalksAlike`).
-/

namespace BotCanvas

/-- Connections that join the same places under a renaming. -/
def ConnectionsAlike (ρ : String → String) (e e' : Connection) : Prop :=
  e'.source = ρ e.source ∧ e'.target = ρ e.target ∧ e'.sourceHandle = e.sourceHandle

/-- A relation of blocks that keeps what orders them. -/
structure KeepsOrder (ρ : String → String) (T : Block → Block → Prop) : Prop where
  injective : Function.Injective ρ
  id : ∀ b b', T b b' → b'.id = ρ b.id
  type : ∀ b b', T b b' → b'.type = b.type
  category : ∀ b b', T b b' → b'.category = b.category
  y : ∀ b b', T b b' → b'.y = b.y

/-- A relation of blocks that keeps what a walk looks at. -/
structure KeepsNodes (ρ : String → String) (T : Block → Block → Prop) : Prop where
  injective : Function.Injective ρ
  id : ∀ b b', T b b' → b'.id = ρ b.id
  type : ∀ b b', T b b' → b'.type = b.type
  category : ∀ b b', T b b' → b'.category = b.category

/-- Canvases on which walks go alike: look-ups find related blocks, and the connections that leave
blocks correspond. Neither heights nor the order of connections that leave different blocks matter. -/
structure WalksAlike (ρ : String → String) (T : Block → Block → Prop) (c c' : Canvas) : Prop where
  nodes : KeepsNodes ρ T
  block? : ∀ id, Option.Rel T (c.block? id) (c'.block? (ρ id))
  outgoing : ∀ id, List.Forall₂ (ConnectionsAlike ρ) (c.outgoing id) (c'.outgoing (ρ id))

/-- Canvases that look alike. -/
structure CanvasesAlike (ρ : String → String) (T : Block → Block → Prop) (c c' : Canvas) :
    Prop where
  blocks : List.Forall₂ T c.blocks c'.blocks
  connections : List.Forall₂ (ConnectionsAlike ρ) c.connections c'.connections

section Lists

variable {α β : Type}
variable {R : α → β → Prop}
variable {p : α → Bool}
variable {q : β → Bool}

/-- What two tests that agree find first is related. -/
theorem rel_find?
    (hpq : ∀ a b, R a b → p a = q b)
    {l : List α}
    {l' : List β}
    (h : List.Forall₂ R l l') :
    Option.Rel R (l.find? p) (l'.find? q) := by
  induction h with
  | nil => exact .none
  | @cons a b l l' hab _ ih =>
      rw [List.find?_cons, List.find?_cons, ← hpq _ _ hab]
      cases p a with
      | true => exact .some hab
      | false => exact ih

/-- The first elements of related lists are related. -/
theorem rel_head?
    {l : List α}
    {l' : List β}
    (h : List.Forall₂ R l l') :
    Option.Rel R l.head? l'.head? := by
  cases h with
  | nil => exact .none
  | cons hab _ => exact .some hab

/-- Related lists are the two sides of one list of related pairs. -/
theorem exists_pairs
    {l : List α}
    {l' : List β}
    (h : List.Forall₂ R l l') :
    ∃ pairs : List (α × β), l = pairs.map Prod.fst ∧ l' = pairs.map Prod.snd ∧
      ∀ p ∈ pairs, R p.1 p.2 := by
  induction h with
  | nil => exact ⟨[], rfl, rfl, by simp⟩
  | @cons a b l l' hab _ ih =>
      obtain ⟨pairs, rfl, rfl, hpairs⟩ := ih
      refine ⟨(a, b) :: pairs, rfl, rfl, ?_⟩
      rintro p (_ | ⟨_, hp⟩)
      · exact hab
      · exact hpairs p hp

/-- Sorting by orders that agree keeps lists related. -/
theorem forall₂_mergeSort
    {r : α → α → Bool}
    {s : β → β → Bool}
    (hrs : ∀ a a' b b', R a a' → R b b' → r a b = s a' b')
    {l : List α}
    {l' : List β}
    (h : List.Forall₂ R l l') :
    List.Forall₂ R (l.mergeSort r) (l'.mergeSort s) := by
  obtain ⟨pairs, rfl, rfl, hpairs⟩ := exists_pairs h
  have hfst : (pairs.mergeSort fun x y => r x.1 y.1).map Prod.fst =
      (pairs.map Prod.fst).mergeSort r :=
    List.map_mergeSort (f := Prod.fst) (fun _ _ _ _ => rfl)
  have hsnd : (pairs.mergeSort fun x y => r x.1 y.1).map Prod.snd =
      (pairs.map Prod.snd).mergeSort s :=
    List.map_mergeSort (f := Prod.snd) fun x hx y hy =>
      hrs _ _ _ _ (hpairs x hx) (hpairs y hy)
  rw [← hfst, ← hsnd, List.forall₂_map_left_iff, List.forall₂_map_right_iff, List.forall₂_same]
  intro x hx
  exact hpairs x ((List.mem_mergeSort).1 hx)

end Lists

namespace Flow

variable {catalog : Catalog}
variable {canvas : Canvas}
variable {path : List String}
variable {start : String}

/-- A walk from nowhere has no steps. -/
theorem walk_of_none
    (h : canvas.block? start = none) :
    walk catalog canvas path start = [] := by
  rw [walk]
  split
  · rfl
  · simp_all

/-- A walk from a block, with the test for blocks on the path made plain. -/
theorem walk_of_some
    {b : Block}
    (h : canvas.block? start = some b) :
    walk catalog canvas path start =
      if path.contains start then []
      else if isTrigger catalog b then []
      else
        match branching? b.type with
        | some way =>
            [.mk b ((entries canvas b way).map fun (name, entry) =>
              (name, match entry with
                | none => []
                | some e => walk catalog canvas (start :: path) e.target))]
        | none =>
            .plain b :: match (canvas.outgoing b.id).head? with
              | none => []
              | some e => walk catalog canvas (start :: path) e.target := by
  rw [walk]
  split
  · simp_all
  · rename_i b' hfound
    obtain rfl : b' = b := by
      rw [h] at hfound
      exact (Option.some.inj hfound).symm
    rfl

/-- Actions that already stand by vertical position are the steps of every trigger, in that order. -/
theorem linearize_position_of_pairwise
    {catalog : Catalog}
    {canvas : Canvas}
    (h : (canvas.blocks.filter fun b => !isTrigger catalog b).Pairwise fun a b =>
      above a b = true)
    (trigger : Option Block) :
    linearize catalog .position canvas trigger =
      (canvas.blocks.filter fun b => !isTrigger catalog b).map .plain := by
  have hactions : actions catalog canvas = canvas.blocks.filter fun b => !isTrigger catalog b :=
    List.mergeSort_of_pairwise h
  rw [← hactions]
  cases trigger <;> rfl

end Flow

variable {ρ : String → String}
variable {T : Block → Block → Prop}
variable {catalog : Catalog}
variable {c c' : Canvas}

/-- Blocks of a kind keep their order. -/
theorem keepsOrder_self
    (P : Block → Prop) :
    KeepsOrder id fun b b' => b = b' ∧ P b := by
  refine ⟨fun _ _ h => h, ?_, ?_, ?_, ?_⟩ <;>
    · rintro b _ ⟨rfl, -⟩
      rfl

/-- What orders blocks is more than what a walk looks at. -/
theorem KeepsOrder.nodes
    (hT : KeepsOrder ρ T) :
    KeepsNodes ρ T :=
  ⟨hT.injective, hT.id, hT.type, hT.category⟩

namespace KeepsNodes

/-- Related blocks are triggers together. -/
theorem isTrigger
    (hT : KeepsNodes ρ T)
    {b b' : Block}
    (h : T b b') :
    Flow.isTrigger catalog b' = Flow.isTrigger catalog b := by
  simp only [Flow.isTrigger, Flow.category, hT.type b b' h, hT.category b b' h]

/-- Among related blocks, look-ups find related ones. -/
theorem block?
    (hT : KeepsNodes ρ T)
    (hblocks : List.Forall₂ T c.blocks c'.blocks)
    (id : String) :
    Option.Rel T (c.block? id) (c'.block? (ρ id)) := by
  refine rel_find? (fun b b' h => ?_) hblocks
  rw [hT.id b b' h, Bool.eq_iff_iff, beq_iff_eq, beq_iff_eq]
  exact hT.injective.eq_iff.symm

/-- Related blocks have related triggers among them. -/
theorem triggers
    (hT : KeepsNodes ρ T)
    (hblocks : List.Forall₂ T c.blocks c'.blocks) :
    List.Forall₂ T (Flow.triggers catalog c) (Flow.triggers catalog c') := by
  refine List.rel_filter (fun b b' h => ?_) hblocks
  show Flow.isTrigger catalog b = true ↔ Flow.isTrigger catalog b' = true
  rw [hT.isTrigger h]

/-- Related blocks have the same types. -/
theorem types_eq
    (hT : KeepsNodes ρ T)
    (hblocks : List.Forall₂ T c.blocks c'.blocks) :
    c'.types = c.types := by
  refine (List.rel_foldl (P := Eq) ?_ rfl hblocks).symm
  rintro seen _ rfl b b' hb
  simp only [hT.type b b' hb]

end KeepsNodes

namespace WalksAlike

/-- A look-up that finds nothing finds nothing on the other canvas. -/
theorem block?_none
    (h : WalksAlike ρ T c c')
    {id : String}
    (hfound : c.block? id = none) :
    c'.block? (ρ id) = none := by
  have hrel := h.block? id
  rw [hfound] at hrel
  generalize c'.block? (ρ id) = found at hrel
  cases hrel
  rfl

/-- A look-up that finds a block finds a related one on the other canvas. -/
theorem block?_some
    (h : WalksAlike ρ T c c')
    {id : String}
    {b : Block}
    (hfound : c.block? id = some b) :
    ∃ b', c'.block? (ρ id) = some b' ∧ T b b' := by
  have hrel := h.block? id
  rw [hfound] at hrel
  generalize c'.block? (ρ id) = found at hrel
  cases hrel with
  | some hb => exact ⟨_, rfl, hb⟩

/-- The arms of related blocks begin at corresponding connections. -/
theorem entries
    (h : WalksAlike ρ T c c')
    {b b' : Block}
    (hb : T b b')
    (way : Flow.Branching) :
    List.Forall₂
      (fun p p' : String × Option Connection =>
        p'.1 = p.1 ∧ Option.Rel (ConnectionsAlike ρ) p.2 p'.2)
      (Flow.entries c b way) (Flow.entries c' b' way) := by
  have hout := h.outgoing b.id
  have hfirst : ∀ handles, Option.Rel (ConnectionsAlike ρ)
      (Flow.firstFrom c b.id handles) (Flow.firstFrom c' b'.id handles) := by
    intro handles
    rw [h.nodes.id b b' hb]
    exact rel_find? (fun e e' he => by rw [he.2.2]) hout
  cases way with
  | recovery =>
      refine .cons ⟨rfl, ?_⟩ .nil
      rw [h.nodes.id b b' hb]
      exact rel_head? hout
  | choice => exact .cons ⟨rfl, hfirst _⟩ (.cons ⟨rfl, hfirst _⟩ .nil)
  | gate => exact .cons ⟨rfl, hfirst _⟩ (.cons ⟨rfl, hfirst _⟩ .nil)

/-- Steps that follow related connections, or nothing where there is no connection. -/
theorem follow
    {go go' : String → List Step}
    (hgo : ∀ id, StepsAlike T (go id) (go' (ρ id))) :
    ∀ {e e' : Option Connection}, Option.Rel (ConnectionsAlike ρ) e e' →
      StepsAlike T
        (match e with
          | none => []
          | some e => go e.target)
        (match e' with
          | none => []
          | some e => go' e.target)
  | _, _, .none => .nil
  | some e, some e', .some h => by
      have htarget : e'.target = ρ e.target := h.2.1
      simp only [htarget]
      exact hgo e.target

/-- Arms that begin at corresponding connections are alike. -/
theorem armsAlike_map
    {entries entries' : List (String × Option Connection)}
    (h : List.Forall₂
      (fun p p' : String × Option Connection =>
        p'.1 = p.1 ∧ Option.Rel (ConnectionsAlike ρ) p.2 p'.2)
      entries entries')
    {go go' : String → List Step}
    (hgo : ∀ id, StepsAlike T (go id) (go' (ρ id))) :
    ArmsAlike T
      (entries.map fun (name, entry) =>
        (name, match entry with
          | none => []
          | some e => go e.target))
      (entries'.map fun (name, entry) =>
        (name, match entry with
          | none => []
          | some e => go' e.target)) := by
  induction h with
  | nil => exact .nil
  | @cons p p' rest rest' hp _ ih =>
      obtain ⟨name, entry⟩ := p
      obtain ⟨name', entry'⟩ := p'
      obtain ⟨hname, hentry⟩ := hp
      simp only at hname hentry
      subst hname
      exact .cons (follow hgo hentry) ih

/-- Walks from corresponding places along corresponding paths give the same flow. -/
theorem walk
    (h : WalksAlike ρ T c c')
    (path : List String)
    (start : String) :
    StepsAlike T (Flow.walk catalog c path start)
      (Flow.walk catalog c' (path.map ρ) (ρ start)) := by
  -- as for the walk itself, fewer blocks are unvisited at every step
  obtain ⟨n, hn⟩ : ∃ n, (c.unvisited path).length = n := ⟨_, rfl⟩
  induction n using Nat.strongRecOn generalizing path start with
  | ind n ih =>
      have hseen : (path.map ρ).contains (ρ start) = path.contains start := by
        rw [Bool.eq_iff_iff, List.contains_iff_mem, List.contains_iff_mem]
        exact List.mem_map_of_injective h.nodes.injective
      cases hfound : c.block? start with
      | none =>
          rw [Flow.walk_of_none hfound, Flow.walk_of_none (h.block?_none hfound)]
          exact .nil
      | some b =>
          obtain ⟨b', hfound', hb⟩ := h.block?_some hfound
          rw [Flow.walk_of_some hfound, Flow.walk_of_some hfound', hseen]
          by_cases hvisited : path.contains start = true
          · rw [if_pos hvisited, if_pos hvisited]
            exact .nil
          · have hgo : ∀ id,
                StepsAlike T (Flow.walk catalog c (start :: path) id)
                  (Flow.walk catalog c' (ρ start :: path.map ρ) (ρ id)) := by
              intro id
              have hless := Canvas.length_unvisited_cons_lt hfound (by simpa using hvisited)
              exact ih _ (by omega) (start :: path) id rfl
            rw [if_neg hvisited, if_neg hvisited, h.nodes.isTrigger hb, h.nodes.type b b' hb]
            split
            · exact .nil
            · cases Flow.branching? b.type with
              | some way =>
                  exact .cons hb (armsAlike_map (h.entries hb way) hgo) .nil
              | none =>
                  refine .cons hb .nil (follow hgo ?_)
                  rw [h.nodes.id b b' hb]
                  exact rel_head? (h.outgoing b.id)

/-- The flows along connections of related triggers are alike. -/
theorem linearize_connections
    (h : WalksAlike ρ T c c')
    {t t' : Block}
    (ht : T t t') :
    StepsAlike T (Flow.linearize catalog .connections c (some t))
      (Flow.linearize catalog .connections c' (some t')) := by
  unfold Flow.linearize
  have hid : t'.id = ρ t.id := h.nodes.id t t' ht
  refine follow (ρ := ρ) (fun id => ?_) ?_
  · rw [hid]
    exact h.walk [t.id] id
  · rw [hid]
    exact rel_head? (h.outgoing t.id)

/-- Related lists of blocks hold corresponding identifiers. -/
theorem any_id
    (hT : KeepsNodes ρ T)
    {l l' : List Block}
    (h : List.Forall₂ T l l')
    (id : String) :
    (l'.any fun b => b.id == ρ id) = l.any fun b => b.id == id := by
  induction h with
  | nil => rfl
  | @cons b b' l l' hb _ ih =>
      have hid : (b'.id == ρ id) = (b.id == id) := by
        rw [hT.id b b' hb, Bool.eq_iff_iff, beq_iff_eq, beq_iff_eq]
        exact hT.injective.eq_iff
      rw [List.any_cons, List.any_cons, hid, ih]

/-- The subcommands of related commands are related. -/
theorem subcommands
    (h : WalksAlike ρ T c c')
    {t t' : Block}
    (ht : T t t') :
    List.Forall₂ T (Flow.subcommands c t) (Flow.subcommands c' t') := by
  have hout := h.outgoing t.id
  rw [← h.nodes.id t t' ht] at hout
  refine List.rel_foldl ?_ .nil hout
  intro found found' hrel e e' he
  cases hfound : c.block? e.target with
  | none =>
      have hfound' := h.block?_none hfound
      rw [← he.2.1] at hfound'
      simp only [hfound, hfound']
      exact hrel
  | some b =>
      obtain ⟨b', hfound', hb⟩ := h.block?_some hfound
      rw [← he.2.1] at hfound'
      simp only [hfound, hfound', h.nodes.type b b' hb, h.nodes.id b b' hb, any_id h.nodes hrel]
      split
      · exact List.rel_append hrel (.cons hb .nil)
      · exact hrel

end WalksAlike

/-- A relation of blocks holds of plain steps if it holds of their blocks. -/
theorem stepsAlike_plain
    {l l' : List Block}
    (h : List.Forall₂ T l l') :
    StepsAlike T (l.map Step.plain) (l'.map Step.plain) := by
  induction h with
  | nil => exact .nil
  | cons hb _ ih => exact .cons hb .nil ih

namespace CanvasesAlike

/-- A canvas whose blocks are all of a kind looks like itself. -/
theorem self
    {P : Block → Prop}
    (h : ∀ b ∈ c.blocks, P b) :
    CanvasesAlike id (fun b b' => b = b' ∧ P b) c c :=
  ⟨List.forall₂_same.2 fun b hb => ⟨rfl, h b hb⟩, List.forall₂_same.2 fun _ _ => ⟨rfl, rfl, rfl⟩⟩

/-- Connections that leave related blocks correspond. -/
theorem outgoing
    (hT : KeepsOrder ρ T)
    (hc : CanvasesAlike ρ T c c')
    (id : String) :
    List.Forall₂ (ConnectionsAlike ρ) (c.outgoing id) (c'.outgoing (ρ id)) := by
  refine List.rel_filter (fun e e' h => ?_) hc.connections
  show (e.source == id) = true ↔ (e'.source == ρ id) = true
  rw [h.1, beq_iff_eq, beq_iff_eq]
  exact hT.injective.eq_iff.symm

/-- On canvases that look alike, walks go alike. -/
theorem walks
    (hT : KeepsOrder ρ T)
    (hc : CanvasesAlike ρ T c c') :
    WalksAlike ρ T c c' :=
  ⟨hT.nodes, hT.nodes.block? hc.blocks, hc.outgoing hT⟩

/-- The triggers of the one canvas are those of the other. -/
theorem triggers
    (hT : KeepsOrder ρ T)
    (hc : CanvasesAlike ρ T c c') :
    List.Forall₂ T (Flow.triggers catalog c) (Flow.triggers catalog c') :=
  hT.nodes.triggers hc.blocks

/-- The actions come in the same order. -/
theorem actions
    (hT : KeepsOrder ρ T)
    (hc : CanvasesAlike ρ T c c') :
    List.Forall₂ T (Flow.actions catalog c) (Flow.actions catalog c') := by
  refine forall₂_mergeSort (fun a a' b b' ha hb => ?_) ?_
  · rw [Flow.above, Flow.above, hT.y a a' ha, hT.y b b' hb]
  · refine List.rel_filter (fun b b' h => ?_) hc.blocks
    show (!Flow.isTrigger catalog b) = true ↔ (!Flow.isTrigger catalog b') = true
    rw [hT.nodes.isTrigger h]

/-- The flows of related triggers are alike. -/
theorem linearize
    (hT : KeepsOrder ρ T)
    (hc : CanvasesAlike ρ T c c')
    (mode : Traversal)
    {t t' : Block}
    (ht : T t t') :
    StepsAlike T (Flow.linearize catalog mode c (some t))
      (Flow.linearize catalog mode c' (some t')) := by
  cases mode with
  | position => exact stepsAlike_plain (hc.actions hT)
  | connections => exact (hc.walks hT).linearize_connections ht

/-- The subcommands of related commands are related. -/
theorem subcommands
    (hT : KeepsOrder ρ T)
    (hc : CanvasesAlike ρ T c c')
    {t t' : Block}
    (ht : T t t') :
    List.Forall₂ T (Flow.subcommands c t) (Flow.subcommands c' t') :=
  (hc.walks hT).subcommands ht

end CanvasesAlike

end BotCanvas
