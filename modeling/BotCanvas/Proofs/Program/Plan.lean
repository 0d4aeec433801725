import BotCanvas.Proofs.Program.Assembly

/-!
# What handlers a canvas gets

Which handlers a program has, in which order and with which subcommands, is settled by the canvas
alone: no statement of a flow and no order of actions has a say in it. A **plan** is what a handler
shows of itself before any statement is written, and the units of a canvas have the plans of the
canvas (`map_plan_handlerUnits`).

**Registration.** The commands to register are the slash commands of the plans, each name where it
comes first (`map_name_commands`).
-/

namespace BotCanvas

/-- What a handler shows of itself: the type and kind of its trigger, what the trigger is told apart
by, and the names of its subcommands. -/
structure HandlerPlan where
  type : String
  kind : TriggerKind
  guard : Text
  subcommands : List Text

/-- What a unit shows of itself. -/
def HandlerUnit.plan (u : HandlerUnit) : HandlerPlan :=
  ⟨u.trigger.type, u.kind, u.guard, u.subcommands.map Subcommand.name⟩

section Results

variable {ε α β γ : Type}

/-- What the results for the members of a list show, if it is settled by the members. -/
theorem map_eq_of_mapM_eq_ok
    {f : α → Except ε β}
    {view : β → γ}
    {plan : α → γ}
    (hview : ∀ a b, f a = .ok b → view b = plan a)
    {l : List α}
    {results : List β}
    (h : l.mapM f = .ok results) :
    results.map view = l.map plan := by
  induction l generalizing results with
  | nil =>
      cases h
      rfl
  | cons a rest ih =>
      rw [List.mapM_cons] at h
      obtain ⟨b, hb, h⟩ := exists_of_bind h
      obtain ⟨bs, hbs, h⟩ := exists_of_bind h
      cases h
      rw [List.map_cons, List.map_cons, hview a b hb, ih hbs]

/-- Nothing is dropped just if nothing comes twice. -/
theorem eraseDups_eq_self_iff
    [BEq α]
    [LawfulBEq α]
    {l : List α} :
    l.eraseDups = l ↔ l.Nodup := by
  induction l with
  | nil => simp
  | cons a l ih =>
      rw [List.eraseDups_cons, List.cons.injEq, List.nodup_cons]
      have hsame : a ∉ l → l.filter (fun b => !b == a) = l := fun ha =>
        List.filter_eq_self.2 fun b hb => by
          have hne : b ≠ a := fun h => ha (h ▸ hb)
          simpa using hne
      constructor
      · rintro ⟨-, hl⟩
        have ha : a ∉ l := by
          intro ha
          rw [← hl, List.mem_eraseDups, List.mem_filter] at ha
          simp at ha
        exact ⟨ha, ih.1 (by rwa [hsame ha] at hl)⟩
      · rintro ⟨ha, hl⟩
        exact ⟨rfl, by rw [hsame ha, ih.2 hl]⟩

/-- What is left after that comes once. -/
theorem nodup_eraseDups
    [BEq α]
    [LawfulBEq α]
    (l : List α) :
    l.eraseDups.Nodup := by
  induction hn : l.length using Nat.strongRecOn generalizing l with
  | ind n ih =>
      cases l with
      | nil => simp
      | cons a l =>
          rw [List.eraseDups_cons, List.nodup_cons, List.mem_eraseDups]
          refine ⟨by simp, ih _ ?_ _ rfl⟩
          rw [← hn, List.length_cons]
          exact Nat.lt_succ_of_le (List.length_filter_le _ _)

end Results

namespace Dialect

variable {d : Dialect}
variable {catalog : Catalog}
variable {mode : Traversal}
variable {canvas : Canvas}

/-- The names of the subcommands of blocks, the first of which has the given number. -/
def subcommandNames (catalog : Catalog) : (index : Nat) → (taken : List Text) → List Block → List Text
  | _, _, [] => []
  | index, taken, b :: rest =>
      let name := subcommandName catalog index b
      if taken.contains name then subcommandNames catalog (index + 1) taken rest
      else name :: subcommandNames catalog (index + 1) (name :: taken) rest

/-- The plan of a trigger. -/
def planOf (catalog : Catalog) (canvas : Canvas) (kind : TriggerKind) (t : Block) : HandlerPlan where
  type := t.type
  kind := kind
  guard := guardOf catalog t kind
  subcommands :=
    if kind = .slash then subcommandNames catalog 0 [] (Flow.subcommands canvas t) else []

/-- The plans of a canvas, group after group. -/
def plans (catalog : Catalog) (canvas : Canvas) : List HandlerPlan :=
  TriggerKind.all.flatMap fun kind =>
    (triggersOf catalog canvas kind).map (planOf catalog canvas kind)

/-- Subcommands have the names that their blocks give them. -/
theorem map_name_subcommandsFrom
    {index : Nat}
    {taken : List Text}
    {l : List Block}
    {subs : List Subcommand}
    (h : d.subcommandsFrom catalog mode canvas index taken l = .ok subs) :
    subs.map Subcommand.name = subcommandNames catalog index taken l := by
  induction l generalizing index taken subs with
  | nil =>
      cases h
      rfl
  | cons b rest ih =>
      rw [subcommandsFrom] at h
      rw [subcommandNames]
      simp only at h ⊢
      split at h
      · rename_i htaken
        rw [if_pos htaken]
        exact ih h
      · rename_i hfree
        obtain ⟨body, -, h⟩ := exists_of_bind h
        obtain ⟨others, hothers, h⟩ := exists_of_bind h
        cases h
        rw [if_neg hfree, List.map_cons, ih hothers]

/-- The unit of a trigger holds the subcommands of the trigger. -/
theorem exists_of_handlerUnit
    {kind : TriggerKind}
    {t : Block}
    {u : HandlerUnit}
    (h : d.handlerUnit catalog mode canvas kind t = .ok u) :
    ∃ subs body, d.ownSubcommands catalog mode canvas kind t = .ok subs ∧
      u = ⟨t, kind, guardOf catalog t kind, subs, body⟩ := by
  rw [handlerUnit_eq] at h
  obtain ⟨subs, hsubs, h⟩ := exists_of_bind h
  cases hbody : d.ownBody catalog mode canvas t subs with
  | error e =>
      rw [hbody] at h
      cases h
  | ok body =>
      rw [hbody] at h
      exact ⟨subs, body, hsubs, (Except.ok.inj h).symm⟩

/-- What shows of the own subcommands of a trigger shows of those wired to a slash command. -/
theorem map_ownSubcommands
    {α : Type}
    {view : Subcommand → α}
    {kind : TriggerKind}
    {t : Block}
    {views : List α}
    (hviews : ∀ subs, d.subcommandsOf catalog mode canvas t = .ok subs → subs.map view = views)
    {subs : List Subcommand}
    (h : d.ownSubcommands catalog mode canvas kind t = .ok subs) :
    subs.map view = if kind = .slash then views else [] := by
  unfold ownSubcommands at h
  split at h
  · rename_i hslash
    rw [if_pos hslash]
    exact hviews subs h
  · rename_i hslash
    cases h
    rw [if_neg hslash]
    rfl

/-- The unit of a trigger has the plan of the trigger. -/
theorem plan_handlerUnit
    {kind : TriggerKind}
    {t : Block}
    {u : HandlerUnit}
    (h : d.handlerUnit catalog mode canvas kind t = .ok u) :
    u.plan = planOf catalog canvas kind t := by
  obtain ⟨subs, body, hsubs, rfl⟩ := exists_of_handlerUnit h
  have hnames : subs.map Subcommand.name = (planOf catalog canvas kind t).subcommands :=
    map_ownSubcommands (fun _ => map_name_subcommandsFrom) hsubs
  rw [HandlerUnit.plan, hnames]
  rfl

/-- The units of a canvas have its plans. -/
theorem map_plan_handlerUnits
    {units : List HandlerUnit}
    (h : d.handlerUnits catalog mode canvas = .ok units) :
    units.map HandlerUnit.plan = plans catalog canvas := by
  have hview : ∀ (p : TriggerKind × Block) u, d.handlerUnit catalog mode canvas p.1 p.2 = .ok u →
      u.plan = planOf catalog canvas p.1 p.2 := fun p u hu => plan_handlerUnit hu
  rw [map_eq_of_mapM_eq_ok hview h, List.map_flatMap]
  simp only [List.map_map]
  rfl

/-- The types in plans become handlers of the kind in the plan. -/
theorem ofType?_of_mem_plans
    {p : HandlerPlan}
    (h : p ∈ plans catalog canvas) :
    TriggerKind.ofType? p.type = some p.kind := by
  obtain ⟨kind, -, h⟩ := List.mem_flatMap.1 h
  obtain ⟨t, ht, rfl⟩ := List.mem_map.1 h
  exact beq_iff_eq.1 (List.mem_filter.1 ht).2

/-- Of groups in the order of the kinds, those of one kind are one group. -/
theorem filter_kind_flatMap
    {α : Type}
    {kindOf : α → TriggerKind}
    {groups : TriggerKind → List α}
    (hgroups : ∀ kind, ∀ a ∈ groups kind, kindOf a = kind)
    (kind : TriggerKind) :
    (TriggerKind.all.flatMap groups).filter (fun a => kindOf a == kind) = groups kind := by
  have hgroup : ∀ k, (groups k).filter (fun a => kindOf a == kind) =
      if k = kind then groups k else [] := by
    intro k
    split
    · rename_i hk
      exact List.filter_eq_self.2 fun a ha => beq_iff_eq.2 ((hgroups k a ha).trans hk)
    · rename_i hk
      refine List.filter_eq_nil_iff.2 fun a ha heq => hk ?_
      exact (hgroups k a ha).symm.trans (beq_iff_eq.1 heq)
  rw [List.filter_flatMap]
  simp only [hgroup, TriggerKind.all, List.flatMap_cons, List.flatMap_nil]
  cases kind <;> simp

/-- The plans of one kind are those of the triggers of that kind. -/
theorem filter_kind_plans
    (catalog : Catalog)
    (canvas : Canvas)
    (kind : TriggerKind) :
    (plans catalog canvas).filter (fun p => p.kind == kind) =
      (triggersOf catalog canvas kind).map (planOf catalog canvas kind) := by
  refine filter_kind_flatMap (fun k p hp => ?_) kind
  obtain ⟨t, -, rfl⟩ := List.mem_map.1 hp
  rfl

/-- The names of the slash commands of a canvas, in document order. -/
def slashNames (catalog : Catalog) (canvas : Canvas) : List Text :=
  (triggersOf catalog canvas .slash).map (guardOf catalog · .slash)

/-- The slash commands among plans are told apart by their names. -/
theorem map_guard_slash
    (catalog : Catalog)
    (canvas : Canvas) :
    ((plans catalog canvas).filter fun p => p.kind == .slash).map HandlerPlan.guard =
      slashNames catalog canvas := by
  rw [filter_kind_plans, List.map_map]
  rfl

/-- The slash commands among units are told apart by their names. -/
theorem map_guard_slash_units
    {units : List HandlerUnit}
    (h : d.handlerUnits catalog mode canvas = .ok units) :
    (units.filter fun u => u.kind == .slash).map HandlerUnit.guard =
      slashNames catalog canvas := by
  rw [← map_guard_slash, ← map_plan_handlerUnits h, List.filter_map, List.map_map]
  rfl

/-- Commands are registered by name, where a name comes first and is not registered yet. -/
theorem map_name_foldl_commands
    (catalog : Catalog)
    (units : List HandlerUnit)
    (specs : List CommandSpec) :
    (units.foldl (fun specs u => if specs.any fun spec => spec.name == u.guard then specs
        else specs ++ [commandSpec catalog u]) specs).map CommandSpec.name =
      specs.map CommandSpec.name ++ ((units.map HandlerUnit.guard).filter fun name =>
        !(specs.any fun spec => spec.name == name)).eraseDups := by
  induction units generalizing specs with
  | nil => simp
  | cons u rest ih =>
      rw [List.foldl_cons, ih, List.map_cons, List.filter_cons]
      cases hseen : specs.any fun spec => spec.name == u.guard with
      | true => simp
      | false =>
          simp only [Bool.false_eq_true, if_false, Bool.not_false, if_true, List.map_append,
            List.map_cons, List.map_nil, List.eraseDups_cons, List.filter_filter,
            List.append_assoc, List.cons_append, List.nil_append, commandSpec]
          refine congrArg (fun l : List Text =>
            specs.map CommandSpec.name ++ u.guard :: l.eraseDups) ?_
          refine List.filter_congr fun name _ => ?_
          have hcomm : (u.guard == name) = (name == u.guard) := BEq.comm
          simp [hcomm, Bool.and_comm]

/-- The commands to register have the names of the slash commands of the canvas, each where it comes
first. -/
theorem map_name_commands
    {units : List HandlerUnit}
    (h : d.handlerUnits catalog mode canvas = .ok units) :
    (commands catalog units).map CommandSpec.name =
      (slashNames catalog canvas).eraseDups := by
  rw [commands, map_name_foldl_commands, map_guard_slash_units h]
  simp

end Dialect

end BotCanvas
