import BotCanvas.Proofs.Offside.Handlers

/-!
# Names of functions

A program binds one name for each request of its handlers: the functions that answer interactions
and the variables that hold groups (`bindings_program`). These are the names of one tally, so they
are different unless two bases meet. The bases of slash commands and of events do not end in a
digit. Only components can meet: their bases end in the identifier of the component.
-/

namespace BotCanvas

namespace Text

variable {p : Char → Bool}
variable {mark c : Char}

/-- What stands at the end is not trimmed if it is not of the class. -/
theorem stripBy_concat
    (s : Text)
    (hc : p c = false) :
    stripBy p (s ++ [c]) = s.dropWhile p ++ [c] := by
  have hfront : (s ++ [c]).dropWhile p = s.dropWhile p ++ [c] := by
    rw [List.dropWhile_append]
    split
    · rename_i hnil
      rw [List.isEmpty_iff.1 hnil, List.dropWhile_cons_of_neg (by simp [hc])]
      rfl
    · rfl
  rw [stripBy, hfront, List.reverse_append, List.reverse_singleton, List.singleton_append,
    List.dropWhile_cons_of_neg (by simp [hc]), List.reverse_cons, List.reverse_reverse]

/-- What stands at the end is kept if it is not of the class. -/
theorem collapse_concat
    (s : Text)
    (hc : p c = false) :
    collapse p mark (s ++ [c]) = collapse p mark s ++ [c] := by
  fun_induction collapse p mark s with
  | case1 => simp [collapse, hc]
  | case2 d hd => simp [collapse, hd, hc]
  | case3 d hd e r he ih => simpa [collapse, hd, he] using ih
  | case4 d hd e r he ih => simpa [collapse, hd, he] using ih
  | case5 d r hd ih => simpa [collapse, hd] using ih

end Text

namespace Name

open Text

/-- An identifier ends as the text that it is made from, or in a low line. -/
theorem getLast?_identifier
    (fallback s : Text)
    {c : Char}
    (hc : isWord c = true)
    (hlow : c ≠ '_') :
    (identifier fallback (s ++ [c])).getLast? = some c ∨
      (identifier fallback (s ++ [c])).getLast? = some '_' := by
  obtain ⟨front, hfront⟩ : ∃ front,
      stripBy (· == '_') (collapse (fun d => !isWord d) '_' (strip (s ++ [c]))) = front ++ [c] := by
    rw [strip, stripBy_concat s (not_isBlank_of_class (.inl hc)),
      collapse_concat _ (by simp [hc]), stripBy_concat _ (by simpa using hlow)]
    exact ⟨_, rfl⟩
  unfold identifier
  simp only [hfront]
  rw [if_neg (by simp)]
  have hspelled : ∃ front', (if (front ++ [c]).head?.any isDigit then '_' :: (front ++ [c])
      else front ++ [c]) = front' ++ [c] := by
    split
    · exact ⟨'_' :: front, rfl⟩
    · exact ⟨front, rfl⟩
  obtain ⟨front', hfront'⟩ := hspelled
  rw [hfront']
  split
  · exact .inr List.getLast?_concat
  · exact .inl List.getLast?_concat

end Name

namespace Offside

/-- The name that a declaration binds. -/
def Declaration.binding? : Declaration → Option Text
  | .function holder => some holder
  | .group holder _ => some holder
  | _ => none

/-- The names of functions and groups in a program, in order. -/
def bindings (program : Text) : List Text :=
  (declarations program).filterMap Declaration.binding?

/-- A handler binds the names that it gets. -/
theorem bindings_declared
    (p : HandlerPlan)
    (names : List Text) :
    (declared p names).filterMap Declaration.binding? = names := by
  have hfunctions : ∀ l : List Text,
      (l.map Declaration.function).filterMap Declaration.binding? = l := by
    intro l
    rw [List.filterMap_map]
    exact List.filterMap_some
  unfold declared
  split
  · split
    · exact hfunctions names
    · cases names with
      | nil => rfl
      | cons group functions =>
          simp only [List.filterMap_cons, List.filterMap_append, hfunctions, Declaration.binding?,
            List.filterMap_nil, List.append_nil]
  · exact hfunctions names

/-- Handlers bind the names that the tally gives out for their requests. -/
theorem bindings_declaredAfter
    (t : Tally)
    (plans : List HandlerPlan) :
    (declaredAfter t plans).filterMap Declaration.binding? = t.names (plans.flatMap requests) := by
  induction plans generalizing t with
  | nil => rfl
  | cons p rest ih =>
      rw [declaredAfter, List.filterMap_append, bindings_declared, ih, List.flatMap_cons,
        Tally.names_append]

/-- The function of an event does not end in a digit. -/
theorem not_endsInDigit_listener
    (event : Text) :
    ¬Tally.EndsInDigit (Name.identifier "value" (event ++ "_listener".toList)) := by
  have hevent : event ++ "_listener".toList = (event ++ "_listene".toList) ++ ['r'] := by
    rw [List.append_assoc]
    rfl
  rw [hevent, Tally.EndsInDigit]
  obtain h | h := Name.getLast?_identifier "value" (event ++ "_listene".toList)
    (show Text.isWord 'r' = true by decide) (by decide)
  · rw [h]
    decide
  · rw [h]
    decide

/-- The base names of a handler do not end in a digit, except for a component's. -/
theorem not_endsInDigit_of_mem_requests
    {p : HandlerPlan}
    (h : p.kind = .component → ¬Tally.EndsInDigit (Name.identifier "component" p.guard))
    {base : Text}
    (hbase : base ∈ requests p) :
    ¬Tally.EndsInDigit base := by
  have hcommand : ¬Tally.EndsInDigit "_command".toList := by decide
  have hgroup : ¬Tally.EndsInDigit "_group".toList := by decide
  obtain ⟨type, kind, guard, subcommands⟩ := p
  cases kind with
  | slash =>
      simp only [requests] at hbase
      split at hbase
      · rw [List.mem_singleton.1 hbase, Tally.endsInDigit_append_iff _ (by decide)]
        exact hcommand
      · rcases List.mem_cons.1 hbase with rfl | hbase
        · rw [Tally.endsInDigit_append_iff _ (by decide)]
          exact hgroup
        · obtain ⟨name, -, rfl⟩ := List.mem_map.1 hbase
          rw [← List.cons_append, ← List.append_assoc,
            Tally.endsInDigit_append_iff _ (by decide)]
          exact hcommand
  | component =>
      have hne : Name.identifier "component" guard ≠ [] :=
        (Text.IsVariable.identifier "component" (by decide) guard).1
      rw [List.mem_singleton.1 hbase, List.append_cons, Tally.endsInDigit_append_iff _ hne]
      exact h rfl
  | event =>
      rw [List.mem_singleton.1 hbase]
      exact not_endsInDigit_listener (eventName guard)

/-- The functions and groups of a program have the names that one tally gives out. -/
theorem bindings_eq
    {catalog : Catalog}
    {mode : Traversal}
    {canvas : Canvas}
    {program : Text}
    (h : dialect.program catalog mode canvas = .ok program) :
    bindings program = Tally.names [] ((Dialect.plans catalog canvas).flatMap requests) := by
  rw [bindings, declarations_program h]
  exact bindings_declaredAfter [] (Dialect.plans catalog canvas)

/-- The functions and groups of a program are named by one tally. All names are different just if no
two bases meet at counts that they reach. So it is if no component's identifier ends in a digit. -/
theorem bindings_program
    {catalog : Catalog}
    {mode : Traversal}
    {canvas : Canvas}
    {program : Text}
    (h : dialect.program catalog mode canvas = .ok program) :
    let bases := (Dialect.plans catalog canvas).flatMap requests
    bindings program = Tally.names [] bases ∧
      ((bindings program).Nodup ↔
        ∀ a b, ∀ m ≤ bases.count a, ∀ n ≤ bases.count b, 0 < m → 0 < n →
          Tally.numbered a m = Tally.numbered b n → a = b) ∧
      ((∀ t ∈ Dialect.triggersOf catalog canvas .component,
          ¬Tally.EndsInDigit
            (Name.identifier "component" (Dialect.guardOf catalog t .component))) →
        (bindings program).Nodup) := by
  intro bases
  rw [bindings_eq h]
  refine ⟨rfl, Tally.nodup_names_iff bases, fun hcomponents => Tally.nodup_names ?_⟩
  intro base hbase
  obtain ⟨p, hp, hbase⟩ := List.mem_flatMap.1 hbase
  refine not_endsInDigit_of_mem_requests (fun hkind => ?_) hbase
  have hfilter : p ∈ (Dialect.plans catalog canvas).filter fun p => p.kind == .component :=
    List.mem_filter.2 ⟨hp, beq_iff_eq.2 hkind⟩
  rw [Dialect.filter_kind_plans] at hfilter
  obtain ⟨t, ht, rfl⟩ := List.mem_map.1 hfilter
  exact hcomponents t ht

/-- A canvas of triggers for buttons with the given identifiers. -/
def buttonCanvas (ids : List String) : Canvas :=
  ⟨ids.map fun id => ⟨id, "on_button_click", .finite false 0, .finite false 0,
    [("customId", .str id)], "triggers", ""⟩, []⟩

/-- Numbers keep the names of functions apart. -/
theorem bindings_program_buttonCanvas :
    ∃ program, dialect.program ⟨[]⟩ .connections (buttonCanvas ["a", "b", "a"]) = .ok program ∧
      bindings program = ["on_button_click_a", "on_button_click_b", "on_button_click_a2"] ∧
      (bindings program).Nodup := by
  obtain ⟨program, h⟩ := exists_of_isSome (m := dialect.program ⟨[]⟩ .connections
    (buttonCanvas ["a", "b", "a"])) (by decide +kernel)
  obtain ⟨hnames, -, hnodup⟩ := bindings_program h
  exact ⟨program, h, hnames.trans (by decide +kernel), hnodup (by decide +kernel)⟩

/-- A number can make the name of one component that of another. -/
theorem not_forall_nodup_bindings :
    ¬∀ catalog mode canvas program, dialect.program catalog mode canvas = .ok program →
      (bindings program).Nodup := by
  intro hall
  obtain ⟨program, h⟩ := exists_of_isSome (m := dialect.program ⟨[]⟩ .connections
    (buttonCanvas ["a", "a", "a2"])) (by decide +kernel)
  have hnodup := hall _ _ _ program h
  rw [bindings_eq h] at hnodup
  exact absurd hnodup (by decide +kernel)

end Offside

end BotCanvas
