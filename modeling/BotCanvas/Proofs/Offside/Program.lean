import BotCanvas.Catalog.Builtin
import BotCanvas.Proofs.Offside.Frames
import BotCanvas.Proofs.Program.Assembly

/-!
# Layout of whole programs in the language with suites

The statements of every flow make a suite, by induction over the flow: one case for each kind of
step. So all handlers are laid, and the sections of a program with empty rows between them.
-/

namespace BotCanvas.Offside

open Lexis

/-- Statements of an action are laid. -/
theorem gives_laid
    (s : Subject) :
    Emit.Gives Laid (dialect.emitAction s) :=
  Emit.Gives.of_alike (emitAction_alike (.refl _ s) (.any s)) fun _ hc => .ofEvery hc.2

/-- Emission gives laid code and suites, step by step. -/
theorem keeps_laid
    (catalog : Catalog) :
    (dialect.codeMeaning catalog).Keeps (HasTameCondition catalog) Laid IsSuite where
  action b _ _ := gives_laid ⟨catalog, b⟩
  choice _ hb htype _ _ hyes hno := laid_choice htype hb hyes hno
  gate _ _ _ _ _ hdenied hallowed := laid_gate _ hdenied hallowed
  recovery _ _ _ _ hbody := laid_recovery _ hbody
  idle := ⟨_, lays_noop, .single, by simp⟩
  sequence _ hne hparts := isSuite_suite ((LaidParts.ofForall hparts).stack hne)

/-- The handlers of units are laid, whatever names were given out before. -/
theorem laid_handlers
    (catalog : Catalog)
    {units : List HandlerUnit}
    (h : ∀ u ∈ units, UnitsAlike Eq (fun c c' => c = c' ∧ IsSuite c) u u)
    (tally : Tally) :
    ∀ c ∈ (dialect.handlers catalog units tally).1, Laid c := by
  refine Dialect.forall_handlers (fun u hu tally => ?_) tally
  have hu := h u hu
  refine laid_handler catalog hu.type u.guard (fun hnil => (hu.body hnil).2)
    (fun sub hsub => ?_) hu.slash tally
  exact (List.forall₂_same.1 hu.subcommands sub hsub).body.2

/-- The sections of a program are laid. -/
theorem laid_sections
    {catalog : Catalog}
    {mode : Traversal}
    {canvas : Canvas}
    (hcanvas : ∀ b ∈ canvas.blocks, HasTameCondition catalog b)
    {units : List HandlerUnit}
    (h : dialect.handlerUnits catalog mode canvas = .ok units) :
    ∀ c ∈ dialect.sections catalog canvas units, Laid c := by
  unfold Dialect.sections
  intro c hc
  rw [List.mem_append, List.mem_cons, List.mem_singleton] at hc
  rcases hc with (rfl | hc) | rfl
  · exact laid_header _
  · exact laid_handlers catalog (Dialect.units_of_keeps (keeps_laid catalog) hcanvas h) [] c hc
  · exact laid_footer (Dialect.commands catalog units)

/-! ## Sections with empty rows between them -/

/-- Empty rows have no logical line. -/
theorem lay_empty
    (opened : List Char)
    (column n : Nat) :
    lay opened column (List.replicate n []) = some ([], opened, column) := by
  induction n with
  | zero => rfl
  | succ n ih => exact ih

/-- Empty rows behind rows change nothing. -/
theorem lay_append_empty
    (rows : List Text)
    (opened : List Char)
    (column n : Nat) :
    lay opened column (rows ++ List.replicate n []) = lay opened column rows := by
  rw [lay_append]
  cases lay opened column rows with
  | none => rfl
  | some found => simp [lay_empty]

/-- Empty rows in front of rows change nothing. -/
theorem lay_empty_append
    (rows : List Text)
    (opened : List Char)
    (column n : Nat) :
    lay opened column (List.replicate n [] ++ rows) = lay opened column rows := by
  rw [lay_append, lay_empty]
  simp

/-- The rows of a text with line feeds at its end. -/
theorem splitOn_append_replicate
    (t : Text)
    (n : Nat) :
    Text.splitOn '\n' (t ++ List.replicate n '\n') =
      Text.splitOn '\n' t ++ List.replicate n [] := by
  induction n with
  | zero => simp
  | succ n ih =>
      rw [List.replicate_succ', ← List.append_assoc, Text.splitOn_append, ih]
      simp [Text.splitOn, List.replicate_succ', List.append_assoc]

/-- A section without the line feeds at its end has the logical lines of its code. -/
theorem lay_section
    {c : Code}
    {lines : List LogicalLine}
    (h : Lays c lines) :
    ∃ last, lay [] 0 (Text.splitOn '\n' (Text.stripEndChar '\n' (c.write spelling))) =
      some (lines, [], last) := by
  obtain ⟨last, hlay⟩ := h.lays
  obtain ⟨n, hn⟩ := Text.exists_stripEndChar_append '\n' (c.write spelling)
  rw [Code.rows, hn, splitOn_append_replicate, lay_append_empty] at hlay
  exact ⟨last, hlay⟩

/-- Sections with empty rows between them have the logical lines of the sections, in order. -/
theorem lay_join
    {sections : List Code}
    {layouts : List (List LogicalLine)}
    (h : List.Forall₂ Lays sections layouts) :
    ∃ last, lay [] 0 (Text.splitOn '\n' (Text.join sectionSeparator
      (sections.map fun c => Text.stripEndChar '\n' (c.write spelling)))) =
        some (layouts.flatten, [], last) := by
  unfold Text.join
  induction h with
  | nil => exact ⟨0, rfl⟩
  | @cons c lines rest layouts hc hrest ih =>
      obtain ⟨column, hcolumn⟩ := lay_section hc
      cases hrest with
      | nil =>
          refine ⟨column, ?_⟩
          simpa using hcolumn
      | cons hd hrest =>
          obtain ⟨last, hlast⟩ := ih
          obtain ⟨last', hlast'⟩ := lay_column hlast column
          refine ⟨last', ?_⟩
          have hgap : ∀ t u : Text, Text.splitOn '\n' (t ++ sectionSeparator ++ u) =
              Text.splitOn '\n' t ++ (List.replicate 2 [] ++ Text.splitOn '\n' u) := by
            intro t u
            rw [List.append_assoc]
            exact (Text.splitOn_append _ t _).trans (congrArg _ rfl)
          rw [List.map_cons] at hlast'
          rw [List.map_cons, List.map_cons, List.intercalate_cons_cons, hgap, lay_append, hcolumn,
            Option.bind_some]
          simp only [lay_empty_append, hlast']
          rfl

/-- A line feed at the end of a text changes nothing. -/
theorem logicalLines_append_lineFeed
    {t : Text}
    {lines : List LogicalLine}
    {last : Nat}
    (h : lay [] 0 (Text.splitOn '\n' t) = some (lines, [], last)) :
    logicalLines (t ++ ['\n']) = some lines := by
  have hrows := splitOn_append_replicate t 1
  rw [List.replicate_one] at hrows
  unfold logicalLines
  rw [hrows, lay_append_empty, h]

/-- The header has a statement. -/
theorem isBare_header
    (types : List String) :
    isBare ((header types).write spelling) = false := by
  obtain ⟨r, hr⟩ : ∃ r, (header types).write spelling = 'i' :: r := ⟨_, rfl⟩
  rw [hr]
  exact isBare_of_head 0 (by decide) (by decide) r

/--
The logical lines of a program are laid out well, whatever its blocks hold, if no condition that a
user spelled out has a line end, a bracket, a quote, a backslash or a hash.
-/
theorem wellLaid_program
    {catalog : Catalog}
    {mode : Traversal}
    {canvas : Canvas}
    (hcanvas : ∀ b ∈ canvas.blocks, HasTameCondition catalog b)
    {program : Text}
    (h : dialect.program catalog mode canvas = .ok program) :
    ∃ lines, logicalLines program = some lines ∧ WellLaid lines ∧ lines ≠ [] := by
  obtain ⟨units, hunits, rfl⟩ := Dialect.exists_units h
  obtain ⟨layouts, hlays, hlaid⟩ := LaidParts.ofForall (laid_sections hcanvas hunits)
  obtain ⟨last, hlast⟩ := lay_join hlays
  refine ⟨layouts.flatten, logicalLines_append_lineFeed hlast, hlaid, ?_⟩
  cases hlays with
  | cons hheader hrest =>
      intro hnil
      rw [List.flatten_cons, List.append_eq_nil_iff] at hnil
      have hbare := (isBare_header canvas.types).symm.trans hheader.isBare_write
      rw [hnil.1] at hbare
      cases hbare

/-- A canvas with a condition to respell and texts that look like statements. -/
def spelledCanvas : Canvas :=
  ⟨[⟨"1", "event_listener", .finite false 0, .finite false 0, [("event", .str "x:\n'")], "", ""⟩,
    ⟨"2", "if_condition", .finite false 0, .finite false 0,
      [("condition", .str "a === 1  && !b")], "", ""⟩,
    ⟨"3", "action_reply", .finite false 0, .finite false 1,
      [("content", .str "\"):\n  pass")], "", ""⟩],
   []⟩

set_option maxRecDepth 20000 in
/-- The program of that canvas is well laid. -/
theorem wellLaid_spelledCanvas :
    ∃ program lines, dialect.program .builtin .position spelledCanvas = .ok program ∧
      logicalLines program = some lines ∧ WellLaid lines ∧ lines ≠ [] := by
  have hflow : ∀ t, Flow.linearize .builtin .position spelledCanvas (some t) =
      (spelledCanvas.blocks.drop 1).map .plain :=
    fun t => (Flow.linearize_position_of_pairwise (by decide +kernel) (some t)).trans rfl
  have hprogram : (dialect.program .builtin .position spelledCanvas).toOption.isSome = true := by
    unfold Dialect.program Dialect.handlerUnits Dialect.handlerUnit Dialect.flowCode
    simp only [hflow]
    decide +kernel
  have hconditions : (spelledCanvas.blocks.all fun b =>
      (Text.strip ((Subject.mk .builtin b).valueOr "condition" (.str "True")).displayPresent).all
        fun c => c ∉ ['\n', '\r', '(', ')', '[', ']', '\x7b', '\x7d', '\x27', '\x22', '\\',
          '#']) = true := by
    decide +kernel
  have hcanvas : ∀ b ∈ spelledCanvas.blocks, HasTameCondition .builtin b := by
    intro b hb _ c hc
    exact of_decide_eq_true (List.all_eq_true.1 (List.all_eq_true.1 hconditions b hb) c hc)
  cases hp : dialect.program .builtin .position spelledCanvas with
  | error e => simp [hp, Except.toOption] at hprogram
  | ok program =>
      obtain ⟨lines, hlines⟩ := wellLaid_program hcanvas hp
      exact ⟨program, lines, rfl, hlines⟩

end BotCanvas.Offside
