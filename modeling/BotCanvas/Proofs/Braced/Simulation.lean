import BotCanvas.Catalog.Builtin
import BotCanvas.Proofs.Braced.Balance
import BotCanvas.Proofs.Braced.Control
import BotCanvas.Proofs.Program.Rows

/-!
# Programs run as their flows say

The statements of a flow, read row by row, are a program. For every outcome of its tests it runs
the rows of the flow's own run, which is told without the text: a block that does not branch runs
its rows, a choice runs one arm and goes on, a permission check that refuses runs the arm for it and
leaves, and one that permits runs the other arm and goes on.

The invariant is `Compiles`: a fragment keeps its kinds of rows at any depth, and the parser passes
over it and takes its statements along, whatever is open around it.
-/

namespace BotCanvas.Braced

open Lexis

/-! ## The run of a flow -/

/-- What a step does to a run, given the outcomes of tests. -/
abbrev Course := (Nat → Bool) → Run → Run

/-- Rows that are executed one after another. -/
def rowsCourse (texts : List Text) : Course :=
  fun _ r => texts.foldl (fun r row => r.line row) r

/-- The words of a row that tests a condition. -/
def testHead (condition : Text) : Text :=
  Text.squeeze ("if (".toList ++ (condition ++ ") \x7b".toList))

/-- The permission that a check asks for. -/
def permissionTest (s : Subject) : Text :=
  "interaction.".toList ++ (permissionSource s.block.type).toList ++
    "?.has(PermissionFlagsBits.".toList ++ permissionName (s.value "permission") ++ [')']

/-- The run of a flow, step by step. -/
def reference (catalog : Catalog) : Meaning Course where
  action b := do
    let code ← dialect.emitAction ⟨catalog, b⟩
    pure (rowsCourse ((code.rows spelling).map unindented))
  choice b yes no := fun outcomes r =>
    let holds := outcomes r.tests
    let asked := r.test (testHead ((condition ⟨catalog, b⟩).flatMap (Piece.write spelling))) holds
    if holds then yes outcomes asked else no outcomes asked
  gate b denied allowed := fun outcomes r =>
    let refused := outcomes r.tests
    let asked := r.test (testHead ('!' :: permissionTest ⟨catalog, b⟩)) refused
    if refused then ((denied.getD (rowsCourse [denial.write spelling])) outcomes asked).leave
    else (allowed.getD (rowsCourse [])) outcomes asked
  recovery _ body := body
  idle := rowsCourse [noop]
  sequence courses := fun outcomes r =>
    courses.foldl (fun r course => if r.left then r else course outcomes r) r

/-! ## Rows of code -/

/-- The kinds of the rows of code. -/
def kinds (c : Code) : List RowKind :=
  (c.rows spelling).map rowKind

/-- Code all rows of which are steady. -/
def IsSteadyCode (c : Code) : Prop :=
  ∀ row ∈ c.rows spelling, IsSteady row

theorem IsSteadyCode.stack
    {parts : List Code}
    (hne : parts ≠ [])
    (h : ∀ c ∈ parts, IsSteadyCode c) :
    IsSteadyCode (.stack parts) := by
  intro row hrow
  rw [Code.rows_stack hne, List.mem_flatMap] at hrow
  obtain ⟨c, hc, hrow⟩ := hrow
  exact h c hc row hrow

theorem IsSteadyCode.nest
    {c : Code}
    (h : IsSteadyCode c)
    (levels : Nat) :
    IsSteadyCode (.nest levels c) := by
  intro row hrow
  rw [Code.rows_nest (n := 2) rfl, List.mem_map] at hrow
  obtain ⟨inside, hinside, rfl⟩ := hrow
  exact (h inside hinside).indent _

/-- Rows keep their kinds at any depth. -/
theorem kinds_nest
    {c : Code}
    (h : IsSteadyCode c)
    (levels : Nat) :
    kinds (.nest levels c) = kinds c := by
  unfold kinds
  rw [Code.rows_nest (n := 2) rfl, List.map_map]
  exact List.map_congr_left fun row hrow => rowKind_indent (h row hrow) _

theorem kinds_stack
    {parts : List Code}
    (hne : parts ≠ []) :
    kinds (.stack parts) = parts.flatMap kinds := by
  unfold kinds
  rw [Code.rows_stack hne, List.map_flatMap]

/-! ## Fragments of programs -/

/--
A fragment of a program: indentation does not tear its rows apart, and the parser passes over them
and takes the statements along.
-/
structure Compiles (c : Code) (program : List Stmt) : Prop where
  steady : IsSteadyCode c
  parse : ∀ rest opened sofar,
    parseFrom (kinds c ++ rest) opened sofar = parseFrom rest opened (sofar ++ program)

namespace Compiles

variable {c : Code}
variable {program : List Stmt}

/-- Fragments compile at any depth. -/
theorem deeper
    (h : Compiles c program) :
    Compiles c.deeper program := by
  refine ⟨h.steady.nest 1, ?_⟩
  rw [Code.deeper, kinds_nest h.steady]
  exact h.parse

/-- The parser passes over fragments one after another. -/
theorem parse_flatMap
    {parts : List Code}
    {programs : List (List Stmt)}
    (h : List.Forall₂ Compiles parts programs)
    (rest : List RowKind)
    (opened : List (List Stmt × Frame))
    (sofar : List Stmt) :
    parseFrom (parts.flatMap kinds ++ rest) opened sofar =
      parseFrom rest opened (sofar ++ programs.flatten) := by
  induction h generalizing sofar with
  | nil => simp
  | cons hc _ ih =>
      rw [List.flatMap_cons, List.append_assoc, hc.parse, ih, List.flatten_cons, List.append_assoc]

/-- Fragments one under another. -/
theorem stack
    {parts : List Code}
    {programs : List (List Stmt)}
    (hne : parts ≠ [])
    (h : List.Forall₂ Compiles parts programs) :
    Compiles (.stack parts) programs.flatten := by
  refine ⟨IsSteadyCode.stack hne ?_, ?_⟩
  · exact forall_mem_of_forall₂ h.flip fun _ _ _ hc => hc.steady
  · rw [kinds_stack hne]
    exact parse_flatMap h

end Compiles

/-! ## Plain rows -/

/-- Characters that a text of a block may have: of the line ends only those that are escaped. -/
def isTame (c : Char) : Bool :=
  !Text.isLineBreak c || c == '\n' || c == '\r'

/-- A row without line ends that is a plain statement. -/
structure IsPlainRow (row : Text) : Prop where
  unbroken : ∀ c ∈ row, Text.isLineBreak c = false
  kind : rowKind row = .plain (unindented row)

/-- Plain rows are plain at any depth. -/
theorem IsPlainRow.indent
    {row : Text}
    (h : IsPlainRow row)
    (n : Nat) :
    IsPlainRow (Text.indent (List.replicate n ' ') row) := by
  obtain ⟨m, hm⟩ := exists_indent_eq h.unbroken n
  have hkind : rowKind (List.replicate m ' ' ++ row) = rowKind row := by
    unfold rowKind
    rw [unindented_append]
  rw [hm]
  refine ⟨?_, by rw [hkind, h.kind, unindented_append]⟩
  intro c hc
  rcases List.mem_append.1 hc with hc | hc
  · exact Text.unbroken_spaces m c hc
  · exact h.unbroken c hc

/-- An escaped text has characters of its own and those that escape them. -/
theorem mem_escape
    {t : Text}
    {c : Char}
    (h : c ∈ escape t) :
    c ∈ t ∨ c = '\\' ∨ c = 'r' ∨ c = 'n' := by
  fun_induction escape t with
  | case1 => simp at h
  | case2 d r hd ih =>
      simp only [List.mem_cons] at h ⊢
      rcases h with h | h | h
      · exact .inr (.inl h)
      · exact .inl (.inl h)
      · exact (ih h).imp_left .inr
  | case3 d r hd hdollar ih =>
      simp only [List.mem_cons] at h ⊢
      rcases h with h | h | h
      · exact .inr (.inl h)
      · exact .inl (.inl h)
      · exact (ih h).imp_left .inr
  | case4 r hd hdollar ih =>
      simp only [List.mem_cons] at h ⊢
      rcases h with h | h | h
      · exact .inr (.inl h)
      · exact .inr (.inr (.inl h))
      · exact (ih h).imp_left .inr
  | case5 r hd hdollar hreturn ih =>
      simp only [List.mem_cons] at h ⊢
      rcases h with h | h | h
      · exact .inr (.inl h)
      · exact .inr (.inr (.inr h))
      · exact (ih h).imp_left .inr
  | case6 d r hd hdollar hreturn hfeed ih =>
      simp only [List.mem_cons] at h ⊢
      rcases h with h | h
      · exact .inl (.inl h)
      · exact (ih h).imp_left .inr

/-- Nothing that fills a place of a row ends a line. -/
theorem unbroken_of_mayFill
    {x : Cell}
    {u : Text}
    (h : (writing true isTame).MayFill x u)
    (hx : x ≠ .condition) :
    ∀ c ∈ u, Text.isLineBreak c = false := by
  cases x with
  | char c => exact h.elim
  | condition => exact absurd rfl hx
  | remark => exact h
  | name =>
      intro c hc
      have hname : (lexis true).isNameChar c = true := h.2 c hc
      cases hbreak : Text.isLineBreak c with
      | false => rfl
      | true => simp [isNameChar, Text.isBlank_of_isLineBreak hbreak] at hname
  | literal =>
      obtain ⟨t, ht, rfl⟩ := h
      intro c hc
      cases hbreak : Text.isLineBreak c with
      | false => rfl
      | true =>
          exfalso
          rcases mem_escape hc with hmem | rfl | rfl | rfl
          · have htame : isTame c = true := ht c hmem
            simp only [isTame, hbreak, Bool.not_true, Bool.false_or, Bool.or_eq_true,
              beq_iff_eq] at htame
            exact not_mem_escape t htame hc
          · exact absurd hbreak (by decide)
          · exact absurd hbreak (by decide)
          · exact absurd hbreak (by decide)

/-- What a row holds besides spaces stays when those in front are dropped. -/
theorem mem_unindented
    {row : Text}
    {c : Char}
    (h : c ∈ row)
    (hc : c ≠ ' ') :
    c ∈ unindented row := by
  have hsplit := List.takeWhile_append_dropWhile (p := (· == ' ')) (l := row)
  rw [← hsplit, List.mem_append] at h
  rcases h with h | h
  · exact absurd (by simpa using List.mem_takeWhile_imp h) hc
  · exact h

/-- The last character of a row stays when the spaces in front are dropped. -/
theorem getLast?_unindented
    {row : Text}
    {c : Char}
    (h : row.getLast? = some c)
    (hc : c ≠ ' ') :
    (unindented row).getLast? = some c := by
  obtain ⟨body, rfl⟩ := List.getLast?_eq_some_iff.1 h
  obtain ⟨rest, hrest⟩ : ∃ rest, unindented (body ++ [c]) = rest ++ [c] := by
    unfold unindented
    induction body with
    | nil => exact ⟨[], by simp [hc]⟩
    | cons d body ih =>
        rw [List.cons_append, List.dropWhile_cons]
        split
        · exact ih (by simp)
        · exact ⟨d :: body, rfl⟩
  simp [hrest]

/-- A row that is no row of control flow is plain. -/
theorem rowKind_of_ne
    {row : Text}
    (htest : opensTest (unindented row) = false)
    (hrest : unindented row ∉ ["\x7d else \x7b".toList, "try \x7b".toList,
      "\x7d catch (error) \x7b".toList, "\x7d".toList, "return;".toList]) :
    rowKind row = .plain (unindented row) := by
  simp only [List.mem_cons, List.not_mem_nil, or_false, not_or] at hrest
  obtain ⟨h1, h2, h3, h4, h5⟩ := hrest
  unfold rowKind
  simp only
  rw [htest, if_neg (by simp), if_neg h1, if_neg h2, if_neg h3, if_neg h4, if_neg h5]

/-- A row that fills the shape of a plain row is one. -/
theorem isPlainRow_of_fills
    {s : List Cell}
    {row : Text}
    (h : (writing true isTame).Fills s row)
    (hs : isPlainShape s = true) :
    IsPlainRow row := by
  rw [isPlainShape, Bool.and_eq_true, List.all_eq_true, Bool.or_eq_true, Bool.and_eq_true] at hs
  obtain ⟨hcells, hends⟩ := hs
  refine ⟨h.forall_mem (fun c hc => by simpa using hcells _ hc) fun x hx u hu => ?_, ?_⟩
  · refine unbroken_of_mayFill hu ?_
    rintro rfl
    simpa using hcells _ hx
  · rcases hends with hremark | ⟨hlast, hinside⟩
    · -- a remark
      obtain ⟨rest, rfl⟩ := h.isPrefix (u := ['/', '/']) (List.isPrefixOf_iff_prefix.1 hremark)
      exact rowKind_of_ne (by simp [unindented, opensTest]) (by simp [unindented])
    · -- a statement: it does not end with a brace, and it has a call or an assignment
      cases hcell : s.getLast? with
      | none => simp [hcell] at hlast
      | some x =>
          cases x with
          | char c =>
              rw [hcell, Option.any_some, Bool.and_eq_true, Bool.and_eq_true, bne_iff_ne,
                bne_iff_ne, bne_iff_ne] at hlast
              obtain ⟨⟨hopen, hclose⟩, hspace⟩ := hlast
              have hend := getLast?_unindented (h.getLast? hcell) hspace
              refine rowKind_of_ne ?_ ?_
              · cases hopens : opensTest (unindented row) with
                | false => rfl
                | true =>
                    rw [opensTest, Bool.and_eq_true, List.isSuffixOf_iff_suffix] at hopens
                    obtain ⟨body, hbody⟩ := hopens.2
                    rw [← hbody, List.getLast?_append] at hend
                    exact absurd (Option.some.inj hend).symm hopen
              · intro hmem
                simp only [List.mem_cons, List.not_mem_nil, or_false] at hmem
                rcases hmem with hrow | hrow | hrow | hrow | hrow
                · rw [hrow] at hend
                  exact hopen (Option.some.inj hend).symm
                · rw [hrow] at hend
                  exact hopen (Option.some.inj hend).symm
                · rw [hrow] at hend
                  exact hopen (Option.some.inj hend).symm
                · rw [hrow] at hend
                  exact hclose (Option.some.inj hend).symm
                · rw [Bool.or_eq_true, List.contains_iff_mem, List.contains_iff_mem] at hinside
                  rcases hinside with hmark | hmark
                  · have hparen := mem_unindented (h.mem hmark) (by decide)
                    rw [hrow] at hparen
                    exact absurd hparen (by decide)
                  · have hequals := mem_unindented (h.mem hmark) (by decide)
                    rw [hrow] at hequals
                    exact absurd hequals (by decide)
          | _ => simp [hcell] at hlast

/-- All rows of statements are plain. -/
theorem isPlainRow_of_every
    {c : Code}
    (h : c.Every (IsStatement isTame)) :
    ∀ row ∈ c.rows spelling, IsPlainRow row := by
  induction h with
  | @line pieces h =>
      obtain ⟨hsuits, hform⟩ := h
      rw [isStatement, Bool.and_eq_true, formLeads, Bool.and_eq_true, Bool.and_eq_true,
        List.all_eq_true] at hform
      obtain ⟨⟨hreadable, -⟩, hplain, -⟩ := hform
      rw [List.all_eq_true] at hplain
      have hfills := Writing.Fills.write (w := writing true isTame)
        (List.all_eq_true.2 hreadable) hsuits
      have hplaces : ∀ x ∈ shape (pieces.map Piece.slot), ∀ u,
          (writing true isTame).MayFill x u → '\n' ∉ u := by
        intro x hx u hu hfeed
        have hcondition : x ≠ .condition := by
          rintro rfl
          obtain ⟨row, hrow, hmem⟩ := exists_row_of_mem hx (by simp)
          have hcells := hplain row hrow
          rw [isPlainShape, Bool.and_eq_true, List.all_eq_true] at hcells
          simpa using hcells.1 _ hmem
        exact absurd (unbroken_of_mayFill hu hcondition '\n' hfeed) (by decide)
      rw [Code.rows, Code.write]
      exact forall_mem_of_forall₂ (hfills.rows hplaces) fun s hs row hrow =>
        isPlainRow_of_fills hrow (hplain s hs)
  | @stack parts hne _ ih =>
      rw [Code.rows_stack hne]
      intro row hrow
      obtain ⟨c, hc, hrow⟩ := List.mem_flatMap.1 hrow
      exact ih c hc row hrow

/-- Plain rows are passed over as plain statements. -/
theorem parseFrom_plain
    (texts : List Text)
    (rest : List RowKind)
    (opened : List (List Stmt × Frame))
    (sofar : List Stmt) :
    parseFrom (texts.map .plain ++ rest) opened sofar =
      parseFrom rest opened (sofar ++ texts.map .plain) := by
  induction texts generalizing sofar with
  | nil => simp
  | cons t texts ih =>
      rw [List.map_cons, List.cons_append, parseFrom, ih, List.map_cons, List.append_assoc,
        List.singleton_append]

/-- Code all rows of which are plain compiles to its rows. -/
theorem Compiles.ofPlain
    {c : Code}
    (h : ∀ row ∈ c.rows spelling, IsPlainRow row) :
    Compiles c (((c.rows spelling).map unindented).map .plain) := by
  refine ⟨fun row hrow => .inl (h row hrow).unbroken, fun rest opened sofar => ?_⟩
  have hkinds : kinds c = ((c.rows spelling).map unindented).map .plain := by
    rw [kinds, List.map_map]
    exact List.map_congr_left fun row hrow => (h row hrow).kind
  rw [hkinds, parseFrom_plain]

/-- Code that compiles to what a course does. -/
def Follows (c : Code) (course : Course) : Prop :=
  ∃ program, Compiles c program ∧
    ∀ outcomes r, r.left = false → runAll outcomes program r = course outcomes r

/-- Plain rows follow the course of their rows. -/
theorem follows_plain
    {c : Code}
    (h : ∀ row ∈ c.rows spelling, IsPlainRow row) :
    Follows c (rowsCourse ((c.rows spelling).map unindented)) :=
  ⟨_, .ofPlain h, fun _ _ hleft => runAll_plain _ hleft⟩

/-- A row of the program's own text, of a given kind. -/
structure IsRow (c : Code) (k : RowKind) : Prop where
  steady : IsSteadyCode c
  kinds : kinds c = [k]

/-- A row without line ends is of the kind that it is at no depth. -/
theorem isRow_of_unbroken
    {c : Code}
    {k : RowKind}
    (hbreak : ((c.write spelling).all fun c => !Text.isLineBreak c) = true)
    (hkind : rowKind (c.write spelling) = k) :
    IsRow c k := by
  have hunbroken := Text.unbroken_of_all hbreak
  have hrows : c.rows spelling = [c.write spelling] :=
    Code.rows_of_not_mem fun hfeed => absurd (hunbroken '\n' hfeed) (by decide)
  refine ⟨?_, by rw [kinds, hrows, List.map_singleton, hkind]⟩
  unfold IsSteadyCode
  rw [hrows]
  exact List.forall_mem_singleton.2 (.inl hunbroken)

/-- A row that tests a condition. -/
theorem isRow_test
    {c : Code}
    {t : Text}
    (hwrite : c.write spelling = "if (".toList ++ (t ++ ") \x7b".toList))
    (ht : '\n' ∉ t) :
    IsRow c (.test (testHead t)) := by
  have htest : IsTestRow (c.write spelling) := ⟨0, t, ht, hwrite⟩
  have hrows : c.rows spelling = [c.write spelling] := by
    refine Code.rows_of_not_mem ?_
    rw [hwrite]
    simp [ht]
  refine ⟨?_, by rw [kinds, hrows, List.map_singleton, rowKind_of_isTestRow htest, hwrite]; rfl⟩
  unfold IsSteadyCode
  rw [hrows]
  exact List.forall_mem_singleton.2 (.inr htest)

theorem IsRow.deeper
    {c : Code}
    {k : RowKind}
    (h : IsRow c k) :
    IsRow c.deeper k :=
  ⟨h.steady.nest 1, by rw [Code.deeper, kinds_nest h.steady, h.kinds]⟩

/-- A single plain row. -/
theorem follows_row
    {c : Code}
    {t : Text}
    (h : IsRow c (.plain t)) :
    Follows c (rowsCourse [t]) := by
  refine ⟨[.plain t], ⟨h.steady, fun rest opened sofar => ?_⟩, fun _ _ hleft => ?_⟩
  · rw [h.kinds]
    rfl
  · exact runAll_plain [t] hleft

section Branches

-- rows are decided character by character
set_option maxRecDepth 20000

variable {catalog : Catalog}
variable {b : Block}

theorem isRow_noop :
    IsRow dialect.noopCode (.plain noop) :=
  isRow_of_unbroken (by decide) (by decide)

theorem isRow_denial :
    IsRow denial (.plain (denial.write spelling)) :=
  isRow_of_unbroken (by decide) (by decide)

theorem isRow_otherwise :
    IsRow "\x7d else \x7b" .otherwise :=
  isRow_of_unbroken (by decide) (by decide)

theorem isRow_close :
    IsRow "\x7d" .close :=
  isRow_of_unbroken (by decide) (by decide)

theorem isRow_leave :
    IsRow "return;" .leave :=
  isRow_of_unbroken (by decide) (by decide)

theorem isRow_attempt :
    IsRow "try \x7b" .attempt :=
  isRow_of_unbroken (by decide) (by decide)

theorem isRow_rescue :
    IsRow "\x7d catch (error) \x7b" .rescue :=
  isRow_of_unbroken (by decide) (by decide)

/-- A choice runs one of its arms. -/
theorem follows_choice
    {yes no : Code}
    {yesCourse noCourse : Course}
    (hcondition : '\n' ∉ (condition ⟨catalog, b⟩).flatMap (Piece.write spelling))
    (hyes : Follows yes yesCourse)
    (hno : Follows no noCourse) :
    Follows (choice ⟨catalog, b⟩ yes no) ((reference catalog).choice b yesCourse noCourse) := by
  obtain ⟨yesProgram, hyes, hyesRun⟩ := hyes
  obtain ⟨noProgram, hno, hnoRun⟩ := hno
  have hhead := isRow_test (c := .line ("if (" :: (condition ⟨catalog, b⟩ ++ [.code ") \x7b"])))
    (by simp [Code.write, Piece.write]) hcondition
  refine ⟨[.test (testHead ((condition ⟨catalog, b⟩).flatMap (Piece.write spelling)))
    yesProgram noProgram], ⟨?_, fun rest opened sofar => ?_⟩, fun outcomes r hleft => ?_⟩
  · refine IsSteadyCode.stack (by simp) ?_
    simp only [List.forall_mem_cons]
    exact ⟨hhead.steady, hyes.deeper.steady, isRow_otherwise.steady, hno.deeper.steady,
      isRow_close.steady, by simp⟩
  · rw [choice, kinds_stack (by simp)]
    simp only [List.flatMap_cons, List.flatMap_nil, hhead.kinds, isRow_otherwise.kinds,
      isRow_close.kinds, List.append_assoc, List.cons_append, List.nil_append, parseFrom,
      hyes.deeper.parse, hno.deeper.parse]
  · rw [runAll_singleton _ hleft, run]
    simp only [reference]
    cases outcomes r.tests with
    | true => exact hyesRun outcomes _ hleft
    | false => exact hnoRun outcomes _ hleft

/-- The text of a permission check has no line feed. -/
theorem lineFeed_not_mem_permissionTest
    (s : Subject) :
    '\n' ∉ permissionTest s := by
  have hname := isName_permissionName (s.value "permission")
  unfold permissionTest
  simp only [List.mem_append, not_or]
  refine ⟨⟨⟨⟨by decide, ?_⟩, by decide⟩, hname.lineFeed_not_mem⟩, by decide⟩
  unfold permissionSource
  split <;> decide

/-- The row of a permission check tests that the permission is missing. -/
theorem write_gate_head
    (s : Subject) :
    (Code.line ["if (!interaction.", .code (permissionSource s.block.type),
        "?.has(PermissionFlagsBits.", .name (permissionName (s.value "permission")),
        ")) \x7b"]).write spelling =
      "if (".toList ++ ('!' :: permissionTest s ++ ") \x7b".toList) := by
  have hopen : "if (!interaction.".toList = "if (".toList ++ '!' :: "interaction.".toList := by
    decide
  have hclose : ")) \x7b".toList = ')' :: ") \x7b".toList := by
    decide
  rw [Code.write]
  unfold permissionTest
  simp only [List.flatMap_cons, List.flatMap_nil, Piece.write, hopen, hclose, List.append_assoc,
    List.cons_append, List.nil_append, List.append_nil]

/-- A permission check leaves behind the arm for a refusal, and else goes on. -/
theorem follows_gate
    {denied allowed : Option Code}
    {deniedCourse allowedCourse : Option Course}
    (hdenied : Option.Rel Follows denied deniedCourse)
    (hallowed : Option.Rel Follows allowed allowedCourse) :
    Follows (gate ⟨catalog, b⟩ denied allowed)
      ((reference catalog).gate b deniedCourse allowedCourse) := by
  have hhead : IsRow (.line ["if (!interaction.", .code (permissionSource b.type),
      "?.has(PermissionFlagsBits.",
      .name (permissionName ((Subject.mk catalog b).value "permission")), ")) \x7b"])
      (.test (testHead ('!' :: permissionTest ⟨catalog, b⟩))) :=
    isRow_test (write_gate_head ⟨catalog, b⟩)
      (by simpa using lineFeed_not_mem_permissionTest ⟨catalog, b⟩)
  obtain ⟨deniedProgram, hdeniedCode, hdeniedRun⟩ : Follows (denied.getD denial)
      (deniedCourse.getD (rowsCourse [denial.write spelling])) := by
    cases hdenied with
    | some h => exact h
    | none => exact follows_row isRow_denial
  obtain ⟨programs, hallowedCode, hallowedRun⟩ : ∃ programs,
      List.Forall₂ Compiles allowed.toList programs ∧
      ∀ outcomes r, r.left = false → runAll outcomes programs.flatten r =
        (allowedCourse.getD (rowsCourse [])) outcomes r := by
    cases hallowed with
    | some h =>
        obtain ⟨program, hprogram, hrun⟩ := h
        exact ⟨[program], .cons hprogram .nil, by simpa using hrun⟩
    | none => exact ⟨[], .nil, fun _ _ _ => rfl⟩
  have hsteady : ∀ c ∈ allowed.toList, IsSteadyCode c := by
    intro c hc
    exact forall_mem_of_forall₂ hallowedCode.flip (fun _ _ _ h => h.steady) c hc
  refine ⟨.test (testHead ('!' :: permissionTest ⟨catalog, b⟩)) (deniedProgram ++ [.leave]) [] ::
    programs.flatten, ⟨?_, fun rest opened sofar => ?_⟩, fun outcomes r hleft => ?_⟩
  · refine IsSteadyCode.stack (by simp) ?_
    simp only [List.forall_mem_cons]
    exact ⟨hhead.steady, hdeniedCode.deeper.steady, isRow_leave.deeper.steady, isRow_close.steady,
      hsteady⟩
  · have hallowedParse : ∀ sofar, parseFrom (allowed.toList.flatMap kinds ++ rest) opened sofar =
        parseFrom rest opened (sofar ++ programs.flatten) :=
      Compiles.parse_flatMap hallowedCode rest opened
    rw [gate, kinds_stack (by simp)]
    simp only [List.flatMap_cons, hhead.kinds, isRow_leave.deeper.kinds, isRow_close.kinds,
      List.append_assoc, List.cons_append, List.nil_append, parseFrom, hdeniedCode.deeper.parse,
      hallowedParse]
  · rw [runAll, hleft, run]
    simp only [reference]
    cases outcomes r.tests with
    | true =>
        have hdenied := hdeniedRun outcomes
          (r.test (testHead ('!' :: permissionTest ⟨catalog, b⟩)) true) hleft
        simp only [Bool.false_eq_true, if_false, if_true, runAll_append, hdenied]
        rw [runAll_leave, runAll_of_left _ (Run.left_leave _)]
    | false => exact hallowedRun outcomes _ hleft

/-- What runs after an error is a plain row, whether or not it is logged. -/
theorem exists_compiles_onError
    {s : Subject}
    (hs : s.Speaks isTame) :
    ∃ program, Compiles (if s.flag "logToConsole" then
      .line ["console.error('", s.literal "errorMessage", "', error);"] else .written noop)
      program := by
  split
  · have hplain : ∀ row ∈ Code.rows spelling (.line
        ["console.error('", s.literal "errorMessage", "', error);"]), IsPlainRow row := by
      refine isPlainRow_of_every (.line ⟨?_, ?_⟩)
      · simp [hs.suits]
      · simp
        decide
    exact ⟨_, .ofPlain hplain⟩
  · obtain ⟨program, hprogram, -⟩ := follows_row isRow_noop
    exact ⟨program, hprogram⟩

/-- A guarded body runs, and nothing after it. -/
theorem follows_recovery
    {body : Code}
    {course : Course}
    (hs : (Subject.mk catalog b).Speaks isTame)
    (hbody : Follows body course) :
    Follows (recovery ⟨catalog, b⟩ body) ((reference catalog).recovery b course) := by
  obtain ⟨program, hprogram, hrun⟩ := hbody
  obtain ⟨onError, honError⟩ := exists_compiles_onError hs
  refine ⟨[.attempt program onError], ⟨?_, fun rest opened sofar => ?_⟩, fun outcomes r hleft => ?_⟩
  · refine IsSteadyCode.stack (by simp) ?_
    simp only [List.forall_mem_cons]
    exact ⟨isRow_attempt.steady, hprogram.deeper.steady, isRow_rescue.steady,
      honError.deeper.steady, isRow_close.steady, by simp⟩
  · rw [recovery, kinds_stack (by simp)]
    simp only [List.flatMap_cons, List.flatMap_nil, isRow_attempt.kinds, isRow_rescue.kinds,
      isRow_close.kinds, List.append_assoc, List.cons_append, List.nil_append, parseFrom,
      hprogram.deeper.parse, honError.deeper.parse]
  · rw [runAll_singleton _ hleft, run]
    exact hrun outcomes r hleft

/-- Steps one after another run one after another, until one leaves the handler. -/
theorem follows_sequence
    {codes : List Code}
    {courses : List Course}
    (hne : codes ≠ [])
    (h : List.Forall₂ Follows codes courses) :
    Follows (.stack codes) ((reference catalog).sequence courses) := by
  obtain ⟨programs, hprograms, hrun⟩ : ∃ programs, List.Forall₂ Compiles codes programs ∧
      ∀ outcomes r, runAll outcomes programs.flatten r =
        (reference catalog).sequence courses outcomes r := by
    clear hne
    induction h with
    | nil => exact ⟨[], .nil, fun _ _ => rfl⟩
    | @cons code course codes courses hcode _ ih =>
        obtain ⟨program, hprogram, hrun⟩ := hcode
        obtain ⟨programs, hprograms, hruns⟩ := ih
        refine ⟨program :: programs, .cons hprogram hprograms, fun outcomes r => ?_⟩
        rw [List.flatten_cons, runAll_append, hruns]
        show _ = courses.foldl _ (if r.left then r else course outcomes r)
        cases hleft : r.left with
        | true => rw [runAll_of_left _ hleft]; rfl
        | false => rw [hrun outcomes r hleft]; rfl
  exact ⟨programs.flatten, .stack hne hprograms, fun outcomes r _ => hrun outcomes r⟩

end Branches

/-- A block whose texts have no line ends but those that are escaped, and whose condition, if it
spells one out, is on one line. -/
structure IsOneLined (catalog : Catalog) (b : Block) : Prop where
  stored : ∀ p ∈ b.properties, ∀ c ∈ p.2.display, isTame c = true
  default : ∀ d, catalog.lookup? b.type = some d → ∀ q ∈ d.properties,
    ∀ c ∈ q.default.display, isTame c = true
  condition : b.type = "if_condition" →
    '\n' ∉ Text.strip ((Subject.mk catalog b).valueOr "condition" (.str "true")).display

namespace IsOneLined

variable {catalog : Catalog}
variable {b : Block}

theorem speaks
    (h : IsOneLined catalog b) :
    (Subject.mk catalog b).Speaks isTame := by
  refine .ofValues (fun c hlow hhigh => ?_)
    (fun key v hv => h.stored (key, v) (mem_of_getField? hv)) h.default
  have hbreak : Text.isLineBreak c = false := by
    simp only [Text.isLineBreak, Bool.or_eq_false_iff, Bool.and_eq_false_iff,
      decide_eq_false_iff_not, beq_eq_false_iff_ne]
    omega
  simp [isTame, hbreak]

end IsOneLined

/-- Code and the run of its flow agree, step by step. -/
theorem agree_reference
    (catalog : Catalog) :
    (dialect.codeMeaning catalog).Agree (reference catalog)
      (fun b b' => b = b' ∧ IsOneLined catalog b) Follows Follows where
  type := by
    rintro b _ ⟨rfl, -⟩
    rfl
  action := by
    rintro b _ ⟨rfl, hb⟩ -
    have hgives : Emit.Gives (fun c : Code => c.Every (IsStatement isTame))
        (dialect.emitAction ⟨catalog, b⟩) :=
      .of_alike (emitAction_alike (.refl _ _) hb.speaks) fun c hc => hc.2
    have hbind : dialect.emitAction ⟨catalog, b⟩ = dialect.emitAction ⟨catalog, b⟩ >>= pure :=
      (bind_pure _).symm
    show Emit.Alike Follows (dialect.emitAction ⟨catalog, b⟩) _
    rw [hbind]
    refine Emit.Alike.bind hgives fun c _ hc => ?_
    obtain ⟨rfl, hc⟩ := hc
    exact .pure (follows_plain (isPlainRow_of_every hc))
  choice := by
    rintro b _ ⟨rfl, hb⟩ hway yes yes' no no' hyes hno
    exact follows_choice (lineFeed_not_mem_condition hway hb.condition) hyes hno
  gate := by
    rintro b _ ⟨rfl, -⟩ - denied denied' allowed allowed' hdenied hallowed
    exact follows_gate hdenied hallowed
  recovery := by
    rintro b _ ⟨rfl, hb⟩ - body body' hbody
    exact follows_recovery hb.speaks hbody
  idle := follows_row isRow_noop
  sequence := fun _ _ hne h => follows_sequence hne h

/--
The statements of a flow, however deep, are a program. For every outcome of its tests it executes
the rows of the flow's own run, asks for the same tests, and leaves the handler where that run does.
-/
theorem runs_as_flow
    {catalog : Catalog}
    {steps : List Step}
    (hsteps : ∀ b ∈ Flow.blocks steps, IsOneLined catalog b)
    {σ σ' : Scope}
    {code : Code}
    (h : (dialect.emitFlow catalog steps).run.run σ = (.ok code, σ')) :
    ∃ program course, parse (code.write spelling) = some program ∧
      ((reference catalog).flow steps).run.run σ = (.ok course, σ') ∧
      ∀ outcomes, runAll outcomes program .start = course outcomes .start := by
  have halike := (agree_reference catalog).flow_alike (stepsAlike_self steps hsteps)
  rw [← Dialect.emitFlow_eq] at halike
  obtain ⟨hscope, hmatches⟩ := halike σ
  rw [h] at hscope hmatches
  rcases hrun : ((reference catalog).flow steps).run.run σ with ⟨result, scope⟩
  rw [hrun] at hscope hmatches
  obtain rfl : σ' = scope := hscope
  cases result with
  | error e => exact hmatches.elim
  | ok course =>
      obtain ⟨program, hprogram, hfollows⟩ := hmatches
      refine ⟨program, course, ?_, rfl, fun outcomes => hfollows outcomes .start rfl⟩
      have hparse := hprogram.parse [] [] []
      rwa [List.append_nil] at hparse

/-- No default of the built-in catalog has line ends that are not escaped. -/
theorem isTame_builtin
    (type : String) :
    ∀ d, Catalog.builtin.lookup? type = some d → ∀ q ∈ d.properties,
      ∀ c ∈ q.default.display, isTame c = true := by
  have hall : (Catalog.builtin.entries.all fun e =>
      e.2.properties.all fun q => q.default.display.all isTame) = true := by
    decide
  intro d hd q hq
  have hentry := List.all_eq_true.1 hall (type, d) (mem_of_getField? hd)
  exact List.all_eq_true.1 (List.all_eq_true.1 hentry q hq)

/-- A ban behind a condition and a permission check, and a reply behind both. -/
def moderationSteps : List Step :=
  [.mk ⟨"1", "if_condition", .finite false 0, .finite false 0, [("condition", .str "a > 1")], "", ""⟩
    [("true", [.mk ⟨"2", "check_permissions", .finite false 0, .finite false 0,
      [("permission", .str "BanMembers")], "", ""⟩
      [("true", [.plain ⟨"3", "action_ban", .finite false 0, .finite false 0,
        [("reason", .str "\x7d\nreturn;")], "", ""⟩])]])],
   .plain ⟨"4", "action_reply", .finite false 0, .finite false 0, [("content", .str "if (x) \x7b")],
     "", ""⟩]

/-- The statements of that flow run as it says. -/
theorem runs_as_moderationSteps :
    ∃ code σ program course,
      (dialect.emitFlow .builtin moderationSteps).run.run .empty = (.ok code, σ) ∧
      parse (code.write spelling) = some program ∧
      ((reference .builtin).flow moderationSteps).run.run .empty = (.ok course, σ) ∧
      ∀ outcomes, runAll outcomes program .start = course outcomes .start := by
  have hsteps : ∀ b ∈ Flow.blocks moderationSteps, IsOneLined .builtin b := by
    have hstored : ((Flow.blocks moderationSteps).all fun b =>
        b.properties.all fun p => p.2.display.all isTame) = true := by
      decide
    have hcondition : ((Flow.blocks moderationSteps).all fun b =>
        !(Text.strip ((Subject.mk .builtin b).valueOr "condition" (.str "true")).display).contains
          '\n') = true := by
      decide
    intro b hb
    refine ⟨fun p hp => ?_, isTame_builtin b.type, fun _ => ?_⟩
    · exact List.all_eq_true.1 (List.all_eq_true.1 (List.all_eq_true.1 hstored b hb) p hp)
    · simpa using List.all_eq_true.1 hcondition b hb
  obtain ⟨program, course, hprogram⟩ := runs_as_flow hsteps
    (show (dialect.emitFlow .builtin moderationSteps).run.run .empty = (.ok _, _) from rfl)
  exact ⟨_, _, program, course, rfl, hprogram⟩

end BotCanvas.Braced
