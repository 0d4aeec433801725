import BotCanvas.Proofs.Braced.Program
import BotCanvas.Proofs.Program.Splicing

/-!
# Skeletons of programs in the language with braces

A text that a block splices into its code stays inside its literal, and no escaped text shows in a
skeleton. So statements, branches and handlers of blocks that differ in such texts are twins, and
the language is sound as a splicing (`sound_splicing`).
-/

namespace BotCanvas.Braced

open Lexis

/-- An escaped text does not show in any literal. -/
theorem conceals :
    (lexis false).Conceals spelling := by
  intro q _ t
  change (lexis false).skeletonFrom (.literal q) (escape t) = []
  fun_induction escape t with
  | case1 => rfl
  | case2 c r h ih => rw [skeletonFrom_escape, ih]
  | case3 c r h hdollar ih => rw [skeletonFrom_escape, ih]
  | case4 r h hdollar ih => rw [skeletonFrom_escape, ih]
  | case5 r h hdollar hreturn ih => rw [skeletonFrom_escape, ih]
  | case6 c r h hdollar hreturn hfeed ih =>
      simp only [not_or] at h
      have hmark : c ≠ q.mark := by
        cases q with
        | single => exact h.2.1
        | double => exact h.2.2.1
        | backtick => exact h.2.2.2
      rw [skeletonFrom_body h.1 hmark, ih]

theorem unbracketed_lexis :
    (lexis true).unbracketed = lexis false :=
  rfl

/-- Code that is written as twins in the language with braces. -/
abbrev Twin (c c' : Code) : Prop :=
  TwinCode (lexis false) spelling c c'

section Lines

set_option maxRecDepth 20000

variable {parts parts' : List Code}

theorem twin_line
    {pieces pieces' : List Piece}
    (hblank : pieces'.map Piece.blank = pieces.map Piece.blank)
    (hsuits : ∀ x ∈ pieces, x.Suits (lexis true) fun _ => true)
    (hform : (lexis false).formLeads (pieces.map Piece.slot) [] [] = true) :
    Twin (.line pieces) (.line pieces') :=
  .line encloses conceals hblank (fun x hx => suits_unbracketed (hsuits x hx)) hform

/-- A line of the program itself is its own twin. -/
theorem twin_code
    (s : String)
    (hform : (lexis false).formLeads [.code s] [] [] = true) :
    Twin (.line [.code s]) (.line [.code s]) :=
  twin_line rfl (by simp) hform

theorem twin_nest
    {c c' : Code}
    (h : Twin c c')
    (levels : Nat) :
    Twin (.nest levels c) (.nest levels c') :=
  .nest isSpaced_spelling levels h

theorem twin_refl
    {c : Code}
    (h : Balanced c) :
    Twin c c :=
  Twins.refl h.unbracketed

/-- Statements that are the same up to texts in literals are twins. -/
theorem twin_statements
    {c c' : Code}
    (h : Code.Same (IsStatement fun _ => true) c c') :
    Twin c c' := by
  refine .ofSame encloses conceals (fun pieces hpieces => ?_) h
  obtain ⟨hsuits, hform⟩ := hpieces
  rw [isStatement, Bool.and_eq_true] at hform
  have hleads := formLeads_unbracketed hform.1
  rw [unbracketed_lexis] at hleads
  exact ⟨fun x hx => suits_unbracketed (hsuits x hx), hleads⟩

/-- Twins do nothing together. -/
theorem isNoop_twin
    {c c' : Code}
    (h : Twin c c') :
    isNoop c' = isNoop c :=
  h.amountsTo (by decide)

/-- How the language with braces splices texts in. -/
def splicing : Splicing :=
  ⟨dialect, lexis false, textKeys⟩

/-! ## Branches -/

/-- The test of a choice with a condition that a user spelled out is its own twin. -/
theorem twin_condition
    {t : Text}
    (h : ∀ c ∈ t, c ∉ literalMarks) :
    Twin (.line ["if (", .condition t, ") \x7b"]) (.line ["if (", .condition t, ") \x7b"]) := by
  have hsuits : (Piece.condition t).Suits (lexis false) fun _ => true := by
    rw [← unbracketed_lexis]
    exact suits_of_unmarked h
  exact .line encloses conceals rfl (by simpa using hsuits) (by simp; decide)

/-- The tests of related choices differ in a literal at most. -/
theorem twin_test
    {catalog : Catalog}
    {b b' : Block}
    (htype : Flow.branching? b.type = some .choice)
    (hb : HasUnmarkedCondition catalog b)
    (h : Subject.Alike (splicing.keysOf b.type) ⟨catalog, b⟩ ⟨catalog, b'⟩) :
    Twin (.line ("if (" :: (condition ⟨catalog, b⟩ ++ [.code ") \x7b"])))
      (.line ("if (" :: (condition ⟨catalog, b'⟩ ++ [.code ") \x7b"]))) := by
  unfold condition
  rw [h.type]
  split
  · exact twin_line rfl (by simp [(Subject.Speaks.any _).suits]) (by simp; decide)
  · split
    · have hname := isName_permissionName ((Subject.mk catalog b).value "permission")
      rw [h.value "permission" (Splicing.not_mem_keysOf (by decide) _)]
      exact twin_line rfl (by simpa using hname) (by simp; decide)
    · -- the one property that is taken over as code
      rename_i hrole hpermission
      rw [h.valueOr "condition" _ (Splicing.not_mem_keysOf (by decide) _)]
      have hcondition := Flow.type_of_choice htype hrole hpermission
      have hmarks := hb.valueOr hcondition (.str "true") (by decide)
      have hspelled : ∀ c ∈ (if (Text.strip ((Subject.mk catalog b).valueOr "condition"
            (.str "true")).display).isEmpty then "true".toList
          else Text.strip ((Subject.mk catalog b).valueOr "condition" (.str "true")).display),
          c ∉ literalMarks := by
        split
        · have htrue : ("true".toList.all fun c => c ∉ literalMarks) = true := by decide
          exact fun c hc => of_decide_eq_true (List.all_eq_true.1 htrue c hc)
        · exact fun c hc => hmarks c (Text.mem_of_mem_stripBy hc)
      exact twin_condition hspelled

theorem twin_choice
    {catalog : Catalog}
    {b b' : Block}
    (htype : Flow.branching? b.type = some .choice)
    (hb : HasUnmarkedCondition catalog b)
    (h : Subject.Alike (splicing.keysOf b.type) ⟨catalog, b⟩ ⟨catalog, b'⟩)
    {yes yes' no no' : Code}
    (hyes : Twin yes yes')
    (hno : Twin no no') :
    Twin (choice ⟨catalog, b⟩ yes no) (choice ⟨catalog, b'⟩ yes' no') := by
  refine .stack (by simp) (.cons (twin_test htype hb h) (.cons (twin_nest hyes 1) ?_))
  refine .cons (twin_code _ (by decide)) (.cons (twin_nest hno 1) ?_)
  exact .cons (twin_code _ (by decide)) .nil

theorem twin_gate
    {s s' : Subject}
    (h : Subject.Alike (splicing.keysOf s.block.type) s s')
    {denied denied' allowed allowed' : Option Code}
    (hdenied : Option.Rel Twin denied denied')
    (hallowed : Option.Rel Twin allowed allowed') :
    Twin (gate s denied allowed) (gate s' denied' allowed') := by
  have hname := isName_permissionName (s.value "permission")
  have hanswer : Twin (denied.getD denial) (denied'.getD denial) := by
    cases hdenied with
    | none => exact twin_refl balanced_denial
    | some hcode => exact hcode
  have hrest : List.Forall₂ Twin allowed.toList allowed'.toList := by
    cases hallowed with
    | none => exact .nil
    | some hcode => exact .cons hcode .nil
  unfold gate
  rw [h.type, h.value "permission" (Splicing.not_mem_keysOf (by decide) _)]
  refine .stack (by simp) (.cons (twin_line rfl (by simpa using hname) ?_) ?_)
  · unfold permissionSource
    split <;> simp <;> decide
  · refine .cons (twin_nest hanswer 1) (.cons (twin_nest (twin_code _ (by decide)) 1) ?_)
    exact .cons (twin_code _ (by decide)) hrest

theorem twin_recovery
    {s s' : Subject}
    (h : Subject.Alike (splicing.keysOf s.block.type) s s')
    {body body' : Code}
    (hbody : Twin body body') :
    Twin (recovery s body) (recovery s' body') := by
  have herror : Twin
      (if s.flag "logToConsole" then
        .line ["console.error('", s.literal "errorMessage", "', error);"]
      else .written noop)
      (if s.flag "logToConsole" then
        .line ["console.error('", s'.literal "errorMessage", "', error);"]
      else .written noop) := by
    split
    · exact twin_line rfl (by simp [(Subject.Speaks.any s).suits]) (by simp; decide)
    · exact twin_refl balanced_noop
  unfold recovery
  rw [h.flag "logToConsole" (Splicing.not_mem_keysOf (by decide) _)]
  refine .stack (by simp) (.cons (twin_code _ (by decide)) (.cons (twin_nest hbody 1) ?_))
  refine .cons (twin_code _ (by decide)) (.cons (twin_nest herror 1) ?_)
  exact .cons (twin_code _ (by decide)) .nil

/-- Emission makes twins of blocks that differ in a text that is spliced in, step by step. -/
theorem agree_twin
    (catalog : Catalog) :
    (dialect.codeMeaning catalog).Agree (dialect.codeMeaning catalog)
      (fun b b' => splicing.Respliced b b' ∧ HasUnmarkedCondition catalog b) Twin Twin where
  type _ _ hb := hb.1.type_eq
  action b b' hb hway := by
    have halike : Subject.Alike (textKeysOf b.type) ⟨catalog, b⟩ ⟨catalog, b'⟩ :=
      hb.1.alike_of_action hway catalog
    exact (emitAction_alike halike (.any _)).mono fun _ _ hcode => twin_statements hcode
  choice _ _ hb hway _ _ _ _ hyes hno := twin_choice hway hb.2 (hb.1.alike catalog) hyes hno
  gate _ _ hb _ _ _ _ _ hdenied hallowed := twin_gate (hb.1.alike catalog) hdenied hallowed
  recovery _ _ hb _ _ _ hbody := twin_recovery (hb.1.alike catalog) hbody
  idle := twin_refl balanced_noop
  sequence _ _ hne hparts := .stack hne hparts

/-! ## Handlers -/

theorem twin_guarded
    (label : Text)
    {body body' : Code}
    (hbody : Twin body body')
    (reply : Bool) :
    Twin (guarded label body reply) (guarded label body' reply) := by
  have hreply : List.Forall₂ Twin ((if reply then replyLines else []) ++ [("\x7d" : Code)])
      ((if reply then replyLines else []) ++ [("\x7d" : Code)]) := by
    refine List.rel_append ?_ (.cons (twin_code _ (by decide)) .nil)
    cases reply with
    | false => exact .nil
    | true =>
        refine .cons (twin_code _ (by decide)) (.cons (twin_line rfl (by simp) (by decide)) ?_)
        exact .cons (twin_code _ (by decide)) .nil
  refine .stack (by simp) (.cons (twin_code _ (by decide)) (.cons (twin_nest hbody 1) ?_))
  refine .cons (twin_code _ (by decide)) (.cons (twin_line rfl (by simp) ?_) hreply)
  simp
  decide

/-- Bodies of handlers are guarded together, and then are twins as before. -/
theorem twin_handlerBody
    (label : Text)
    {body body' : Code}
    (hbody : Twin body body')
    {inner inner' : Code}
    (hinner : Twin inner inner')
    (reply : Bool) :
    Twin (if isNoop body then inner else guarded label inner reply)
      (if isNoop body' then inner' else guarded label inner' reply) := by
  rw [isNoop_twin hbody]
  split
  · exact hinner
  · exact twin_guarded label hinner reply

/-- Handlers of interactions that pass one test are twins if their bodies are. -/
theorem twin_onInteraction
    {test : List Piece}
    (hsuits : ∀ x ∈ test, x.Suits (lexis true) fun _ => true)
    (hform : (lexis false).formLeads
      ((Piece.code "  if (" :: (test ++ [.code ") \x7b"])).map Piece.slot) [] [] = true)
    {body body' : Code}
    (hbody : Twin body body') :
    Twin (onInteraction test body) (onInteraction test body') := by
  have htest := twin_line rfl (by simpa [or_imp, forall_and] using hsuits) hform
  refine .stack (by simp) (.cons (twin_code _ (by decide)) (.cons htest ?_))
  refine .cons (twin_nest hbody 2) (.cons (twin_code _ (by decide)) ?_)
  exact .cons (twin_code _ (by decide)) .nil

theorem twin_slashChain
    {body body' : Code}
    (hbody : Twin body body') :
    Twin (slashChain body) (slashChain body') := by
  have hbranch := twin_nest hbody 1
  refine .stack (by simp) (.cons (twin_code _ (by decide)) (.cons hbranch ?_))
  refine .cons (twin_code _ (by decide)) (.cons hbranch ?_)
  refine .cons (twin_code _ (by decide)) (.cons hbranch ?_)
  exact .cons (twin_code _ (by decide)) .nil

/-- The cases of a dispatch to subcommands that are twins. -/
theorem twin_cases
    {subcommands subcommands' : List Subcommand}
    (h : List.Forall₂ (SubcommandsAlike Twin) subcommands subcommands')
    (n : Nat) :
    List.Forall₂ Twin
      ((subcommands.zipIdx n).flatMap fun (sub, index) =>
        [.line [.code (if index = 0 then "if" else "\x7d else if"), " (subcommand === '",
          .literal sub.name, "') \x7b"], sub.body.deeper])
      ((subcommands'.zipIdx n).flatMap fun (sub, index) =>
        [.line [.code (if index = 0 then "if" else "\x7d else if"), " (subcommand === '",
          .literal sub.name, "') \x7b"], sub.body.deeper]) := by
  induction h generalizing n with
  | nil => exact .nil
  | @cons sub sub' rest rest' hsub _ ih =>
      simp only [List.zipIdx_cons, List.flatMap_cons, List.cons_append, List.nil_append, hsub.name]
      refine .cons (twin_line rfl (by simp) ?_) (.cons (twin_nest hsub.body 1) (ih (n + 1)))
      by_cases hn : n = 0
      · simp [hn]
        decide
      · simp [hn]
        decide

theorem twin_dispatch
    {subcommands subcommands' : List Subcommand}
    (h : List.Forall₂ (SubcommandsAlike Twin) subcommands subcommands') :
    Twin (dispatch subcommands) (dispatch subcommands') := by
  refine .stack (by simp) (.cons (twin_code _ (by decide)) ?_)
  exact List.rel_append (twin_cases h 0) (.cons (twin_code _ (by decide)) .nil)

/-- Handlers of one kind and name are twins if their code is. -/
theorem twin_handler
    {u u' : HandlerUnit}
    (hu : UnitsAlike Eq Twin u u') :
    Twin (handler u.kind u.guard u.body u.subcommands)
      (handler u.kind u.guard u'.body u'.subcommands) := by
  unfold handler
  cases hkind : u.kind with
  | slash =>
      simp only [hu.isEmpty_subcommands]
      split
      · rename_i hnil
        have hbody := hu.body (List.isEmpty_iff.1 hnil)
        refine twin_onInteraction (by simp) (by simp; decide) ?_
        exact twin_handlerBody u.guard hbody (twin_slashChain hbody) true
      · refine twin_onInteraction (by simp) (by simp; decide) ?_
        exact twin_guarded u.guard (twin_dispatch hu.subcommands) true
  | component =>
      have hbody := hu.body (hu.slash (by simp [hkind]))
      exact twin_onInteraction (by simp) (by simp; decide)
        (twin_handlerBody u.guard hbody hbody true)
  | event =>
      have hbody := hu.body (hu.slash (by simp [hkind]))
      have hname := isName_eventName u.guard
      refine .stack (by simp) (.cons (twin_line rfl (by simpa using hname) (by simp; decide)) ?_)
      refine .cons (twin_nest (twin_handlerBody _ hbody hbody false) 1) ?_
      exact .cons (twin_code _ (by decide)) .nil

/-- The language with braces makes twins of what differs in a text that is spliced in. -/
theorem sound_splicing :
    splicing.Sound where
  agree := agree_twin
  handler _ _ _ hu _ := ⟨twin_handler hu, rfl⟩
  header types := (balanced_header types).unbracketed
  footer commands := (balanced_footer commands).unbracketed
  separator := ⟨1, rfl⟩
  handlerKeys := by decide

end Lines

end BotCanvas.Braced
