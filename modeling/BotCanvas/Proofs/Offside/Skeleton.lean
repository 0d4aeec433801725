import BotCanvas.Proofs.Offside.Program
import BotCanvas.Proofs.Program.Splicing

/-!
# Skeletons of programs in the language with suites

As in the language with braces, code of blocks that differ in a text that is spliced in has one
skeleton. One more decision depends on what is written here: code without a statement gets the line
that does nothing. But a line in which a literal begins is no bare line, so the skeleton tells
whether code has a statement (`isBare_skeleton`).
-/

namespace BotCanvas.Offside

open Lexis

/-- An escaped text does not show in any literal. -/
theorem conceals :
    (lexis false).Conceals spelling := by
  intro q hq t
  have hquote : q ≠ .backtick := by
    rintro rfl
    simp [hasQuote, lexis] at hq
  have hchar : ∀ (c : Char) (r : Text),
      (lexis false).skeletonFrom (.literal q) (escapeChar c ++ r) =
        (lexis false).skeletonFrom (.literal q) r := by
    intro c r
    unfold escapeChar
    split
    · exact skeletonFrom_escape q c r
    · rename_i h
      simp only [not_or] at h
      split
      · exact skeletonFrom_escape q 'r' r
      · split
        · exact skeletonFrom_escape q 'n' r
        · have hmark : c ≠ q.mark := by
            cases q with
            | single => exact h.2.2
            | double => exact h.2.1
            | backtick => exact absurd rfl hquote
          exact skeletonFrom_body h.1 hmark r
  change (lexis false).skeletonFrom (.literal q) (escape t) = []
  induction t with
  | nil => rfl
  | cons c r ih => rw [escape, List.flatMap_cons, hchar, ← escape, ih]

/-! ## Code without a statement -/

/-- Tests for a text without a statement, from the middle of a line on: blank up to there, or a
remark. -/
def bareFrom : (inRemark : Bool) → List Char → Bool
  | _, [] => true
  | inRemark, c :: r =>
      if Text.isLineBreak c then bareFrom false r
      else if inRemark || Text.isBlank c then bareFrom inRemark r
      else c == '#' && bareFrom true r

theorem isBareLine_cons
    (c : Char)
    (l : Text) :
    isBareLine (c :: l) = if Text.isBlank c then isBareLine l else c == '#' := by
  unfold isBareLine
  rw [List.dropWhile_cons]
  split <;> rfl

/-- A text has no statement if none is found from its beginning on. Behind a mark of a remark, none
is in the line. -/
theorem isBare_eq
    (t : Text) :
    isBare t = bareFrom false t ∧
      ((Text.lineBodies t).drop 1).all isBareLine = bareFrom true t := by
  unfold isBare Text.lineBodies
  fun_induction Text.lines t with
  | case1 => exact ⟨rfl, rfl⟩
  | case2 r ih => exact ⟨ih.1, ih.1⟩
  | case3 c r hcr hc ih =>
      simp only [bareFrom, if_pos hc]
      exact ⟨ih.1, ih.1⟩
  | case4 c r hcr hc hnil ih =>
      rw [hnil] at ih
      simp only [bareFrom, if_neg hc, ← ih.1, ← ih.2]
      cases hblank : Text.isBlank c <;> simp [hblank, isBareLine]
  | case5 c r hcr hc l ls hcons ih =>
      rw [hcons] at ih
      simp only [bareFrom, if_neg hc, ← ih.1, ← ih.2]
      cases hblank : Text.isBlank c <;> simp [isBareLine_cons, hblank]

/-- In the skeleton the same statements are found: one begins where a literal does. -/
theorem bareFrom_skeletonFrom
    {p : Spot}
    {inRemark : Bool}
    (h : p = .remark ∨ p = .code ∧ inRemark = false)
    (t : Text) :
    bareFrom inRemark ((lexis false).skeletonFrom p t) = bareFrom inRemark t := by
  induction t generalizing p inRemark with
  | nil => rfl
  | cons c r ih =>
      have hshown : p.hides c = false := by
        rcases h with rfl | ⟨rfl, -⟩ <;> rfl
      rw [skeletonFrom, hshown]
      simp only [Bool.false_eq_true, if_false, bareFrom]
      split
      · rename_i hbreak
        refine ih ?_
        rcases h with rfl | ⟨rfl, rfl⟩
        · by_cases hc : c = '\n'
          · exact .inr ⟨by rw [next, if_pos hc], rfl⟩
          · exact .inl (by rw [next, if_neg hc])
        · exact .inr ⟨enter_of_isLineBreak hbreak, rfl⟩
      · rename_i hbreak
        have hremark : (lexis false).next .remark c = .remark := by
          rw [next, if_neg]
          rintro rfl
          exact hbreak (by decide)
        split
        · rename_i hblank
          refine ih ?_
          rcases h with rfl | ⟨rfl, rfl⟩
          · exact .inl hremark
          · exact .inr ⟨enter_of_isBlank hblank, rfl⟩
        · -- a remark opens, or the line has a statement here on both sides
          by_cases hc : c = '#'
          · subst hc
            refine congrArg (_ && ·) (ih (.inl ?_))
            rcases h with rfl | ⟨rfl, rfl⟩
            · exact hremark
            · rfl
          · rw [beq_false_of_ne hc]
            rfl

/-- The skeleton of a text tells whether the text has a statement. -/
theorem isBare_skeleton
    (t : Text) :
    isBare ((lexis false).skeleton t) = isBare t := by
  rw [(isBare_eq _).1, (isBare_eq t).1]
  exact bareFrom_skeletonFrom (.inr ⟨rfl, rfl⟩) t

theorem unbracketed_lexis :
    (lexis true).unbracketed = lexis false :=
  rfl

/-- Code that is written as twins in the language with suites. -/
abbrev Twin (c c' : Code) : Prop :=
  TwinCode (lexis false) spelling c c'

section Lines

set_option maxRecDepth 20000

theorem twin_line
    {pieces pieces' : List Piece}
    (hblank : pieces'.map Piece.blank = pieces.map Piece.blank)
    (hsuits : ∀ x ∈ pieces, x.Suits (lexis true) fun _ => true)
    (hform : (lexis false).formLeads (pieces.map Piece.slot) [] [] = true) :
    Twin (.line pieces) (.line pieces') :=
  .line encloses conceals hblank (fun x hx => suits_unbracketed (hsuits x hx)) hform

/-- A line of the program itself is its own twin. -/
theorem twin_code
    (s : String)
    (hform : (lexis false).formLeads [.code s] [] [] = true) :
    Twin (.line [.code s]) (.line [.code s]) :=
  twin_line rfl (by simp) hform

theorem twin_nest
    {c c' : Code}
    (h : Twin c c')
    (levels : Nat) :
    Twin (.nest levels c) (.nest levels c') :=
  .nest isSpaced_spelling levels h

theorem twin_noop :
    Twin (.written noop) (.written noop) := by
  have hline := twin_code "pass" (by decide)
  exact hline

/-- Statements that are the same up to texts in literals are twins. -/
theorem twin_statements
    {c c' : Code}
    (h : Code.Same (IsStatement fun _ => true) c c') :
    Twin c c' := by
  refine .ofSame encloses conceals (fun pieces hpieces => ?_) h
  obtain ⟨hsuits, hform⟩ := hpieces
  rw [isStatement, Bool.and_eq_true] at hform
  have hleads := formLeads_unbracketed hform.1
  rw [unbracketed_lexis] at hleads
  exact ⟨fun x hx => suits_unbracketed (hsuits x hx), hleads⟩

/-- Twins need the line that does nothing together. -/
theorem twin_suite
    {c c' : Code}
    (h : Twin c c') :
    Twin (suite c) (suite c') := by
  have hbare : isBare (c'.write spelling) = isBare (c.write spelling) := by
    rw [← isBare_skeleton, h.skeleton, isBare_skeleton]
  unfold suite
  rw [← isBare, ← isBare, hbare]
  split
  · exact .stack (by simp) (.cons h (.cons twin_noop .nil))
  · exact h

/-- How the language with suites splices texts in. -/
def splicing : Splicing :=
  ⟨dialect, lexis false, textKeys⟩

/-! ## Branches -/

/-- A test of a condition that a user spelled out is its own twin. -/
theorem twin_condition
    {v : Value}
    (h : ∀ c ∈ v.display, c ∉ literalMarks) :
    Twin (.line ["if ", .condition (conditionCode v), ":"])
      (.line ["if ", .condition (conditionCode v), ":"]) := by
  have hpresent : ∀ c ∈ Text.strip v.displayPresent, c ∉ literalMarks := by
    intro c hc
    have hmem := Text.mem_of_mem_stripBy hc
    unfold Value.displayPresent at hmem
    split at hmem
    · exact h c hmem
    · cases hmem
  have hcode : ∀ c ∈ conditionCode v, c ∉ literalMarks := by
    refine forall_mem_conditionCode (fun c hc => ?_) hpresent
    have hall : spelledChars.all (fun c => c ∉ literalMarks) = true := by decide
    exact of_decide_eq_true (List.all_eq_true.1 hall c hc)
  have hsuits : (Piece.condition (conditionCode v)).Suits (lexis false) fun _ => true := by
    rw [← unbracketed_lexis]
    exact suits_of_unmarked hcode
  exact .line encloses conceals rfl (by simpa using hsuits) (by simp; decide)

/-- The tests of related choices differ in a literal at most. -/
theorem twin_test
    {catalog : Catalog}
    {b b' : Block}
    (htype : Flow.branching? b.type = some .choice)
    (hb : HasUnmarkedCondition catalog b)
    (h : Subject.Alike (splicing.keysOf b.type) ⟨catalog, b⟩ ⟨catalog, b'⟩) :
    Twin (.line ("if " :: (condition ⟨catalog, b⟩ ++ [.code ":"])))
      (.line ("if " :: (condition ⟨catalog, b'⟩ ++ [.code ":"]))) := by
  unfold condition
  rw [h.type]
  split
  · exact twin_line rfl (by simp [(Subject.Speaks.any _).suits]) (by simp; decide)
  · split
    · have hname := isName_permissionName ((Subject.mk catalog b).value "permission")
      rw [h.value "permission" (Splicing.not_mem_keysOf (by decide) _)]
      exact twin_line rfl (by simpa using hname) (by simp; decide)
    · -- the one property that is taken over as code
      rename_i hrole hpermission
      rw [h.valueOr "condition" _ (Splicing.not_mem_keysOf (by decide) _)]
      have hcondition := Flow.type_of_choice htype hrole hpermission
      exact twin_condition (hb.valueOr hcondition (.str "True") (by decide))

theorem twin_choice
    {catalog : Catalog}
    {b b' : Block}
    (htype : Flow.branching? b.type = some .choice)
    (hb : HasUnmarkedCondition catalog b)
    (h : Subject.Alike (splicing.keysOf b.type) ⟨catalog, b⟩ ⟨catalog, b'⟩)
    {yes yes' no no' : Code}
    (hyes : Twin yes yes')
    (hno : Twin no no') :
    Twin (choice ⟨catalog, b⟩ yes no) (choice ⟨catalog, b'⟩ yes' no') := by
  refine .stack (by simp) (.cons (twin_test htype hb h) (.cons (twin_nest hyes 1) ?_))
  exact .cons (twin_code _ (by decide)) (.cons (twin_nest hno 1) .nil)

theorem twin_gate
    {s s' : Subject}
    (h : Subject.Alike (splicing.keysOf s.block.type) s s')
    {denied denied' allowed allowed' : Option Code}
    (hdenied : Option.Rel Twin denied denied')
    (hallowed : Option.Rel Twin allowed allowed') :
    Twin (gate s denied allowed) (gate s' denied' allowed') := by
  have hname := isName_permissionName (s.value "permission")
  have hanswer : Twin (denied.getD denial) (denied'.getD denial) := by
    cases hdenied with
    | none => exact twin_line rfl (by simp) (by decide)
    | some hcode => exact hcode
  have hrest : List.Forall₂ Twin allowed.toList allowed'.toList := by
    cases hallowed with
    | none => exact .nil
    | some hcode => exact .cons hcode .nil
  unfold gate
  rw [h.type, h.value "permission" (Splicing.not_mem_keysOf (by decide) _)]
  refine .stack (by simp) (.cons (twin_line rfl (by simpa using hname) ?_) ?_)
  · unfold permissionSource
    split <;> simp <;> decide
  · exact .cons (twin_nest hanswer 1) (.cons (twin_nest (twin_code _ (by decide)) 1) hrest)

theorem twin_recovery
    {s s' : Subject}
    (h : Subject.Alike (splicing.keysOf s.block.type) s s')
    {body body' : Code}
    (hbody : Twin body body') :
    Twin (recovery s body) (recovery s' body') := by
  have herror : Twin
      (if s.flag "logToConsole" then .line ["print(\"", s.literal "errorMessage", "\", error)"]
        else .written noop)
      (if s.flag "logToConsole" then .line ["print(\"", s'.literal "errorMessage", "\", error)"]
        else .written noop) := by
    split
    · exact twin_line rfl (by simp [(Subject.Speaks.any s).suits]) (by simp; decide)
    · exact twin_noop
  unfold recovery
  rw [h.flag "logToConsole" (Splicing.not_mem_keysOf (by decide) _)]
  refine .stack (by simp) (.cons (twin_code _ (by decide)) (.cons (twin_nest hbody 1) ?_))
  exact .cons (twin_code _ (by decide)) (.cons (twin_nest herror 1) .nil)

/-- Emission makes twins of blocks that differ in a text that is spliced in, step by step. -/
theorem agree_twin
    (catalog : Catalog) :
    (dialect.codeMeaning catalog).Agree (dialect.codeMeaning catalog)
      (fun b b' => splicing.Respliced b b' ∧ HasUnmarkedCondition catalog b) Twin Twin where
  type _ _ hb := hb.1.type_eq
  action b b' hb hway := by
    have halike : Subject.Alike (textKeysOf b.type) ⟨catalog, b⟩ ⟨catalog, b'⟩ :=
      hb.1.alike_of_action hway catalog
    exact (emitAction_alike halike (.any _)).mono fun _ _ hcode => twin_statements hcode
  choice _ _ hb hway _ _ _ _ hyes hno := twin_choice hway hb.2 (hb.1.alike catalog) hyes hno
  gate _ _ hb _ _ _ _ _ hdenied hallowed := twin_gate (hb.1.alike catalog) hdenied hallowed
  recovery _ _ hb _ _ _ hbody := twin_recovery (hb.1.alike catalog) hbody
  idle := twin_noop
  sequence _ _ hne hparts := twin_suite (.stack hne hparts)

/-! ## Handlers -/

theorem twin_guarded
    (label : Text)
    {body body' : Code}
    (hbody : Twin body body')
    (reply : Bool) :
    Twin (guarded label body reply) (guarded label body' reply) := by
  have hreply : List.Forall₂ Twin (if reply then replyLines else [])
      (if reply then replyLines else []) := by
    cases reply with
    | false => exact .nil
    | true =>
        exact .cons (twin_code _ (by decide)) (.cons (twin_line rfl (by simp) (by decide)) .nil)
  refine .stack (by simp) (.cons (twin_code _ (by decide)) (.cons (twin_nest hbody 1) ?_))
  refine .cons (twin_code _ (by decide)) (.cons (twin_line rfl (by simp) ?_) hreply)
  simp
  decide

theorem twin_handlerBody
    (label : Text)
    {body body' : Code}
    (hbody : Twin body body')
    (reply : Bool) :
    Twin (handlerBody label body reply) (handlerBody label body' reply) := by
  have hnoop : body'.amountsTo spelling noop = body.amountsTo spelling noop :=
    hbody.amountsTo (by decide)
  unfold handlerBody
  rw [hnoop]
  split
  · exact hbody
  · exact twin_guarded label hbody reply

/-- The first line of a function is its own twin. -/
theorem twin_functionLine
    {name : Text}
    (h : (lexis true).IsName name) :
    Twin (functionLine name) (functionLine name) :=
  twin_line rfl (by simpa using h) (by simp; decide)

/-- The parts of commands with subcommands that are twins, under the same names. -/
theorem twin_groupParts
    {group base : Text}
    (hgroup : (lexis true).IsName group)
    (hbase : (lexis true).IsName base)
    (guard : Text)
    {subcommands subcommands' : List Subcommand}
    (h : List.Forall₂ (SubcommandsAlike Twin) subcommands subcommands')
    (tally : Tally) :
    List.Forall₂ Twin (groupParts group base guard subcommands tally).1
        (groupParts group base guard subcommands' tally).1 ∧
      (groupParts group base guard subcommands' tally).2 =
        (groupParts group base guard subcommands tally).2 := by
  induction h generalizing tally with
  | nil => exact ⟨.nil, rfl⟩
  | @cons sub sub' rest rest' hsub _ ih =>
      obtain ⟨name, description, body⟩ := sub
      obtain ⟨name', description', body'⟩ := sub'
      obtain ⟨rfl, rfl, hbody⟩ := hsub
      have hname := (isName_subcommand hbase name').nextName tally
      have hline : Twin (.line ["@", .name group, ".command(name=\"", .literal name',
          "\", description=\"", .literal description', "\")"])
          (.line ["@", .name group, ".command(name=\"", .literal name', "\", description=\"",
            .literal description', "\")"]) :=
        twin_line rfl (by simpa using hgroup) (by simp; decide)
      have hguarded := twin_handlerBody (guard ++ ' ' :: name') hbody true
      have hpart := TwinCode.stack (by simp) (.cons hline (.cons (twin_functionLine hname)
        (.cons (twin_nest hguarded 1) .nil)))
      obtain ⟨hparts, htally⟩ := ih (tally.bump
        (base ++ '_' :: (Name.identifier "sub" name' ++ "_command".toList)))
      exact ⟨.cons hpart hparts, htally⟩

/-- Commands with subcommands that are twins, under the same names. -/
theorem twin_commandGroup
    (guard summary : Text)
    {base : Text}
    (hbase : (lexis true).IsName base)
    {subcommands subcommands' : List Subcommand}
    (h : List.Forall₂ (SubcommandsAlike Twin) subcommands subcommands')
    (tally : Tally) :
    Twin (commandGroup guard summary base subcommands tally).1
        (commandGroup guard summary base subcommands' tally).1 ∧
      (commandGroup guard summary base subcommands' tally).2 =
        (commandGroup guard summary base subcommands tally).2 := by
  have hgroup : (lexis true).IsName (tally.nextName (base ++ "_group".toList)) :=
    (isName_append hbase "_group" (by decide)).nextName tally
  have hopening : Twin (.line [.name (tally.nextName (base ++ "_group".toList)),
      " = discord.app_commands.Group(name=\"", .literal guard, "\", description=\"",
      .literal summary, "\")"]) (.line [.name (tally.nextName (base ++ "_group".toList)),
      " = discord.app_commands.Group(name=\"", .literal guard, "\", description=\"",
      .literal summary, "\")"]) :=
    twin_line rfl (by simpa using hgroup) (by simp; decide)
  have hclosing : Twin (.line ["bot.tree.add_command(",
      .name (tally.nextName (base ++ "_group".toList)), ")"]) (.line ["bot.tree.add_command(",
      .name (tally.nextName (base ++ "_group".toList)), ")"]) :=
    twin_line rfl (by simpa using hgroup) (by simp; decide)
  obtain ⟨hparts, htally⟩ := twin_groupParts hgroup hbase guard h
    (tally.bump (base ++ "_group".toList))
  exact ⟨TwinCode.stack (spacedParts_ne_nil (by simp)) (rel_spacedParts .empty (.cons hopening
    (List.rel_append hparts (.cons hclosing .nil)))), htally⟩

/-- Handlers of one kind and name are twins if their code is, under the same names. -/
theorem twin_handler
    (catalog : Catalog)
    {u u' : HandlerUnit}
    (hu : UnitsAlike Eq Twin u u')
    (tally : Tally) :
    Twin (handler catalog (some u.trigger) u.kind u.guard u.body u.subcommands tally).1
        (handler catalog (some u.trigger) u.kind u.guard u'.body u'.subcommands tally).1 ∧
      (handler catalog (some u.trigger) u.kind u.guard u'.body u'.subcommands tally).2 =
        (handler catalog (some u.trigger) u.kind u.guard u.body u.subcommands tally).2 := by
  unfold handler
  cases hkind : u.kind with
  | slash =>
      simp only [hu.isEmpty_subcommands]
      have hbase : (lexis true).IsName (Name.identifier "command" u.guard) :=
        .identifier (.ofString (by decide)) _
      split
      · rename_i hnil
        have hname := (isName_append hbase "_command" (by decide)).nextName tally
        have hbody := twin_handlerBody u.guard (hu.body (List.isEmpty_iff.1 hnil)) true
        refine ⟨TwinCode.stack (by simp) (.cons (twin_line rfl (by simp) (by simp; decide)) ?_),
          rfl⟩
        exact .cons (twin_functionLine hname) (.cons (twin_nest hbody 1) .nil)
      · exact twin_commandGroup u.guard _ hbase hu.subcommands tally
  | component =>
      have hbody := twin_handlerBody u.guard (hu.body (hu.slash (by simp [hkind]))) true
      have hname := (isName_component hu.type u.guard).nextName tally
      refine ⟨TwinCode.stack (by simp) (.cons (twin_code _ (by decide)) ?_), rfl⟩
      refine .cons (twin_functionLine hname) (.cons (twin_line rfl (by simp) (by simp; decide)) ?_)
      exact .cons (twin_nest hbody 2) .nil
  | event =>
      have hbody := twin_handlerBody (eventName u.guard)
        (hu.body (hu.slash (by simp [hkind]))) false
      have hevent := isName_eventName u.guard
      have hname := (isName_listener (eventName u.guard)).nextName tally
      refine ⟨TwinCode.stack (by simp) (.cons
        (twin_line rfl (by simpa using hevent) (by simp; decide)) ?_), rfl⟩
      refine .cons (twin_line rfl (by simpa using hname) (by simp; decide)) ?_
      exact .cons (twin_nest hbody 1) .nil

/-- Lines of the program itself, in front of a chain. -/
theorem chain_constants
    {parts : List Code}
    (h : constantsLead (lexis false) parts [] = some []) :
    Chain (lexis false) spelling parts [] [] :=
  Chain.ofConstants (w := writing false fun _ => true) encloses h

theorem leads_header
    (types : List String) :
    Leads (lexis false) ((header types).write spelling) [] [] := by
  have hchoice : ∀ {test : Bool} {parts : List Code}, Chain (lexis false) spelling parts [] [] →
      Chain (lexis false) spelling (if test then parts else []) [] [] := by
    intro test parts h
    cases test with
    | true => exact h
    | false => rfl
  have hempty : Chain (lexis false) spelling [.written []] [] [] :=
    ⟨[], Leads.empty [], rfl⟩
  have hmath : Chain (lexis false) spelling ["import math", "import random"] [] [] :=
    chain_constants (by decide)
  have hrequest : Chain (lexis false) spelling ["import aiohttp"] [] [] :=
    chain_constants (by decide)
  have hbot : Chain (lexis false) spelling botLines [] [] :=
    chain_constants (by decide)
  refine Chain.stack (by simp) ?_
  refine ((Chain.append ?_ (hchoice hmath)).append hempty).append (hchoice hrequest)
    |>.append hbot
  exact chain_constants (by decide)

/-- The language with suites makes twins of what differs in a text that is spliced in. -/
theorem sound_splicing :
    splicing.Sound where
  agree := agree_twin
  handler catalog _ _ hu := twin_handler catalog hu
  header := leads_header
  footer _ := (twin_code _ (by decide)).left
  separator := ⟨2, rfl⟩
  handlerKeys := by decide

end Lines

end BotCanvas.Offside
