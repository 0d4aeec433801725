import BotCanvas.Proofs.Offside.Condition
import BotCanvas.Proofs.Offside.Suites
import BotCanvas.Proofs.Program.Chains

/-!
# Layout of branches and handlers

What is built around suites is laid: a choice, a permission check and a body whose errors are
caught, the guard, the handlers of all kinds of triggers, the header and the footer.
-/

namespace BotCanvas.Offside

open Lexis

theorem isSpaced_spelling :
    IsSpaced spelling :=
  ⟨4, rfl⟩

section Lines

set_option maxRecDepth 20000

/-- A line of the program itself has the logical lines of its form. -/
theorem lays_code
    {s : String}
    {lines : List LogicalLine}
    (h : layForm [.code s] = some lines) :
    Lays (.line [.code s]) lines := by
  have hsuits : ∀ x ∈ [Piece.code s], x.Suits (lexis true) fun _ => true := by
    simp
  exact lays_line hsuits h

/-- The logical lines of lines of the program itself. -/
def constantLayouts : List Code → Option (List (List LogicalLine))
  | [] => some []
  | .line pieces :: rest =>
      if pieces.all fun x => x matches .code _ then
        (layForm (pieces.map Piece.slot)).bind fun lines =>
          (constantLayouts rest).map fun more => lines :: more
      else none
  | _ :: _ => none

/-- Lines of the program itself are laid if their logical lines are. -/
theorem LaidParts.ofConstants
    {parts : List Code}
    (h : (constantLayouts parts).any (fun layouts => decide (WellLaid layouts.flatten)) = true) :
    LaidParts parts := by
  obtain ⟨layouts, hlayouts, hlaid⟩ := (Option.any_eq_true _ _).1 h
  refine ⟨layouts, ?_, of_decide_eq_true hlaid⟩
  clear h hlaid
  fun_induction constantLayouts parts generalizing layouts with
  | case1 =>
      cases hlayouts
      exact .nil
  | case2 pieces rest hcode ih =>
      obtain ⟨lines, hlines, hlayouts⟩ := Option.bind_eq_some_iff.1 hlayouts
      obtain ⟨more, hmore, rfl⟩ := Option.map_eq_some_iff.1 hlayouts
      refine .cons (lays_line (p := fun _ => true) (fun x hx => ?_) hlines) (ih more hmore)
      have hx := List.all_eq_true.1 hcode x hx
      cases x with
      | code s => trivial
      | _ => simp at hx
  | case3 => cases hlayouts
  | case4 => cases hlayouts

/-- A line on its own. -/
theorem Laid.line
    {c : Code}
    (h : Lays c [⟨0, false⟩]) :
    Laid c :=
  ⟨_, h, .single⟩

/-! ## Branches -/

/-- A condition that keeps a line a line: it has no line end, bracket, quote, backslash or hash. -/
def IsTameCondition (t : Text) : Prop :=
  ∀ c ∈ t, c ∉ ['\n', '\r', '(', ')', '[', ']', '\x7b', '\x7d', '\x27', '\x22', '\\', '#']

/-- A block whose condition, if it spells one out, is tame. -/
def HasTameCondition (catalog : Catalog) (b : Block) : Prop :=
  b.type = "if_condition" →
    IsTameCondition
      (Text.strip ((Subject.mk catalog b).valueOr "condition" (.str "True")).displayPresent)

/-- A line of a tame condition opens a suite. -/
theorem lays_condition
    {v : Value}
    (h : IsTameCondition (Text.strip v.displayPresent)) :
    Lays (.line ["if ", .condition (conditionCode v), ":"]) [⟨0, true⟩] := by
  have hcode : IsTameCondition (conditionCode v) := by
    refine forall_mem_conditionCode (fun c hc => ?_) h
    have hall : spelledChars.all (fun c => c ∉ ['\n', '\r', '(', ')', '[', ']', '\x7b', '\x7d',
      '\x27', '\x22', '\\', '#']) = true := by decide
    exact of_decide_eq_true (List.all_eq_true.1 hall c hc)
  generalize conditionCode v = t at hcode
  have hsuits : (Piece.condition t).Suits (lexis true) fun _ => true := by
    intro c hc
    have hmarks := hcode c hc
    simp only [List.mem_cons, List.not_mem_nil, or_false, not_or] at hmarks
    obtain ⟨-, -, h1, h2, h3, h4, h5, h6, h7, h8, -, h9⟩ := hmarks
    constructor
    · simp [enter, quote?, lexis, h7, h8, h9]
    · intro opened
      simp [track, Brackets.isOpening, Brackets.partner?, h1, h2, h3, h4, h5, h6]
  have hpieces : ∀ x ∈ [Piece.code "if ", .condition t, .code ":"],
      x.Suits (lexis true) fun _ => true := by
    simpa using hsuits
  have hleads : Leads (lexis true) ((Code.line ["if ", .condition t, ":"]).write spelling) [] [] :=
    Leads.ofForm (w := writing true fun _ => true) encloses hpieces (by simp; decide)
  have hwrite : (Code.line ["if ", .condition t, ":"]).write spelling =
      'i' :: 'f' :: ' ' :: (t ++ [':']) := by
    simp [Code.write, Piece.write]
  have hfeed : '\n' ∉ t := fun hmem => absurd (hcode '\n' hmem) (by simp)
  have hlast : ('i' :: 'f' :: ' ' :: (t ++ [':'])).getLast? = some ':' :=
    List.getLast?_concat (l := 'i' :: 'f' :: ' ' :: t)
  have hlays := lays_row (k := 0) hwrite (by decide) (by decide) (by simp [hwrite, hfeed])
    (hleads [])
  rwa [hwrite, hlast] at hlays

theorem isName_permissionName
    (v : Value) :
    (lexis true).IsName (permissionName v) :=
  IsName.snakeOr (.ofString (by decide)) _

/-- The first line of a choice opens a suite. -/
theorem lays_test
    {catalog : Catalog}
    {b : Block}
    (htype : Flow.branching? b.type = some .choice)
    (hb : HasTameCondition catalog b) :
    Lays (.line ("if " :: (condition ⟨catalog, b⟩ ++ [.code ":"]))) [⟨0, true⟩] := by
  unfold condition
  split
  · exact lays_line (p := fun _ => true) (by simp [(Subject.Speaks.any _).suits])
      (by simp; decide)
  · split
    · have hname := isName_permissionName ((Subject.mk catalog b).value "permission")
      exact lays_line (p := fun _ => true) (by simpa using hname) (by simp; decide)
    · rename_i hrole hpermission
      exact lays_condition (hb (Flow.type_of_choice htype hrole hpermission))

/-- A choice between suites is laid. -/
theorem laid_choice
    {catalog : Catalog}
    {b : Block}
    (htype : Flow.branching? b.type = some .choice)
    (hb : HasTameCondition catalog b)
    {yes no : Code}
    (hyes : IsSuite yes)
    (hno : IsSuite no) :
    Laid (choice ⟨catalog, b⟩ yes no) := by
  refine LaidParts.stack (by simp) (.block (lays_test htype hb) hyes ?_)
  exact .block (lays_code (by decide)) hno .nil

/-- The answer to a member without the permission is a suite. -/
theorem isSuite_denial :
    IsSuite denial :=
  ⟨_, lays_line (p := fun _ => true) (by simp) (by decide), .single, by simp⟩

/-- A permission check around suites is laid: what runs after it stands at its own depth. -/
theorem laid_gate
    (s : Subject)
    {denied allowed : Option Code}
    (hdenied : ∀ c ∈ denied, IsSuite c)
    (hallowed : ∀ c ∈ allowed, IsSuite c) :
    Laid (gate s denied allowed) := by
  have hanswer : IsSuite (denied.getD denial) := by
    cases denied with
    | none => exact isSuite_denial
    | some c => exact hdenied c rfl
  have hreturn : Lays "return" [⟨0, false⟩] :=
    lays_code (by decide)
  have htest : Lays (.line ["if not interaction.", .code (permissionSource s.block.type), ".",
      .name (permissionName (s.value "permission")), ":"]) [⟨0, true⟩] := by
    refine lays_line (p := fun _ => true) ?_ ?_
    · simpa using isName_permissionName (s.value "permission")
    · unfold permissionSource
      split <;> simp <;> decide
  have hrest : LaidParts allowed.toList :=
    .ofForall fun c hc => (hallowed c (by simpa using hc)).laid
  obtain ⟨lines, hlays, hlaid, -⟩ := hanswer
  obtain ⟨layouts, hparts, hrest⟩ := hrest
  refine LaidParts.stack (by simp)
    ⟨_, .cons htest (.cons (hlays.nest 1) (.cons (hreturn.nest 1) hparts)), ?_⟩
  have hblock := ((hlaid.append .single).suite (by simp)).append hrest
  simpa using hblock

/-- A body whose errors are caught is laid. -/
theorem laid_recovery
    (s : Subject)
    {body : Code}
    (hbody : IsSuite body) :
    Laid (recovery s body) := by
  have herror : IsSuite
      (if s.flag "logToConsole" then .line ["print(\"", s.literal "errorMessage", "\", error)"]
      else .written noop) := by
    split
    · exact ⟨_, lays_line (p := fun _ => true) (by simp [(Subject.Speaks.any s).suits])
        (by simp; decide), .single, by simp⟩
    · exact ⟨_, lays_noop, .single, by simp⟩
  refine LaidParts.stack (by simp) (.block (lays_code (by decide)) hbody ?_)
  exact .block (lays_code (by decide)) herror .nil

/-! ## Handlers -/

/-- A guard around a suite is a suite. -/
theorem isSuite_guarded
    (label : Text)
    {body : Code}
    (hbody : IsSuite body)
    (reply : Bool) :
    IsSuite (guarded label body reply) := by
  have hexcept : Lays "except Exception as error:" [⟨0, true⟩] :=
    lays_code (by decide)
  have hlog : Lays (.line ["    print(\"[", .literal label, "] Error:\", error)"]) [⟨4, false⟩] :=
    lays_line (p := fun _ => true) (by simp) (by simp; decide)
  have hreply : LaidParts ("except Exception as error:" ::
      .line ["    print(\"[", .literal label, "] Error:\", error)"] ::
      (if reply then replyLines else [])) := by
    cases reply with
    | false => exact ⟨_, .cons hexcept (.cons hlog .nil), by decide⟩
    | true =>
        have hdone : Lays "    if not interaction.response.is_done():" [⟨4, true⟩] :=
          lays_code (by decide)
        have hanswer : Lays (.line ["        await interaction.response.send_message(\"",
            .code errorReply, "\", ephemeral=True)"]) [⟨8, false⟩] :=
          lays_line (p := fun _ => true) (by simp) (by decide)
        exact ⟨_, .cons hexcept (.cons hlog (.cons hdone (.cons hanswer .nil))), by decide⟩
  exact IsSuite.block (lays_code (by decide)) hbody hreply

/-- The body of a handler is a suite. -/
theorem isSuite_handlerBody
    (label : Text)
    {body : Code}
    (hbody : IsSuite body)
    (reply : Bool) :
    IsSuite (handlerBody label body reply) := by
  unfold handlerBody
  split
  · exact hbody
  · exact isSuite_guarded label hbody reply

/-- The first line of a function opens a suite. -/
theorem lays_functionLine
    {name : Text}
    (h : (lexis true).IsName name) :
    Lays (functionLine name) [⟨0, true⟩] :=
  lays_line (p := fun _ => true) (by simpa using h) (by simp; decide)

/-- A name with more letters, digits and low lines behind it. -/
theorem isName_append
    {name : Text}
    (hname : (lexis true).IsName name)
    (s : String)
    (h : s.toList.all Text.isPlain = true) :
    (lexis true).IsName (name ++ s.toList) :=
  hname.append fun c hc => isNameChar_of_isPlain (List.all_eq_true.1 h c hc)

/-- The function of a subcommand has a name. -/
theorem isName_subcommand
    {base : Text}
    (hbase : (lexis true).IsName base)
    (name : Text) :
    (lexis true).IsName
      (base ++ '_' :: (Name.identifier "sub" name ++ "_command".toList)) := by
  have hown : (lexis true).IsName (Name.identifier "sub" name) :=
    .identifier (.ofString (by decide)) _
  refine hbase.append (List.forall_mem_cons.2 ⟨?_, ?_⟩)
  · exact isNameChar_of_isPlain (by decide)
  · exact (isName_append hown "_command" (by decide)).2

/-- The parts of a command with subcommands are laid. -/
theorem laid_groupParts
    {group base : Text}
    (hgroup : (lexis true).IsName group)
    (hbase : (lexis true).IsName base)
    (guard : Text)
    {subcommands : List Subcommand}
    (hsubs : ∀ sub ∈ subcommands, IsSuite sub.body)
    (tally : Tally) :
    ∀ c ∈ (groupParts group base guard subcommands tally).1, Laid c := by
  induction subcommands generalizing tally with
  | nil => exact fun c (hc : c ∈ []) => absurd hc List.not_mem_nil
  | cons sub rest ih =>
      have hsub : IsSuite (handlerBody (guard ++ ' ' :: sub.name) sub.body true) :=
        isSuite_handlerBody _ (hsubs sub (by simp)) true
      have hname := isName_subcommand hbase sub.name
      have hline : Laid (.line ["@", .name group, ".command(name=\"", .literal sub.name,
          "\", description=\"", .literal sub.description, "\")"]) :=
        .line (lays_line (p := fun _ => true) (by simpa using hgroup) (by simp; decide))
      have hpart := LaidParts.stack (by simp) (.cons hline
        (.block (lays_functionLine (hname.nextName tally)) hsub .nil))
      exact List.forall_mem_cons.2 ⟨hpart, ih (fun sub hsub => hsubs sub (by simp [hsub])) _⟩

/-- The parts of code with two empty rows between neighbours. -/
def spacedParts (parts : List Code) : List Code :=
  ((parts.map fun c => [c]).intersperse [.written [], .written []]).flatten

/-- Parts that are related, as empty rows are, stay related with empty rows between them. -/
theorem rel_spacedParts
    {R : Code → Code → Prop}
    (hempty : R (.written []) (.written []))
    {parts parts' : List Code}
    (h : List.Forall₂ R parts parts') :
    List.Forall₂ R (spacedParts parts) (spacedParts parts') := by
  induction h with
  | nil => exact .nil
  | cons hc hrest ih =>
      cases hrest with
      | nil => exact .cons hc .nil
      | cons hd hrest => exact .cons hc (.cons hempty (.cons hempty ih))

/-- Parts with a property that empty rows have keep it with empty rows between them. -/
theorem forall_spacedParts
    {P : Code → Prop}
    (hempty : P (.written []))
    {parts : List Code}
    (h : ∀ c ∈ parts, P c) :
    ∀ c ∈ spacedParts parts, P c := by
  have hrel : List.Forall₂ (fun _ => P) (spacedParts parts) (spacedParts parts) :=
    rel_spacedParts hempty (List.forall₂_same.2 h)
  exact List.forall₂_same.1 hrel

theorem spacedParts_ne_nil
    {parts : List Code}
    (hne : parts ≠ []) :
    spacedParts parts ≠ [] := by
  obtain ⟨c, rest, rfl⟩ := List.exists_cons_of_ne_nil hne
  cases rest <;> simp [spacedParts]

/-- Laid parts with empty rows between them are laid. -/
theorem laid_spaced
    {parts : List Code}
    (hne : parts ≠ [])
    (h : ∀ c ∈ parts, Laid c) :
    Laid (spaced parts) := by
  have hparts : ∀ c ∈ spacedParts parts, Laid c :=
    forall_spacedParts ⟨[], lays_empty, .nil⟩ h
  exact LaidParts.stack (spacedParts_ne_nil hne) (.ofForall hparts)

/-- A command with subcommands is laid. -/
theorem laid_commandGroup
    (guard summary : Text)
    {base : Text}
    (hbase : (lexis true).IsName base)
    {subcommands : List Subcommand}
    (hsubs : ∀ sub ∈ subcommands, IsSuite sub.body)
    (tally : Tally) :
    Laid (commandGroup guard summary base subcommands tally).1 := by
  have hgroup : (lexis true).IsName (tally.nextName (base ++ "_group".toList)) :=
    (isName_append hbase "_group" (by decide)).nextName tally
  have hopening : Laid (.line [.name (tally.nextName (base ++ "_group".toList)),
      " = discord.app_commands.Group(name=\"", .literal guard, "\", description=\"",
      .literal summary, "\")"]) :=
    .line (lays_line (p := fun _ => true) (by simpa using hgroup) (by simp; decide))
  have hclosing : Laid (.line ["bot.tree.add_command(",
      .name (tally.nextName (base ++ "_group".toList)), ")"]) :=
    .line (lays_line (p := fun _ => true) (by simpa using hgroup) (by simp; decide))
  have hparts := laid_groupParts hgroup hbase guard hsubs (tally.bump (base ++ "_group".toList))
  refine laid_spaced (by simp) ?_
  intro c hc
  rcases List.mem_cons.1 hc with rfl | hc
  · exact hopening
  · rcases List.mem_append.1 hc with hc | hc
    · exact hparts c hc
    · rw [List.mem_singleton.1 hc]
      exact hclosing

/-- The name of an event is a name. -/
theorem isName_eventName
    (event : Text) :
    (lexis true).IsName (eventName event) := by
  have hplain : ∀ p ∈ eventNames,
      (!p.2.toList.isEmpty && p.2.toList.all Text.isPlain) = true :=
    List.all_eq_true.1 (by decide)
  unfold eventName
  split
  · rename_i name hname
    exact .ofString (hplain _ (mem_of_lookup hname))
  · exact IsName.snakeOr (.ofString (by decide)) _

/-- The types of triggers that become handlers are names. -/
theorem isName_type
    {type : String}
    {kind : TriggerKind}
    (h : TriggerKind.ofType? type = some kind) :
    (lexis true).IsName type.toList := by
  have hplain : ∀ p ∈ TriggerKind.table,
      (!p.1.toList.isEmpty && p.1.toList.all Text.isPlain) = true :=
    List.all_eq_true.1 (by decide)
  exact .ofString (hplain _ (mem_of_lookup h))

/-- The function of a component has a name. -/
theorem isName_component
    {type : String}
    {kind : TriggerKind}
    (htype : TriggerKind.ofType? type = some kind)
    (guard : Text) :
    (lexis true).IsName (type.toList ++ '_' :: Name.identifier "component" guard) := by
  have hcomponent : (lexis true).IsName (Name.identifier "component" guard) :=
    .identifier (.ofString (by decide)) _
  refine (isName_type htype).append (List.forall_mem_cons.2 ⟨?_, hcomponent.2⟩)
  exact isNameChar_of_isPlain (by decide)

/-- The function of an event has a name. -/
theorem isName_listener
    (event : Text) :
    (lexis true).IsName (Name.identifier "value" (event ++ "_listener".toList)) :=
  .identifier (.ofString (by decide)) _

/-- The handler of a trigger is laid if its code is a suite. -/
theorem laid_handler
    (catalog : Catalog)
    {trigger : Block}
    {kind : TriggerKind}
    (htype : TriggerKind.ofType? trigger.type = some kind)
    (guard : Text)
    {body : Code}
    {subcommands : List Subcommand}
    (hbody : subcommands = [] → IsSuite body)
    (hsubs : ∀ sub ∈ subcommands, IsSuite sub.body)
    (hkind : kind ≠ .slash → subcommands = [])
    (tally : Tally) :
    Laid (handler catalog (some trigger) kind guard body subcommands tally).1 := by
  unfold handler
  cases kind with
  | slash =>
      simp only
      have hbase : (lexis true).IsName (Name.identifier "command" guard) :=
        .identifier (.ofString (by decide)) _
      split
      · rename_i hempty
        have hname := (isName_append hbase "_command" (by decide)).nextName tally
        have hline : Laid (.line ["@bot.tree.command(name=\"", .literal guard,
            "\", description=\"",
            .literal ((summaryOf catalog (some trigger)).asDescription "A bot command"), "\")"]) :=
          .line (lays_line (p := fun _ => true) (by simp) (by simp; decide))
        refine LaidParts.stack (by simp) (.cons hline (.block (lays_functionLine hname) ?_ .nil))
        exact isSuite_handlerBody guard (hbody (List.isEmpty_iff.1 hempty)) true
      · exact laid_commandGroup guard _ hbase hsubs tally
  | component =>
      have hname := (isName_component htype guard).nextName tally
      have htest : Lays (.line
          ["    if interaction.data and interaction.data.get('custom_id') == \"",
            .literal guard, "\":"]) [⟨4, true⟩] :=
        lays_line (p := fun _ => true) (by simp) (by simp; decide)
      have hbody := isSuite_handlerBody guard (hbody (hkind (by simp))) true
      obtain ⟨lines, hlays, hlaid, hne⟩ := hbody
      have hlisten : Lays "@bot.listen('on_interaction')" [⟨0, false⟩] :=
        lays_code (by decide)
      refine LaidParts.stack (by simp) ⟨_, .cons hlisten (.cons (lays_functionLine hname)
        (.cons htest (.cons (hlays.nest 2) .nil))), ?_⟩
      have hsuite := WellLaid.single.append ((hlaid.suite hne).suite (by simp))
      simpa using hsuite
  | event =>
      have hevent := isName_eventName guard
      have hname := (isName_listener (eventName guard)).nextName tally
      have hline : Laid (.line ["@bot.listen('on_", .name (eventName guard), "')"]) :=
        .line (lays_line (p := fun _ => true) (by simpa using hevent) (by simp; decide))
      have hfunction : Lays (.line ["async def ", .name (tally.nextName (Name.identifier "value"
          (eventName guard ++ "_listener".toList))), "(interaction=None, *args):"]) [⟨0, true⟩] :=
        lays_line (p := fun _ => true) (by simpa using hname) (by simp; decide)
      refine LaidParts.stack (by simp) (.cons hline (.block hfunction ?_ .nil))
      exact isSuite_handlerBody _ (hbody (hkind (by simp))) false

/-- The footer is laid. -/
theorem laid_footer
    (commands : List CommandSpec) :
    Laid (footer commands) :=
  .line (lays_code (by decide))

/-- The header is laid. -/
theorem laid_header
    (types : List String) :
    Laid (header types) := by
  have hchoice : ∀ {test : Bool} {parts : List Code}, LaidParts parts →
      LaidParts (if test then parts else []) := by
    intro test parts h
    cases test with
    | true => exact h
    | false => exact .nil
  have hempty : LaidParts [.written []] :=
    .cons ⟨[], lays_empty, .nil⟩ .nil
  have hmath : LaidParts ["import math", "import random"] :=
    .ofConstants (by decide)
  have hrequest : LaidParts ["import aiohttp"] :=
    .ofConstants (by decide)
  refine LaidParts.stack (by simp) ?_
  have hbot : LaidParts botLines :=
    .ofConstants (by decide)
  refine ((LaidParts.append ?_ (hchoice hmath)).append hempty).append (hchoice hrequest)
    |>.append hbot
  exact .ofConstants (by decide)

end Lines

end BotCanvas.Offside
