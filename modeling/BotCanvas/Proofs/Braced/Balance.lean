import BotCanvas.Proofs.Braced.Statements
import BotCanvas.Proofs.Program.Chains

/-!
# Brackets of programs in the language with braces

Every part of a program closes the brackets that it opens, whatever texts its blocks hold: the
statements of a flow at any depth, the handlers around them, the header and the footer.
-/

namespace BotCanvas.Braced

open Lexis

/-- Code that closes the brackets it opens. -/
def Balanced (c : Code) : Prop :=
  Leads (lexis true) (c.write spelling) [] []

theorem isSpaced_spelling :
    IsSpaced spelling :=
  ⟨2, rfl⟩

section Lines

set_option maxRecDepth 20000

variable {k l m : List Char}
variable {parts : List Code}

theorem leads_line
    {pieces : List Piece}
    (hsuits : ∀ x ∈ pieces, x.Suits (lexis true) fun _ => true)
    (hform : (lexis true).formLeads (pieces.map Piece.slot) k l = true) :
    Leads (lexis true) ((Code.line pieces).write spelling) k l :=
  Leads.ofForm (w := writing true fun _ => true) encloses hsuits hform

/-- A line whose form leads on, in front of a chain. -/
theorem chain_line
    {pieces : List Piece}
    (hsuits : ∀ x ∈ pieces, x.Suits (lexis true) fun _ => true)
    (hform : (lexis true).formLeads (pieces.map Piece.slot) k m = true)
    (hrest : Chain (lexis true) spelling parts m l) :
    Chain (lexis true) spelling (.line pieces :: parts) k l :=
  ⟨m, leads_line hsuits hform, hrest⟩

/-- A line of the program itself, in front of a chain. -/
theorem chain_code
    (s : String)
    (hform : (lexis true).formLeads [.code s] k m = true)
    (hrest : Chain (lexis true) spelling parts m l) :
    Chain (lexis true) spelling (.line [.code s] :: parts) k l :=
  chain_line (by simp) hform hrest

/-- A balanced body some levels deeper, in front of a chain. -/
theorem chain_body
    {body : Code}
    (hbody : Balanced body)
    (levels : Nat)
    (hrest : Chain (lexis true) spelling parts k l) :
    Chain (lexis true) spelling (.nest levels body :: parts) k l :=
  ⟨k, Leads.body isSpaced_spelling levels hbody k, hrest⟩

theorem chain_constants
    (h : constantsLead (lexis true) parts k = some l) :
    Chain (lexis true) spelling parts k l :=
  Chain.ofConstants (w := writing true fun _ => true) encloses h

/-- The line that does nothing opens nothing. -/
theorem balanced_noop :
    Balanced (.written noop) := by
  have hread : (lexis true).read (some (.code, [])) (noop ++ ['\n']) = some (.code, []) := by
    decide
  exact fun below => read_under below hread

/-- A guard around a body closes what it opens. -/
theorem balanced_guarded
    (label : Text)
    {body : Code}
    (hbody : Balanced body)
    (reply : Bool) :
    Balanced (guarded label body reply) := by
  refine Chain.stack (by simp) ?_
  refine chain_code (m := ['\x7b']) _ (by decide) (chain_body hbody 1 ?_)
  refine chain_code (m := ['\x7b']) _ (by decide) ?_
  refine chain_line (m := ['\x7b']) (by simp) (by simp; decide) ?_
  refine Chain.append (l := ['\x7b']) ?_ (chain_constants (by decide))
  cases reply
  · rfl
  · exact chain_constants (by decide)

/-- A condition that a user may spell out: it has no bracket, quote or slash. -/
def IsPlainCondition (t : Text) : Prop :=
  ∀ c ∈ t, c ∉ ['(', ')', '[', ']', '\x7b', '\x7d', '\x27', '\x22', '\x60', '/']

theorem isPlainCondition_of_all
    {t : Text}
    (h : (t.all fun c =>
      c ∉ ['(', ')', '[', ']', '\x7b', '\x7d', '\x27', '\x22', '\x60', '/']) = true) :
    IsPlainCondition t := by
  intro c hc
  exact of_decide_eq_true (List.all_eq_true.1 h c hc)

/-- A block whose condition, if it spells one out, is plain. -/
def HasPlainCondition (catalog : Catalog) (b : Block) : Prop :=
  b.type = "if_condition" →
    IsPlainCondition
      (Text.strip ((Subject.mk catalog b).valueOr "condition" (.str "true")).display)

/-- A plain condition leaves code as it is. -/
theorem suits_condition
    {t : Text}
    (h : IsPlainCondition t) :
    (Piece.condition t).Suits (lexis true) fun _ => true := by
  intro c hc
  have hmarks := h c hc
  simp only [List.mem_cons, List.not_mem_nil, or_false, not_or] at hmarks
  obtain ⟨h1, h2, h3, h4, h5, h6, h7, h8, h9, h10⟩ := hmarks
  constructor
  · simp [enter, quote?, lexis, h7, h8, h9, h10]
  · intro opened
    simp [track, Brackets.isOpening, Brackets.partner?, h1, h2, h3, h4, h5, h6]

theorem isName_permissionName
    (v : Value) :
    (lexis true).IsName (permissionName v) :=
  isName_flagName "Administrator" (by decide) v

/-- The test of a choice opens the branch and nothing else. -/
theorem condition_leads
    {catalog : Catalog}
    {b : Block}
    (htype : Flow.branching? b.type = some .choice)
    (hb : HasPlainCondition catalog b) :
    (∀ x ∈ condition ⟨catalog, b⟩, x.Suits (lexis true) fun _ => true) ∧
      (lexis true).formLeads
        ((Piece.code "if (" :: (condition ⟨catalog, b⟩ ++ [.code ") \x7b"])).map Piece.slot)
        [] ['\x7b'] = true := by
  unfold condition
  split
  · exact ⟨by simp [(Subject.Speaks.any _).suits], by simp; decide⟩
  · split
    · have hname := isName_permissionName
        ((Subject.mk catalog b).value "permission")
      exact ⟨by simpa using hname, by simp; decide⟩
    · rename_i hrole hpermission
      have hcondition := Flow.type_of_choice htype hrole hpermission
      have hplain : IsPlainCondition
          (if (Text.strip ((Subject.mk catalog b).valueOr "condition" (.str "true")).display).isEmpty
            then "true".toList
            else Text.strip ((Subject.mk catalog b).valueOr "condition" (.str "true")).display) := by
        split
        · exact isPlainCondition_of_all (by decide)
        · exact hb hcondition
      exact ⟨by simpa using suits_condition hplain, by simp; decide⟩

/-- A block whose condition, if it spells one out, is on one line. -/
def HasOneLinedCondition (catalog : Catalog) (b : Block) : Prop :=
  b.type = "if_condition" →
    '\n' ∉ Text.strip ((Subject.mk catalog b).valueOr "condition" (.str "true")).display

/-- The conditions of given blocks can be looked through. -/
theorem hasOneLinedCondition_of_all
    {catalog : Catalog}
    {blocks : List Block}
    (h : (blocks.all fun b =>
      !(Text.strip ((Subject.mk catalog b).valueOr "condition" (.str "true")).display).contains
        '\n') = true) :
    ∀ b ∈ blocks, HasOneLinedCondition catalog b := fun b hb _ => by
  simpa using List.all_eq_true.1 h b hb

/-- The test of a choice is on one line. -/
theorem lineFeed_not_mem_condition
    {catalog : Catalog}
    {b : Block}
    (hway : Flow.branching? b.type = some .choice)
    (hb : HasOneLinedCondition catalog b) :
    '\n' ∉ (condition ⟨catalog, b⟩).flatMap (Piece.write spelling) := by
  unfold condition
  split
  · simp only [Subject.literal, List.flatMap_cons, List.flatMap_nil, Piece.write, List.mem_append,
      not_or]
    exact ⟨by decide, not_mem_escape _ (.inl rfl), by decide, by simp⟩
  · split
    · have hname := isName_permissionName ((Subject.mk catalog b).value "permission")
      simp only [List.flatMap_cons, List.flatMap_nil, Piece.write, List.mem_append, not_or]
      exact ⟨by decide, hname.lineFeed_not_mem, by decide, by simp⟩
    · rename_i hrole hpermission
      have hcondition := hb (Flow.type_of_choice hway hrole hpermission)
      simp only [List.flatMap_cons, List.flatMap_nil, Piece.write, List.append_nil]
      split
      · decide
      · exact hcondition

/-- A choice between balanced arms is balanced. -/
theorem balanced_choice
    {catalog : Catalog}
    {b : Block}
    (htype : Flow.branching? b.type = some .choice)
    (hb : HasPlainCondition catalog b)
    {yes no : Code}
    (hyes : Balanced yes)
    (hno : Balanced no) :
    Balanced (choice ⟨catalog, b⟩ yes no) := by
  obtain ⟨hsuits, hform⟩ := condition_leads htype hb
  refine Chain.stack (by simp) ?_
  refine chain_line (by simpa [or_imp, forall_and] using hsuits) hform (chain_body hyes 1 ?_)
  refine chain_code (m := ['\x7b']) _ (by decide) (chain_body hno 1 ?_)
  exact chain_constants (by decide)

/-- The answer to a member without the permission is balanced. -/
theorem balanced_denial :
    Balanced denial :=
  leads_line (by simp) (by decide)

/-- A permission check around balanced arms is balanced. -/
theorem balanced_gate
    (s : Subject)
    {denied allowed : Option Code}
    (hdenied : ∀ c ∈ denied, Balanced c)
    (hallowed : ∀ c ∈ allowed, Balanced c) :
    Balanced (gate s denied allowed) := by
  have hname := isName_permissionName (s.value "permission")
  have hanswer : Balanced (denied.getD denial) := by
    cases denied with
    | none => exact balanced_denial
    | some c => exact hdenied c rfl
  have hreturn : Balanced "return;" :=
    leads_line (by simp) (by decide)
  refine Chain.stack (by simp) ?_
  refine chain_line (m := ['\x7b']) (by simpa using hname) ?_ ?_
  · unfold permissionSource
    split <;> simp <;> decide
  · refine chain_body hanswer 1 (chain_body hreturn 1 ?_)
    refine chain_code (m := []) _ (by decide) (.ofNeutral (fun c hc => ?_) [])
    exact hallowed c (by simpa using hc)

/-- A body whose errors are caught is balanced. -/
theorem balanced_recovery
    (s : Subject)
    {body : Code}
    (hbody : Balanced body) :
    Balanced (recovery s body) := by
  have herror : Balanced
      (if s.flag "logToConsole" then
        .line ["console.error('", s.literal "errorMessage", "', error);"]
      else .written noop) := by
    split
    · exact leads_line (by simp [(Subject.Speaks.any s).suits]) (by simp; decide)
    · exact balanced_noop
  refine Chain.stack (by simp) ?_
  refine chain_code (m := ['\x7b']) _ (by decide) (chain_body hbody 1 ?_)
  refine chain_code (m := ['\x7b']) _ (by decide) (chain_body herror 1 ?_)
  exact chain_constants (by decide)

/-- A handler of interactions that pass a test is balanced if its body is. -/
theorem balanced_onInteraction
    {test : List Piece}
    (hsuits : ∀ x ∈ test, x.Suits (lexis true) fun _ => true)
    (hform : (lexis true).formLeads
      ((Piece.code "  if (" :: (test ++ [.code ") \x7b"])).map Piece.slot) [] ['\x7b'] = true)
    {body : Code}
    (hbody : Balanced body) :
    Balanced (onInteraction test body) := by
  have htest : Leads (lexis true)
      ((Code.line (.code "  if (" :: (test ++ [.code ") \x7b"]))).write spelling)
      ['\x7b', '('] ['\x7b', '\x7b', '('] :=
    (leads_line (by simpa [or_imp, forall_and] using hsuits) hform).under ['\x7b', '(']
  refine Chain.stack (by simp) ?_
  refine chain_code (m := ['\x7b', '(']) _ (by decide) ⟨_, htest, chain_body hbody 2 ?_⟩
  exact chain_constants (by decide)

/-- The branch chain of a slash command is balanced if its body is. -/
theorem balanced_slashChain
    {body : Code}
    (hbody : Balanced body) :
    Balanced (slashChain body) := by
  refine Chain.stack (by simp) ?_
  refine chain_code (m := ['\x7b']) _ (by decide) (chain_body hbody 1 ?_)
  refine chain_code (m := ['\x7b']) _ (by decide) (chain_body hbody 1 ?_)
  refine chain_code (m := ['\x7b']) _ (by decide) (chain_body hbody 1 ?_)
  exact chain_constants (by decide)

/-- Each case of a dispatch opens its branch, after it has closed the one before. -/
theorem chain_cases
    {subcommands : List Subcommand}
    (h : ∀ sub ∈ subcommands, Balanced sub.body)
    (n : Nat)
    (hne : n = 0 → subcommands ≠ []) :
    Chain (lexis true) spelling
      ((subcommands.zipIdx n).flatMap fun (sub, index) =>
        [.line [.code (if index = 0 then "if" else "\x7d else if"), " (subcommand === '",
          .literal sub.name, "') \x7b"], sub.body.deeper])
      (if n = 0 then [] else ['\x7b']) ['\x7b'] := by
  induction subcommands generalizing n with
  | nil =>
      have hn : n ≠ 0 := fun hn => hne hn rfl
      rw [if_neg hn]
      rfl
  | cons sub rest ih =>
      rw [List.zipIdx_cons, List.flatMap_cons]
      have hrest := ih (fun sub hsub => h sub (by simp [hsub])) (n + 1) (by simp)
      rw [if_neg (by simp)] at hrest
      refine chain_line (m := ['\x7b']) (by simp) ?_ (chain_body (h sub (by simp)) 1 hrest)
      by_cases hn : n = 0
      · simp [hn]
        decide
      · simp [hn]
        decide

/-- The dispatch of a command to balanced subcommands is balanced. -/
theorem balanced_dispatch
    {subcommands : List Subcommand}
    (hne : subcommands ≠ [])
    (h : ∀ sub ∈ subcommands, Balanced sub.body) :
    Balanced (dispatch subcommands) := by
  refine Chain.stack (by simp) ?_
  refine chain_code (m := []) _ (by decide) ?_
  exact Chain.append (chain_cases h 0 fun _ => hne) (chain_constants (by decide))

/-- The name of an event is a name. -/
theorem isName_eventName
    (event : Text) :
    (lexis true).IsName (eventName event) :=
  IsName.filterOr (fun _ hc => hc) (.ofString (by decide)) event

/-- The handler of a trigger is balanced if its code is. -/
theorem balanced_handler
    (kind : TriggerKind)
    (guard : Text)
    {body : Code}
    {subcommands : List Subcommand}
    (hbody : subcommands = [] → Balanced body)
    (hsubs : ∀ sub ∈ subcommands, Balanced sub.body)
    (hkind : kind ≠ .slash → subcommands = []) :
    Balanced (handler kind guard body subcommands) := by
  have hguarded : ∀ {body label reply}, Balanced body →
      Balanced (if isNoop body then body else guarded label body reply) := by
    intro body label reply h
    split
    · exact h
    · exact balanced_guarded label h reply
  unfold handler
  cases kind with
  | slash =>
      simp only
      split
      · rename_i hempty
        have hchain := balanced_slashChain (hbody (List.isEmpty_iff.1 hempty))
        refine balanced_onInteraction (by simp) (by simp; decide) ?_
        split
        · exact hchain
        · exact balanced_guarded guard hchain true
      · rename_i hempty
        refine balanced_onInteraction (by simp) (by simp; decide) ?_
        exact balanced_guarded guard
          (balanced_dispatch (fun h => hempty (List.isEmpty_iff.2 h)) hsubs) true
  | component =>
      exact balanced_onInteraction (by simp) (by simp; decide) (hguarded (hbody (hkind (by simp))))
  | event =>
      have hname := isName_eventName guard
      refine Chain.stack (by simp) ?_
      refine chain_line (m := ['\x7b', '(']) (by simpa using hname) (by simp; decide) ?_
      refine chain_body (hguarded (hbody (hkind (by simp)))) 1 ?_
      exact chain_constants (by decide)

/-- A registration stands between the brackets of the list of commands. -/
theorem chain_registration
    (c : CommandSpec) :
    Chain (lexis true) spelling (registration c) ['['] ['['] := by
  unfold registration description
  simp only
  split
  · exact chain_line (m := ['[']) (by simp) (by simp; decide) rfl
  · refine chain_line (m := ['\x7b', '[']) (by simp) (by simp; decide) ?_
    refine chain_code (m := ['[', '\x7b', '[']) _ (by decide) ?_
    refine Chain.append (l := ['[', '\x7b', '[']) (.ofNeutral ?_ _) (chain_constants (by decide))
    intro part hpart
    obtain ⟨⟨name, summary⟩, -, rfl⟩ := List.mem_map.1 hpart
    exact leads_line (by simp) (by simp; decide)

/-- The footer is balanced. -/
theorem balanced_footer
    (commands : List CommandSpec) :
    Balanced (footer commands) := by
  have hcommands : ∀ specs : List CommandSpec,
      Chain (lexis true) spelling (specs.flatMap registration) ['['] ['['] := by
    intro specs
    induction specs with
    | nil => rfl
    | cons c rest ih =>
        rw [List.flatMap_cons]
        exact (chain_registration c).append ih
  refine Chain.stack (by simp) ?_
  refine chain_code (m := ['[']) _ (by decide) ?_
  exact (hcommands _).append (chain_constants (by decide))

/-- The header is balanced. -/
theorem balanced_header
    (types : List String) :
    Balanced (header types) := by
  have hvoice : Chain (lexis true) spelling
      (if usesAny types voiceTypes then [voiceImport] else []) [] [] := by
    split
    · exact chain_constants (by decide)
    · rfl
  refine Chain.stack (by simp [importLines]) ?_
  exact Chain.append (Chain.append (chain_constants (by decide)) hvoice)
    (chain_constants (by decide))

end Lines

end BotCanvas.Braced
