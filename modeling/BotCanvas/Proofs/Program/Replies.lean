import BotCanvas.Catalog.Builtin
import BotCanvas.Program.Target
import BotCanvas.Proofs.Braced.Literals
import BotCanvas.Proofs.Offside.Literals

/-!
# What a reply says

The literal of a reply, wherever it stands in a handler, reads back as the content of the reply, but
indentation takes the separators in it for line ends and puts spaces behind them
(`ReplyForm.read_content`). A content without separators survives.
-/

namespace BotCanvas

/-- How a target language writes a reply without an embed. -/
structure ReplyForm where
  dialect : Dialect
  /-- The form of the literal that carries the content. -/
  literal : LiteralForm
  /-- What stands before the content. -/
  opening : String
  /-- The statement. -/
  line : Subject → Code

namespace ReplyForm

/-- Replies in the language with braces. -/
def braced : ReplyForm :=
  ⟨Braced.dialect, Braced.template, "await interaction.reply(\x7b content: `", Braced.replyLine⟩

/-- Replies in the language with suites. -/
def offside : ReplyForm :=
  ⟨Offside.dialect, Offside.quoted, "await interaction.response.send_message(\"",
    Offside.replyLine⟩

/-- Replies in all target languages. -/
def all : List ReplyForm := [braced, offside]

/-- What is known of the replies of a target language. -/
structure Sound (f : ReplyForm) : Prop where
  spells : f.literal.Spells f.dialect.spelling.escape
  indent : ∃ k, f.dialect.spelling.indentUnit = List.replicate k ' '
  opening : (∀ c ∈ f.opening.toList, Text.isLineBreak c = false) ∧
    ∃ c r, f.opening.toList = c :: r ∧ Text.isBlank c = false
  line : ∀ s, ∃ post, (∀ c ∈ post, Text.isLineBreak c = false) ∧
    (f.line s).write f.dialect.spelling = f.opening.toList ++
      (f.dialect.spelling.escape (s.value "content").display ++ f.literal.quote :: post)
  keepsArms : f.dialect.KeepsArms
  handler : ∀ catalog trigger kind guard body subcommands code,
    code ∈ Dialect.bodiesOf kind body subcommands → ∀ tally,
      code.Inside (f.dialect.handler catalog trigger kind guard body subcommands tally).1
  action : ∀ s : Subject, s.block.type = "action_reply" → s.flag "useEmbed" = false →
    Emit.Gives (fun code => (f.line s).Inside code) (f.dialect.emitAction s)

theorem sound_braced :
    braced.Sound where
  spells := Braced.template_spells
  indent := ⟨2, rfl⟩
  opening := ⟨Text.unbroken_of_all (by decide), 'a', _, rfl, by decide⟩
  line s := by
    refine ⟨", ephemeral: ".toList ++ ((Braced.boolWord (s.flag "ephemeral")).write
      Braced.spelling ++ " \x7d);".toList), ?_, ?_⟩
    · refine Text.unbroken_of_all ?_
      cases s.flag "ephemeral" <;> decide
    · change (Braced.replyLine s).write Braced.spelling = _
      simp [Braced.replyLine, Code.write, Piece.write, Subject.literal, braced, Braced.dialect,
        Braced.spelling, Braced.template]
  keepsArms := Braced.keepsArms
  handler _ _ kind guard _ _ _ h _ := Braced.inside_handler kind guard h
  action s htype hembed := by
    rw [Dialect.emitAction, htype]
    exact Braced.reply_gives hembed

theorem sound_offside :
    offside.Sound where
  spells := Offside.quoted_spells
  indent := ⟨4, rfl⟩
  opening := ⟨Text.unbroken_of_all (by decide), 'a', _, rfl, by decide⟩
  line s := by
    refine ⟨", ephemeral=".toList ++ ((Offside.boolWord (s.flag "ephemeral")).write
      Offside.spelling ++ ")".toList), ?_, ?_⟩
    · refine Text.unbroken_of_all ?_
      cases s.flag "ephemeral" <;> decide
    · change (Offside.replyLine s).write Offside.spelling = _
      simp [Offside.replyLine, Code.write, Piece.write, Subject.literal, offside, Offside.dialect,
        Offside.spelling, Offside.quoted]
  keepsArms := Offside.keepsArms
  handler catalog trigger kind guard _ _ _ h tally :=
    Offside.inside_handler catalog trigger kind guard h tally
  action s htype hembed := by
    rw [Dialect.emitAction, htype]
    exact Offside.reply_gives hembed

theorem sound_of_mem
    {f : ReplyForm}
    (hf : f ∈ all) :
    f.Sound := by
  rcases List.mem_cons.1 hf with rfl | hf
  · exact sound_braced
  · rw [List.mem_singleton.1 hf]
    exact sound_offside

/-- The row of a reply at a depth: the content is read back with spaces after its separators. -/
theorem Sound.exists_row
    {f : ReplyForm}
    (hf : f.Sound)
    {s : Subject}
    {n : Nat}
    {whole : Code}
    (h : (f.line s).Within n whole) :
    ∃ k tail post, List.replicate k ' ' ++ (f.opening.toList ++ tail) ∈
        whole.rows f.dialect.spelling ∧
      f.literal.read tail =
        some (Text.respaced (List.replicate k ' ') (s.value "content").display, post) := by
  obtain ⟨width, hwidth⟩ := hf.indent
  obtain ⟨hunbroken, c, r, hcr, hblank⟩ := hf.opening
  obtain ⟨post, hpost, hwrite⟩ := hf.line s
  have hunbroken_r : ∀ d ∈ r, Text.isLineBreak d = false :=
    fun d hd => hunbroken d (by rw [hcr]; exact List.mem_cons_of_mem _ hd)
  have hline : ∀ t : Text, (∀ d ∈ t, Text.isLineBreak d = false) → '\n' ∉ t := by
    intro t ht hmem
    exact absurd (ht _ hmem) (by decide)
  have hrow : (f.line s).write f.dialect.spelling ∈ (f.line s).rows f.dialect.spelling := by
    rw [Code.rows_of_not_mem, List.mem_singleton]
    have hquote := Text.isLineBreak_of_not_isBlank hf.spells.quote.2
    have hclosing : '\n' ∉ f.literal.quote :: post :=
      hline _ (List.forall_mem_cons.2 ⟨hquote, hpost⟩)
    rw [hwrite, List.mem_append, List.mem_append, not_or, not_or]
    exact ⟨hline _ hunbroken, hf.spells.lineFeed_not_mem _, hclosing⟩
  refine ⟨n * width, _, post, ?_, hf.spells.read_inner (n * width) _ hpost⟩
  have hmem := h.indent_mem_rows hwidth hrow
  rw [hwrite, hcr, List.cons_append] at hmem
  have hindent := Text.indent_of_head (List.replicate (n * width) ' ') (a := []) (by simp) hblank
    (r ++ (f.dialect.spelling.escape (s.value "content").display ++ f.literal.quote :: post))
  rw [List.nil_append, List.append_nil, Text.inner_append_of_unbroken _ hunbroken_r] at hindent
  rw [hindent] at hmem
  rw [hcr]
  exact hmem

/--
In the handler of a trigger of any kind around a flow that reaches a reply, at any depth, the reply
is written at least once. Wherever it is written, its literal reads back as the content with spaces
after its separators: as the content itself if there are none.
-/
theorem read_content
    {f : ReplyForm}
    (hf : f ∈ all)
    {catalog : Catalog}
    {b : Block}
    (htype : b.type = "action_reply")
    (hembed : (Subject.mk catalog b).flag "useEmbed" = false)
    {content : Text}
    (hcontent : ((Subject.mk catalog b).value "content").display = content)
    {steps : List Step}
    (hreach : Flow.Reaches b steps)
    {scope scope' : Scope}
    {code : Code}
    (hflow : (f.dialect.emitFlow catalog steps).run.run scope = (.ok code, scope'))
    {kind : TriggerKind}
    {body : Code}
    {subcommands : List Subcommand}
    (hbody : code ∈ Dialect.bodiesOf kind body subcommands)
    (trigger : Option Block)
    (guard : Text)
    {tally tally' : Tally}
    {handler : Code}
    (hhandler : f.dialect.handler catalog trigger kind guard body subcommands tally =
      (handler, tally')) :
    (f.line ⟨catalog, b⟩).Inside handler ∧
      ∀ n, (f.line ⟨catalog, b⟩).Within n handler →
        ∃ k tail decoded rest,
          List.replicate k ' ' ++ (f.opening.toList ++ tail) ∈
            handler.rows f.dialect.spelling ∧
          f.literal.read tail = some (decoded, rest) ∧
          decoded = Text.respaced (List.replicate k ' ') content ∧
          ((∀ c ∈ content, Text.isSeparator c = false) → decoded = content) := by
  have hsound := sound_of_mem hf
  constructor
  · -- the code of the flow holds the reply, and the handler holds that code
    have hplain : Flow.branching? b.type = none := by
      rw [htype]
      decide
    have hinside := (Dialect.emitFlow_holds hsound.keepsArms hplain
      (hsound.action _ htype hembed) hreach).of_run hflow
    have hhandled := hsound.handler catalog trigger kind guard body subcommands code hbody tally
    rw [hhandler] at hhandled
    exact hinside.trans hhandled
  · intro n hwithin
    obtain ⟨k, tail, rest, hrow, hread⟩ := hsound.exists_row hwithin
    subst hcontent
    exact ⟨k, tail, _, rest, hrow, hread, rfl, Text.respaced_of_all _⟩

/-- A reply with a text. -/
def replyBlock (content : String) : Block :=
  ⟨"1", "action_reply", .zero, .zero, [("content", .str content)], "", ""⟩

/-- A question with a reply if the answer is yes. -/
def askedReply (content : String) : List Step :=
  [.mk ⟨"2", "if_condition", .zero, .zero, [("condition", .str "a > 1")], "", ""⟩
    [("true", [.plain (replyBlock content)]), ("false", [])]]

/-- The handler of an event around a flow. -/
def eventHandler (f : ReplyForm) (steps : List Step) : Code :=
  match (f.dialect.emitFlow .builtin steps).run.run .empty with
  | (.ok body, _) => (f.dialect.handler .builtin none .event "ready" body [] []).1
  | (.error _, _) => .written []

/-- A content full of marks. -/
def markedContent : String := "it's \x60$\x7bhere\x7d\x60\n\"\\"

/-- A content full of marks is read back from a reply inside a branch. -/
theorem read_content_askedReply :
    ∃ k tail rest, List.replicate k ' ' ++ (braced.opening.toList ++ tail) ∈
        (eventHandler braced (askedReply markedContent)).rows Braced.spelling ∧
      braced.literal.read tail = some (markedContent.toList, rest) := by
  have hembed : (Subject.mk .builtin (replyBlock markedContent)).flag "useEmbed" = false := by
    decide +kernel
  have hcontent : ((Subject.mk .builtin (replyBlock markedContent)).value "content").display =
      markedContent.toList := by
    decide +kernel
  have hreach : Flow.Reaches (replyBlock markedContent) (askedReply markedContent) :=
    .arm (show Flow.branching? "if_condition" = some .choice by decide)
      (show "true" ∈ ["true", "false"] by decide) rfl .here
  obtain ⟨code, scope, hflow⟩ : ∃ code scope,
      (braced.dialect.emitFlow .builtin (askedReply markedContent)).run.run .empty =
        (.ok code, scope) :=
    ⟨_, _, rfl⟩
  obtain ⟨handler, tally, hhandler⟩ : ∃ handler tally,
      braced.dialect.handler .builtin none .event "ready" code [] [] = (handler, tally) :=
    ⟨_, _, rfl⟩
  have hbody : code ∈ Dialect.bodiesOf .event code [] := List.mem_singleton.2 rfl
  obtain ⟨⟨n, hwithin⟩, hread⟩ := read_content (by simp [all]) rfl hembed hcontent hreach hflow
    hbody none "ready" hhandler
  obtain ⟨k, tail, decoded, rest, hrow, htail, -, hdecoded⟩ := hread n hwithin
  have hseparators : (markedContent.toList.all fun c => !Text.isSeparator c) = true := by
    decide +kernel
  have hplain : ∀ c ∈ markedContent.toList, Text.isSeparator c = false := by
    intro c hc
    simpa using List.all_eq_true.1 hseparators c hc
  have heq : eventHandler braced (askedReply markedContent) = handler := by
    rw [eventHandler, hflow]
    exact congrArg Prod.fst hhandler
  refine ⟨k, tail, rest, ?_, ?_⟩
  · rw [heq]
    exact hrow
  · rw [htail, hdecoded hplain]

/-- A content with a separator does not survive. -/
theorem not_forall_read_content :
    ¬∀ f ∈ all, ∀ (content : String) (k : Nat) (tail : Text),
      List.replicate k ' ' ++ (f.opening.toList ++ tail) ∈
          (eventHandler f [.plain (replyBlock content)]).rows f.dialect.spelling →
        ∃ rest, f.literal.read tail = some (content.toList, rest) := by
  intro h
  obtain ⟨rest, hrest⟩ := h offside (by simp [all]) "a\u2028b" 8
    "a\u2028        b\", ephemeral=False)" (by decide +kernel)
  have hread : (offside.literal.read "a\u2028        b\", ephemeral=False)").map Prod.fst =
      some "a\u2028        b".toList := by
    decide +kernel
  have hne : ("a\u2028b".toList : Text) ≠ "a\u2028        b".toList := by
    decide
  rw [hrest] at hread
  exact hne (Option.some.inj hread)

end ReplyForm

end BotCanvas
