import BotCanvas.Program.Target
import BotCanvas.Proofs.Braced.Literals
import BotCanvas.Proofs.Offside.Declarations

/-!
# Who sees a reply

A reply answers with a text or with an embed, and says whether only the member who asked sees the
answer. Both are read back from the rows that the reply is written in (`ReplyWording.flag?`), whatever
the text or the embed holds. The code of a reply always has exactly one such row, and what the row
says is the property of the block that takes effect (`exists_emitAction`).
-/

namespace BotCanvas

/-- How a target language writes replies. -/
structure ReplyWording where
  dialect : Dialect
  /-- The form of the literal that carries a text. -/
  literal : LiteralForm
  /-- What every reply starts with. -/
  opening : String
  /-- What opens the literal of a text. -/
  text : String
  /-- What stands before the name of an embed. -/
  embed : String
  /-- What stands behind the name of an embed. -/
  embedEnd : String
  /-- What ends a reply that is seen by the member alone, or by everyone. -/
  closing : Bool → String

namespace ReplyWording

/-- Replies in the language with braces. -/
def braced : ReplyWording where
  dialect := Braced.dialect
  literal := Braced.template
  opening := "await interaction.reply(\x7b "
  text := "content: \x60"
  embed := "embeds: ["
  embedEnd := "]"
  closing hidden := if hidden then ", ephemeral: true \x7d);" else ", ephemeral: false \x7d);"

/-- Replies in the language with suites. -/
def offside : ReplyWording where
  dialect := Offside.dialect
  literal := Offside.quoted
  opening := "await interaction.response.send_message("
  text := "\""
  embed := "embed="
  embedEnd := ""
  closing hidden := if hidden then ", ephemeral=True)" else ", ephemeral=False)"

/-- Replies in all target languages. -/
def all : List ReplyWording := [braced, offside]

/-! ## Reading rows -/

/-- What follows the text or the embed of a reply. -/
def behind? (f : ReplyWording) (t : Text) : Option Text :=
  match t.dropPrefix? f.text.toList with
  | some r => (f.literal.read r).map Prod.snd
  | none =>
      (t.dropPrefix? f.embed.toList).bind fun r =>
        (r.dropWhile Text.isWord).dropPrefix? f.embedEnd.toList

/-- Whether the reply of a row is seen by the member alone, if the row is a reply. -/
def flag? (f : ReplyWording) (row : Text) : Option Bool :=
  ((row.dropPrefix? f.opening.toList).bind f.behind?).bind fun rest =>
    [true, false].find? fun hidden => rest = (f.closing hidden).toList

/-- What the replies of code say of who sees them, reply by reply. -/
def flags (f : ReplyWording) (c : Code) : List Bool :=
  (c.rows f.dialect.spelling).filterMap f.flag?

/-- What is known of how a target language writes replies. -/
structure Sound (f : ReplyWording) : Prop where
  spells : f.literal.Spells f.dialect.spelling.escape
  quote : f.literal.quote ≠ '\n'
  opening : ∃ r, f.opening.toList = 'a' :: r
  rows : ∀ s ∈ [f.opening, f.text, f.embed, f.embedEnd], '\n' ∉ s.toList
  closing : ∀ hidden, '\n' ∉ (f.closing hidden).toList
  embed : ∀ r, (f.embed.toList ++ r).dropPrefix? f.text.toList = none
  embedEnd : ∀ hidden, ∃ c r, f.embedEnd.toList ++ (f.closing hidden).toList = c :: r ∧
    Text.isWord c = false
  words : (f.closing true).toList ≠ (f.closing false).toList

variable {f : ReplyWording}

/-- A row that does not start like a reply is none. -/
theorem Sound.flag?_eq_none
    (hf : f.Sound)
    {row : Text}
    (h : row.head? ≠ some 'a') :
    f.flag? row = none := by
  obtain ⟨r, hr⟩ := hf.opening
  have hnot : row.dropPrefix? f.opening.toList = none := by
    rw [hr]
    cases row with
    | nil => rfl
    | cons c row =>
        have hc : (c == 'a') = false := by
          rw [beq_eq_false_iff_ne]
          rintro rfl
          exact h rfl
        rw [List.dropPrefix?, hc]
        rfl
  rw [flag?, hnot]
  rfl

/-- What the end of a reply says is read from it. -/
theorem Sound.find?_closing
    (hf : f.Sound)
    (hidden : Bool) :
    ([true, false].find? fun h => (f.closing hidden).toList = (f.closing h).toList) =
      some hidden := by
  cases hidden with
  | true => simp
  | false => simp [hf.words.symm]

/-- The row of a reply with a text says who sees it, whatever the text is. -/
theorem Sound.flag?_text
    (hf : f.Sound)
    (t : Text)
    (hidden : Bool) :
    f.flag? (f.opening.toList ++ (f.text.toList ++ (f.dialect.spelling.escape t ++
      f.literal.quote :: (f.closing hidden).toList))) = some hidden := by
  rw [flag?, Text.dropPrefix?_append, Option.bind_some, behind?, Text.dropPrefix?_append]
  simp only [hf.spells.read_append, Option.map_some, Option.bind_some]
  exact hf.find?_closing hidden

/-- The row of a reply with an embed says who sees it. -/
theorem Sound.flag?_embed
    (hf : f.Sound)
    {name : Text}
    (hname : Text.IsVariable name)
    (hidden : Bool) :
    f.flag? (f.opening.toList ++ (f.embed.toList ++ (name ++ (f.embedEnd.toList ++
      (f.closing hidden).toList)))) = some hidden := by
  obtain ⟨c, r, hend, hc⟩ := hf.embedEnd hidden
  have hdrop : (name ++ (f.embedEnd.toList ++ (f.closing hidden).toList)).dropWhile Text.isWord =
      f.embedEnd.toList ++ (f.closing hidden).toList := by
    rw [hend]
    exact hname.dropWhile_append hc r
  rw [flag?, Text.dropPrefix?_append, Option.bind_some, behind?, hf.embed]
  simp only [Text.dropPrefix?_append, hdrop, Option.bind_some]
  exact hf.find?_closing hidden

/-! ## The code of replies -/

/-- The only reply in code that is written in its row. -/
theorem flags_of_write
    {c : Code}
    {row : Text}
    {hidden : Bool}
    (hwrite : c.write f.dialect.spelling = row)
    (hrow : '\n' ∉ row)
    (hflag : f.flag? row = some hidden) :
    f.flags c = [hidden] := by
  rw [flags, Code.rows_of_not_mem (by rw [hwrite]; exact hrow), hwrite, List.filterMap_cons, hflag]
  rfl

/-- A reply with a text, in one row. -/
theorem Sound.flags_text
    (hf : f.Sound)
    {c : Code}
    {t : Text}
    {hidden : Bool}
    (hwrite : c.write f.dialect.spelling =
      f.opening.toList ++ (f.text.toList ++ (f.dialect.spelling.escape t ++
        f.literal.quote :: (f.closing hidden).toList))) :
    f.flags c = [hidden] := by
  refine flags_of_write hwrite ?_ (hf.flag?_text t hidden)
  have hopening := hf.rows f.opening (by simp)
  have htext := hf.rows f.text (by simp)
  simp only [List.mem_append, List.mem_cons, not_or]
  exact ⟨hopening, htext, hf.spells.lineFeed_not_mem t, hf.quote.symm, hf.closing hidden⟩

/-- A reply with an embed, in one row below the rows that make the embed. -/
theorem Sound.flags_embed
    (hf : f.Sound)
    {made c : Code}
    (hmade : ∀ row ∈ made.rows f.dialect.spelling, row.head? ≠ some 'a')
    {name : Text}
    (hname : Text.IsVariable name)
    {hidden : Bool}
    (hwrite : c.write f.dialect.spelling =
      f.opening.toList ++ (f.embed.toList ++ (name ++ (f.embedEnd.toList ++
        (f.closing hidden).toList)))) :
    f.flags (.stack [made, c]) = [hidden] := by
  have hnone : (made.rows f.dialect.spelling).filterMap f.flag? = [] :=
    List.filterMap_eq_nil_iff.2 fun row hrow => hf.flag?_eq_none (hmade row hrow)
  have hopening := hf.rows f.opening (by simp)
  have hembed := hf.rows f.embed (by simp)
  have hend := hf.rows f.embedEnd (by simp)
  have hone : f.flags c = [hidden] := by
    refine flags_of_write hwrite ?_ (hf.flag?_embed hname hidden)
    simp only [List.mem_append, not_or]
    exact ⟨hopening, hembed, hname.lineFeed_not_mem, hend, hf.closing hidden⟩
  rw [flags, Code.rows_stack (by simp), List.flatMap_cons, List.flatMap_singleton,
    List.filterMap_append, hnone]
  exact hone

theorem sound_braced :
    braced.Sound where
  spells := Braced.template_spells
  quote := by decide
  opening := ⟨_, rfl⟩
  rows := by decide
  closing := by decide
  embed _ := rfl
  embedEnd hidden := ⟨']', (braced.closing hidden).toList, rfl, by decide⟩
  words := by decide

theorem sound_offside :
    offside.Sound where
  spells := Offside.quoted_spells
  quote := by decide
  opening := ⟨_, rfl⟩
  rows := by decide
  closing := by decide
  embed _ := rfl
  embedEnd hidden := by cases hidden <;> exact ⟨',', _, rfl, by decide⟩
  words := by decide

/-- The name of an embed is a variable, and does not start like a reply. -/
theorem embedName
    (tally : Tally) :
    Text.IsVariable (tally.nextName "embed".toList) ∧
      (tally.nextName "embed".toList).head? ≠ some 'a' := by
  refine ⟨(Text.IsVariable.ofString (by decide)).nextName tally, ?_⟩
  unfold Tally.nextName
  simp only
  split
  · decide
  · simp

/-- Making an embed in the language with braces takes four rows, none of which starts like a reply. -/
theorem braced_embed
    (title description : Text)
    (v : Value)
    (σ : Scope) :
    ∃ made σ', (Braced.embed (.literal title) (.literal description) v.asColour).run.run σ =
        (.ok (σ.locals.nextName "embed".toList, made), σ') ∧
      ∀ row ∈ made.rows Braced.spelling, row.head? ≠ some 'a' := by
  refine ⟨_, _, rfl, ?_⟩
  obtain ⟨digits, hdigits, -, hplain⟩ := Lexis.exists_asColour v
  obtain ⟨hname, -⟩ := embedName σ.locals
  generalize σ.locals.nextName "embed".toList = name at hname ⊢
  rw [hdigits]
  have hwrite : (Code.line ["const ", .name name, " = new EmbedBuilder()\n  .setTitle(\x60",
        .literal title, "\x60)\n  .setDescription(\x60", .literal description,
        "\x60)\n  .setColor('", .name ('#' :: digits), "');"]).write Braced.spelling =
      ("const ".toList ++ (name ++ " = new EmbedBuilder()".toList)) ++ '\n' ::
        (("  .setTitle(\x60".toList ++ (Braced.escape title ++ "\x60)".toList)) ++ '\n' ::
          (("  .setDescription(\x60".toList ++ (Braced.escape description ++ "\x60)".toList)) ++
            '\n' :: ("  .setColor('#".toList ++ (digits ++ "');".toList)))) := by
    simp [Code.write, Piece.write, Braced.spelling]
  have hescape : ∀ t, '\n' ∉ Braced.escape t := Braced.template_spells.lineFeed_not_mem
  have hdigit : '\n' ∉ digits := fun h => absurd (hplain _ h) (by decide)
  have hrow : ∀ (a b : String) (t : Text), '\n' ∉ a.toList → '\n' ∉ b.toList → '\n' ∉ t →
      Text.splitOn '\n' (a.toList ++ (t ++ b.toList)) = [a.toList ++ (t ++ b.toList)] := by
    intro a b t ha hb ht
    refine Text.splitOn_of_not_mem ?_
    simp only [List.mem_append, not_or]
    exact ⟨ha, ht, hb⟩
  rw [Code.rows, hwrite, Text.splitOn_append, Text.splitOn_append, Text.splitOn_append,
    hrow _ _ _ (by decide) (by decide) hname.lineFeed_not_mem,
    hrow _ _ _ (by decide) (by decide) (hescape title),
    hrow _ _ _ (by decide) (by decide) (hescape description),
    hrow _ _ _ (by decide) (by decide) hdigit]
  simp

/-- Making an embed in the language with suites takes one row, which assigns it. -/
theorem offside_embed
    (title description : Text)
    (v : Value)
    (σ : Scope) :
    ∃ made σ', (Offside.embed (.literal title) (.literal description) v.asColour).run.run σ =
        (.ok (σ.locals.nextName "embed".toList, made), σ') ∧
      ∃ rest, made.rows Offside.spelling =
        [σ.locals.nextName "embed".toList ++ (" = discord.Embed(title=\"".toList ++ rest)] := by
  refine ⟨_, _, rfl, ?_⟩
  obtain ⟨digits, hdigits, -, hplain⟩ := Lexis.exists_asColour v
  obtain ⟨hname, -⟩ := embedName σ.locals
  generalize σ.locals.nextName "embed".toList = name at hname ⊢
  have hwrite : (Code.line [.name name, " = discord.Embed(title=\"", .literal title,
        "\", description=\"", .literal description, "\", color=",
        .name (Text.replaceChar '#' "0x" v.asColour), ")"]).write Offside.spelling =
      name ++ (" = discord.Embed(title=\"".toList ++ (Offside.escape title ++
        ("\", description=\"".toList ++ (Offside.escape description ++ ("\", color=".toList ++
          (Text.replaceChar '#' "0x" v.asColour ++ ")".toList)))))) := by
    simp [Code.write, Piece.write, Offside.spelling]
  have hescape : ∀ t, '\n' ∉ Offside.escape t := Offside.quoted_spells.lineFeed_not_mem
  have hcolour : '\n' ∉ Text.replaceChar '#' "0x" v.asColour := by
    intro h
    obtain ⟨c, hc, hmem⟩ := List.mem_flatMap.1 h
    rw [hdigits] at hc
    split at hmem
    · exact absurd hmem (by decide)
    · obtain rfl := List.mem_singleton.1 hmem
      obtain hc | hc := List.mem_cons.1 hc
      · cases hc
      · exact absurd (hplain _ hc) (by decide)
  have hrow : '\n' ∉ (" = discord.Embed(title=\"".toList ++ (Offside.escape title ++
      ("\", description=\"".toList ++ (Offside.escape description ++ ("\", color=".toList ++
        (Text.replaceChar '#' "0x" v.asColour ++ ")".toList)))))) := by
    simp only [List.mem_append, not_or]
    exact ⟨by decide, hescape title, by decide, hescape description, by decide, hcolour, by decide⟩
  refine ⟨_, (Code.rows_of_not_mem ?_).trans (congrArg (fun row => [row]) hwrite)⟩
  rw [hwrite, List.mem_append, not_or]
  exact ⟨hname.lineFeed_not_mem, hrow⟩

/-! ## Emission of replies -/

/-- The code of a reply in the language with braces replies once, and says who sees it. -/
theorem braced_emitAction
    {s : Subject}
    (htype : s.block.type = "action_reply")
    (σ : Scope) :
    ∃ code σ', (Braced.dialect.emitAction s).run.run σ = (.ok code, σ') ∧
      braced.flags code = [s.flag "ephemeral"] := by
  have haction : Braced.dialect.emitAction s = Braced.reply s := by
    rw [Dialect.emitAction, htype]
    rfl
  rw [haction, Braced.reply]
  cases hembed : s.flag "useEmbed" with
  | false =>
      refine ⟨_, _, rfl, sound_braced.flags_text (t := (s.value "content").display) ?_⟩
      cases s.flag "ephemeral" <;>
        simp [Code.write, Piece.write, Subject.literal, Braced.boolWord, braced, Braced.template]
  | true =>
      obtain ⟨made, σ', hrun, hmade⟩ := braced_embed (s.value "embed_title").display
        (s.value "embed_description").display (s.value "embed_color") σ
      obtain ⟨hname, -⟩ := embedName σ.locals
      generalize σ.locals.nextName "embed".toList = name at hrun hname
      rw [if_pos rfl, Emit.run_bind, Braced.messageEmbed, Subject.literal, Subject.literal, hrun]
      refine ⟨_, _, rfl, ?_⟩
      refine sound_braced.flags_embed hmade hname ?_
      cases s.flag "ephemeral" <;> simp [Code.write, Piece.write, Braced.boolWord, braced]

/-- The code of a reply in the language with suites replies once, and says who sees it. -/
theorem offside_emitAction
    {s : Subject}
    (htype : s.block.type = "action_reply")
    (σ : Scope) :
    ∃ code σ', (Offside.dialect.emitAction s).run.run σ = (.ok code, σ') ∧
      offside.flags code = [s.flag "ephemeral"] := by
  have haction : Offside.dialect.emitAction s = Offside.reply s := by
    rw [Dialect.emitAction, htype]
    rfl
  rw [haction, Offside.reply]
  cases hembed : s.flag "useEmbed" with
  | false =>
      refine ⟨_, _, rfl, sound_offside.flags_text (t := (s.value "content").display) ?_⟩
      cases s.flag "ephemeral" <;>
        simp [Code.write, Piece.write, Subject.literal, Offside.boolWord, offside, Offside.quoted]
  | true =>
      obtain ⟨made, σ', hrun, rest, hmade⟩ := offside_embed (s.value "embed_title").display
        (s.value "embed_description").display (s.value "embed_color") σ
      obtain ⟨hname, hhead⟩ := embedName σ.locals
      generalize σ.locals.nextName "embed".toList = name at hrun hmade hname hhead
      have hrows : ∀ row ∈ made.rows Offside.spelling, row.head? ≠ some 'a' := by
        intro row hrow
        rw [hmade, List.mem_singleton] at hrow
        rw [hrow, List.head?_append_of_ne_nil _ hname.1]
        exact hhead
      rw [if_pos rfl, Emit.run_bind, Offside.messageEmbed, Subject.literal, Subject.literal, hrun]
      refine ⟨_, _, rfl, sound_offside.flags_embed hrows hname ?_⟩
      cases s.flag "ephemeral" <;> simp [Code.write, Piece.write, Offside.boolWord, offside]

/-- In every target language the code of a reply is there, and replies once. It is seen by the member
alone just if the property that takes effect says so. -/
theorem exists_emitAction
    {f : ReplyWording}
    (hf : f ∈ all)
    {s : Subject}
    (htype : s.block.type = "action_reply")
    (σ : Scope) :
    ∃ code σ', (f.dialect.emitAction s).run.run σ = (.ok code, σ') ∧
      f.flags code = [s.flag "ephemeral"] := by
  obtain rfl | hf := List.mem_cons.1 hf
  · exact braced_emitAction htype σ
  · obtain rfl := List.mem_singleton.1 hf
    exact offside_emitAction htype σ

end ReplyWording

end BotCanvas
