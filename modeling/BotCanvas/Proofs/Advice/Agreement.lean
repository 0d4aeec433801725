import BotCanvas.Catalog.Builtin
import BotCanvas.Proofs.Advice.Warnings
import BotCanvas.Proofs.Offside.Channels

/-!
# Warnings about replies and channels

Two rules look at properties: a reply that everyone sees is public, and a message to a channel given
by digits is tied to one server. The rules read what a block stores. The code is written for what
takes effect, which is the stored property unless it is unset, and a default of the type otherwise.

The rules agree with the code just as far as the two readings do (`reported_replies_iff`,
`reported_channels_iff`): no reply may be hidden by a default, and no channel may be given by the
number zero or by a default.
-/

namespace BotCanvas

open Catalog

namespace Value

/-- An unset value does not say yes. -/
theorem asFlag_of_isUnset
    {v : Value}
    (h : isUnset v = true) :
    v.asFlag = false := by
  cases v with
  | null => rfl
  | str s =>
      rw [asFlag, Text.strip_of_all h]
      decide
  | _ => cases h

/-- An unset value is no row of digits. -/
theorem not_isNumeral_of_isUnset
    {v : Value}
    (h : isUnset v = true) :
    Text.isNumeral (Text.strip v.displayPresent) = false := by
  cases v with
  | null => decide
  | str s =>
      have hblank : Text.strip (str s).displayPresent = [] := by
        refine Text.strip_of_all ?_
        rw [displayPresent]
        split
        · exact h
        · rfl
      rw [hblank]
      rfl
  | _ => cases h

/-- A value that is not unset is shown as digits and counts as present with them, unless it is the
number zero. -/
theorem isNumeral_displayPresent
    {v : Value}
    (h : isUnset v = false) :
    Text.isNumeral (Text.strip v.displayPresent) = true ↔
      Text.isNumeral (Text.strip v.display) = true ∧ v ≠ .int 0 := by
  cases hpresent : v.isPresent with
  | true =>
      have hzero : v ≠ .int 0 := by
        rintro rfl
        cases hpresent
      rw [displayPresent, hpresent, if_pos rfl]
      exact ⟨fun hdigits => ⟨hdigits, hzero⟩, And.left⟩
  | false =>
      have hempty : Text.isNumeral (Text.strip v.displayPresent) = false := by
        rw [displayPresent, hpresent]
        rfl
      rw [hempty]
      refine iff_of_false Bool.false_ne_true ?_
      rintro ⟨hdigits, hzero⟩
      revert hdigits
      -- what is not present and not unset: false, a zero, a list or an object without parts
      cases v with
      | null => cases h
      | bool b =>
          obtain rfl : b = false := hpresent
          decide
      | int n =>
          obtain rfl : n = 0 := by simpa [isPresent] using hpresent
          exact absurd rfl hzero
      | float x =>
          obtain ⟨negative, rfl⟩ : ∃ negative, x = .finite negative 0 := by
            cases x with
            | finite negative units =>
                cases units with
                | zero => exact ⟨negative, rfl⟩
                | succ n => cases hpresent
            | nan => cases hpresent
            | infinite negative => cases hpresent
          cases negative <;> decide
      | str s =>
          have hs : s.toList = [] := by simpa [isPresent] using hpresent
          rw [isUnset, hs] at h
          cases h
      | arr items =>
          obtain rfl : items = [] := by simpa [isPresent] using hpresent
          decide
      | obj fields =>
          obtain rfl : fields = [] := by simpa [isPresent] using hpresent
          decide

end Value

namespace Subject

/-- A property that is stored takes effect as it is stored. -/
theorem value_of_stored
    {s : Subject}
    {key : String}
    (h : isUnset (s.stored key) = false) :
    s.value key = s.stored key := by
  have hstored : isUnset ((getField? key s.block.properties).getD .null) = false := h
  rw [value, valueOr, resolve]
  simp only [hstored, Bool.not_false, if_true]
  rfl

end Subject

namespace Advice

variable {catalog : Catalog}
variable {canvas : Canvas}

/-! ## What the rules report -/

/-- The identifiers that a rule reports, finding by finding. -/
def reported (catalog : Catalog) (canvas : Canvas) (rule : String) : List String :=
  ((analyze catalog canvas).filter fun f => f.rule == rule).flatMap Finding.blocks

/-- Findings that go by one name are all of a rule or none of them. -/
theorem filter_rule
    {findings : List Finding}
    {own : String}
    (h : ∀ f ∈ findings, f.rule = own)
    (rule : String) :
    (findings.filter fun f => f.rule == rule) = if own = rule then findings else [] := by
  split
  · rename_i heq
    exact List.filter_eq_self.2 fun f hf => by rw [h f hf, heq, beq_self_eq_true]
  · rename_i hne
    exact List.filter_eq_nil_iff.2 fun f hf => by rwa [h f hf, beq_iff_eq]

/-- Findings made for blocks name these blocks. -/
theorem flatMap_blocks_map
    {finding : Block → Finding}
    (hblocks : ∀ b, (finding b).blocks = [b.id])
    (bs : List Block) :
    (bs.map finding).flatMap Finding.blocks = bs.map Block.id := by
  rw [List.flatMap_map, ← List.flatMap_pure_eq_map]
  exact List.flatMap_congr fun b _ => hblocks b

/-- The findings of a rule are those that it makes. -/
theorem filter_analyze
    (catalog : Catalog)
    (canvas : Canvas)
    (rule : String) :
    ((analyze catalog canvas).filter fun f => f.rule == rule) =
      (if "orphaned-block" = rule then orphanedBlocks catalog canvas else []) ++
        (if "dead-end-trigger" = rule then deadEndTriggers catalog canvas else []) ++
        (if "infinite-loop-self" = rule then selfLoops canvas else []) ++
        (if "missing-perm-check" = rule then uncheckedModeration catalog canvas else []) ++
        (if "public-reply-spam" = rule then publicReplies canvas else []) ++
        (if "hardcoded-channel" = rule then hardcodedChannels canvas else []) ++
        (if "heavy-db-usage" = rule then heavyDataUsage catalog canvas else []) := by
  have horphaned : ∀ f ∈ orphanedBlocks catalog canvas, f.rule = "orphaned-block" :=
    List.forall_mem_map.2 fun _ _ => rfl
  have hidle : ∀ f ∈ deadEndTriggers catalog canvas, f.rule = "dead-end-trigger" :=
    List.forall_mem_map.2 fun _ _ => rfl
  have hloops : ∀ f ∈ selfLoops canvas, f.rule = "infinite-loop-self" :=
    List.forall_mem_map.2 fun _ _ => rfl
  have hmoderation : ∀ f ∈ uncheckedModeration catalog canvas, f.rule = "missing-perm-check" := by
    simp only [uncheckedModeration]
    split
    · exact List.forall_mem_nil _
    · exact List.forall_mem_singleton.2 rfl
  have hreplies : ∀ f ∈ publicReplies canvas, f.rule = "public-reply-spam" :=
    List.forall_mem_map.2 fun _ _ => rfl
  have hchannels : ∀ f ∈ hardcodedChannels canvas, f.rule = "hardcoded-channel" :=
    List.forall_mem_map.2 fun _ _ => rfl
  have hdata : ∀ f ∈ heavyDataUsage catalog canvas, f.rule = "heavy-db-usage" := by
    simp only [heavyDataUsage]
    split
    · exact List.forall_mem_nil _
    · exact List.forall_mem_singleton.2 rfl
  rw [analyze]
  simp only [List.filter_append, filter_rule horphaned, filter_rule hidle, filter_rule hloops,
    filter_rule hmoderation, filter_rule hreplies, filter_rule hchannels, filter_rule hdata]

/-- The replies that are reported are those that do not store that they are hidden. -/
theorem reported_replies
    (catalog : Catalog)
    (canvas : Canvas) :
    reported catalog canvas "public-reply-spam" =
      (canvas.blocks.filter fun b =>
        b.type == "action_reply" && !(stored b "ephemeral").asFlag).map Block.id := by
  have hrule : ((analyze catalog canvas).filter fun f => f.rule == "public-reply-spam") =
      publicReplies canvas := by
    rw [filter_analyze]
    simp
  rw [reported, hrule, publicReplies]
  exact flatMap_blocks_map (fun _ => rfl) _

/-- The messages that are reported are those that store a row of digits. -/
theorem reported_channels
    (catalog : Catalog)
    (canvas : Canvas) :
    reported catalog canvas "hardcoded-channel" =
      (canvas.blocks.filter fun b => b.type == "send_message" &&
        Text.isNumeral (Text.strip (stored b "channel_id").displayPresent)).map Block.id := by
  have hrule : ((analyze catalog canvas).filter fun f => f.rule == "hardcoded-channel") =
      hardcodedChannels canvas := by
    rw [filter_analyze]
    simp
  rw [reported, hrule, hardcodedChannels]
  exact flatMap_blocks_map (fun _ => rfl) _

/-! ## What the code does -/

/-- A reply whose code, in every target language and under whatever names, replies once, and so that
everyone sees it. -/
def RepliesPublicly (catalog : Catalog) (b : Block) : Prop :=
  b.type = "action_reply" ∧ ∀ f ∈ ReplyWording.all, ∀ σ, ∃ code σ',
    (f.dialect.emitAction ⟨catalog, b⟩).run.run σ = (.ok code, σ') ∧ f.flags code = [false]

/-- A message whose code in the language with suites, under whatever names, fetches a channel by a
row of digits. -/
def FetchesByDigits (catalog : Catalog) (b : Block) : Prop :=
  b.type = "send_message" ∧ ∀ σ, ∃ code σ' digits,
    (Offside.dialect.emitAction ⟨catalog, b⟩).run.run σ = (.ok code, σ') ∧
      Offside.numbers code = [digits]

/-- The code replies publicly if the property that takes effect does not hide the reply. -/
theorem repliesPublicly_iff
    {b : Block} :
    RepliesPublicly catalog b ↔
      b.type = "action_reply" ∧ (Subject.mk catalog b).flag "ephemeral" = false := by
  constructor
  · rintro ⟨htype, h⟩
    obtain ⟨code, σ', hrun, hflags⟩ := h .braced (by simp [ReplyWording.all]) .empty
    obtain ⟨code', σ'', hrun', hflags'⟩ := ReplyWording.exists_emitAction
      (f := .braced) (by simp [ReplyWording.all]) (s := ⟨catalog, b⟩) htype .empty
    obtain rfl : code = code' := by
      rw [hrun] at hrun'
      exact Except.ok.inj (Prod.mk.inj hrun').1
    rw [hflags] at hflags'
    exact ⟨htype, (List.singleton_inj.1 hflags').symm⟩
  · rintro ⟨htype, hflag⟩
    refine ⟨htype, fun f hf σ => ?_⟩
    rw [← hflag]
    exact ReplyWording.exists_emitAction hf htype σ

/-- The code fetches by digits if the property that takes effect is a row of digits. -/
theorem fetchesByDigits_iff
    {b : Block} :
    FetchesByDigits catalog b ↔ b.type = "send_message" ∧
      Text.isNumeral (Text.strip ((Subject.mk catalog b).value "channel_id").display) = true := by
  have hcode : b.type = "send_message" → ∀ σ, ∃ code σ',
      (Offside.dialect.emitAction ⟨catalog, b⟩).run.run σ = (.ok code, σ') ∧
        Offside.numbers code = if Text.isNumeral
            (Text.strip ((Subject.mk catalog b).value "channel_id").display) then
          [Text.strip ((Subject.mk catalog b).value "channel_id").display] else [] :=
    fun htype σ => Offside.exists_emitAction_message (s := ⟨catalog, b⟩) htype σ
  constructor
  · rintro ⟨htype, h⟩
    obtain ⟨code, σ', digits, hrun, hnumbers⟩ := h .empty
    obtain ⟨code', σ'', hrun', hnumbers'⟩ := hcode htype .empty
    obtain rfl : code = code' := by
      rw [hrun] at hrun'
      exact Except.ok.inj (Prod.mk.inj hrun').1
    refine ⟨htype, by_contra fun hnot => ?_⟩
    rw [if_neg hnot, hnumbers] at hnumbers'
    cases hnumbers'
  · rintro ⟨htype, hnumeral⟩
    refine ⟨htype, fun σ => ?_⟩
    obtain ⟨code, σ', hrun, hnumbers⟩ := hcode htype σ
    rw [if_pos hnumeral] at hnumbers
    exact ⟨code, σ', _, hrun, hnumbers⟩

instance (catalog : Catalog) : DecidablePred (RepliesPublicly catalog) :=
  fun _ => decidable_of_iff _ repliesPublicly_iff.symm

instance (catalog : Catalog) : DecidablePred (FetchesByDigits catalog) :=
  fun _ => decidable_of_iff _ fetchesByDigits_iff.symm

/-! ## Agreement -/

/-- A reply that everyone sees as far as the block stores, but not as it takes effect. -/
def HiddenByDefault (catalog : Catalog) (b : Block) : Prop :=
  b.type = "action_reply" ∧ isUnset (stored b "ephemeral") = true ∧
    (Subject.mk catalog b).flag "ephemeral" = true

instance (catalog : Catalog) : DecidablePred (HiddenByDefault catalog) :=
  fun _ => inferInstanceAs (Decidable (_ ∧ _ ∧ _))

/-- Tests for a channel that the rule does not see: it is not stored, or stored as the number zero. -/
def channelUnseen (b : Block) : Bool :=
  match stored b "channel_id" with
  | .int n => n == 0
  | v => isUnset v

/-- A channel is unseen if it is unset or zero. -/
theorem channelUnseen_iff
    {b : Block} :
    channelUnseen b = true ↔
      isUnset (stored b "channel_id") = true ∨ stored b "channel_id" = .int 0 := by
  unfold channelUnseen
  cases stored b "channel_id" <;> simp [isUnset]

/-- A reply is reported if its code replies publicly, or would but for a default. -/
theorem reports_reply_iff
    (catalog : Catalog)
    (b : Block) :
    (b.type == "action_reply" && !(stored b "ephemeral").asFlag) = true ↔
      RepliesPublicly catalog b ∨ HiddenByDefault catalog b := by
  rw [repliesPublicly_iff, HiddenByDefault, ← and_or_left, Bool.and_eq_true, beq_iff_eq]
  refine and_congr_right fun _ => ?_
  rw [Bool.not_eq_true']
  cases hunset : isUnset (stored b "ephemeral") with
  | true =>
      rw [Value.asFlag_of_isUnset hunset]
      cases (Subject.mk catalog b).flag "ephemeral" <;> simp
  | false =>
      have hvalue : (Subject.mk catalog b).flag "ephemeral" = (stored b "ephemeral").asFlag :=
        congrArg Value.asFlag (Subject.value_of_stored (s := ⟨catalog, b⟩) hunset)
      rw [hvalue]
      simp

/-- A message is reported if its code fetches a channel by digits and the channel is not unseen. -/
theorem reports_channel_iff
    (catalog : Catalog)
    (b : Block) :
    (b.type == "send_message" &&
        Text.isNumeral (Text.strip (stored b "channel_id").displayPresent)) = true ↔
      FetchesByDigits catalog b ∧ channelUnseen b = false := by
  rw [fetchesByDigits_iff, and_assoc, Bool.and_eq_true, beq_iff_eq]
  refine and_congr_right fun _ => ?_
  rw [← Bool.not_eq_true, channelUnseen_iff, not_or]
  cases hunset : isUnset (stored b "channel_id") with
  | true => simp [Value.not_isNumeral_of_isUnset hunset]
  | false =>
      have hvalue : (Subject.mk catalog b).value "channel_id" = stored b "channel_id" :=
        Subject.value_of_stored (s := ⟨catalog, b⟩) hunset
      rw [Value.isNumeral_displayPresent hunset, hvalue]
      simp

/-- Two tests, one of which lets less pass, pick the same blocks just if they agree on all. -/
theorem map_id_filter_eq_iff
    {p q : Block → Bool}
    {bs : List Block}
    (hle : ∀ b ∈ bs, q b = true → p b = true) :
    (bs.filter p).map Block.id = (bs.filter q).map Block.id ↔
      ∀ b ∈ bs, p b = true → q b = true := by
  constructor
  · intro h b hb hp
    have hsub : (bs.filter q).Sublist (bs.filter p) := by
      have hboth : bs.filter q = (bs.filter p).filter q := by
        rw [List.filter_filter]
        refine List.filter_congr fun c hc => ?_
        cases hq : q c with
        | false => rfl
        | true => rw [hle c hc hq]; rfl
      rw [hboth]
      exact List.filter_sublist
    have hlength : (bs.filter q).length = (bs.filter p).length := by
      simpa using (congrArg List.length h).symm
    have hmem : b ∈ bs.filter q := by
      rw [hsub.eq_of_length hlength]
      exact List.mem_filter.2 ⟨hb, hp⟩
    exact (List.mem_filter.1 hmem).2
  · intro h
    rw [List.filter_congr fun b hb => Bool.eq_iff_iff.2 ⟨h b hb, hle b hb⟩]

/-- The replies that are reported are those whose code replies publicly, and those that are hidden by
a default. -/
theorem reported_replies_eq
    (catalog : Catalog)
    (canvas : Canvas) :
    reported catalog canvas "public-reply-spam" =
      (canvas.blocks.filter fun b =>
        RepliesPublicly catalog b ∨ HiddenByDefault catalog b).map Block.id := by
  rw [reported_replies]
  refine congrArg (List.map Block.id) (List.filter_congr fun b _ => ?_)
  rw [Bool.eq_iff_iff, decide_eq_true_iff]
  exact reports_reply_iff catalog b

/-- The messages that are reported are those whose code fetches a channel by digits, without the
channels that the rule does not see. -/
theorem reported_channels_eq
    (catalog : Catalog)
    (canvas : Canvas) :
    reported catalog canvas "hardcoded-channel" =
      (canvas.blocks.filter fun b =>
        FetchesByDigits catalog b ∧ channelUnseen b = false).map Block.id := by
  rw [reported_channels]
  refine congrArg (List.map Block.id) (List.filter_congr fun b _ => ?_)
  rw [Bool.eq_iff_iff, decide_eq_true_iff]
  exact reports_channel_iff catalog b

/-- The replies that are reported are those whose code replies publicly, just if none is hidden by a
default. -/
theorem reported_replies_iff
    (catalog : Catalog)
    (canvas : Canvas) :
    reported catalog canvas "public-reply-spam" =
        (canvas.blocks.filter fun b => RepliesPublicly catalog b).map Block.id ↔
      ∀ b ∈ canvas.blocks, ¬HiddenByDefault catalog b := by
  rw [reported_replies_eq, map_id_filter_eq_iff]
  · simp only [decide_eq_true_iff]
    refine forall₂_congr fun b _ => ⟨fun h hhidden => ?_, fun h hor => hor.resolve_right h⟩
    have hpublic := (repliesPublicly_iff.1 (h (.inr hhidden))).2
    rw [hhidden.2.2] at hpublic
    cases hpublic
  · intro b _
    simp only [decide_eq_true_iff]
    exact .inl

/-- The messages that are reported are those whose code fetches a channel by digits, just if the rule
sees every channel that is fetched so. -/
theorem reported_channels_iff
    (catalog : Catalog)
    (canvas : Canvas) :
    reported catalog canvas "hardcoded-channel" =
        (canvas.blocks.filter fun b => FetchesByDigits catalog b).map Block.id ↔
      ∀ b ∈ canvas.blocks, FetchesByDigits catalog b → channelUnseen b = false := by
  rw [reported_channels_eq, eq_comm, map_id_filter_eq_iff]
  · simp only [decide_eq_true_iff]
    exact forall₂_congr fun b _ => ⟨fun h hfetch => (h hfetch).2, fun h hfetch => ⟨hfetch, h hfetch⟩⟩
  · intro b _
    simp only [decide_eq_true_iff]
    exact And.left

/-- With every catalog the rule about replies reports those whose code replies publicly and those
that a default hides, and the rule about channels reports the messages whose code fetches a channel by
digits, as far as it sees the channel. So either rule agrees with the code just if no reply is hidden
by a default, and no channel is fetched by digits unseen. -/
theorem reports_as_emitted
    (catalog : Catalog)
    (canvas : Canvas) :
    (reported catalog canvas "public-reply-spam" = (canvas.blocks.filter fun b =>
        RepliesPublicly catalog b ∨ HiddenByDefault catalog b).map Block.id ∧
      reported catalog canvas "hardcoded-channel" = (canvas.blocks.filter fun b =>
        FetchesByDigits catalog b ∧ channelUnseen b = false).map Block.id) ∧
    (reported catalog canvas "public-reply-spam" =
        (canvas.blocks.filter fun b => RepliesPublicly catalog b).map Block.id ↔
      ∀ b ∈ canvas.blocks, ¬HiddenByDefault catalog b) ∧
    (reported catalog canvas "hardcoded-channel" =
        (canvas.blocks.filter fun b => FetchesByDigits catalog b).map Block.id ↔
      ∀ b ∈ canvas.blocks, FetchesByDigits catalog b → channelUnseen b = false) :=
  ⟨⟨reported_replies_eq catalog canvas, reported_channels_eq catalog canvas⟩,
    reported_replies_iff catalog canvas, reported_channels_iff catalog canvas⟩

/-- With the built-in block types, the replies that are reported are those whose code replies
publicly: the default there hides no reply. -/
theorem reported_replies_builtin
    (canvas : Canvas) :
    reported .builtin canvas "public-reply-spam" =
      (canvas.blocks.filter fun b => RepliesPublicly .builtin b).map Block.id := by
  refine (reported_replies_iff .builtin canvas).2 fun b _ hhidden => ?_
  obtain ⟨htype, hunset, hflag⟩ := hhidden
  have hdefault : (((Catalog.builtin.lookup? "action_reply").bind fun d =>
      d.property? "ephemeral").map PropertySpec.default).getD .null = .bool false := rfl
  have hvalue : (Subject.mk .builtin b).value "ephemeral" = .bool false := by
    have hstored : isUnset ((getField? "ephemeral" b.properties).getD .null) = true := hunset
    rw [Subject.value, Subject.valueOr, resolve]
    simp only [hstored, htype, hdefault]
    rfl
  rw [Subject.flag, hvalue] at hflag
  cases hflag

/-- A canvas with a hidden reply and a public one, and with messages to a channel by digits and to
one by name. -/
def noticeCanvas : Canvas :=
  ⟨[⟨"hidden", "action_reply", .zero, .zero, [("ephemeral", .str " Yes")], "", ""⟩,
    ⟨"public", "action_reply", .zero, .zero, [("useEmbed", .bool true)], "", ""⟩,
    ⟨"number", "send_message", .zero, .zero, [("channel_id", .str " 42 ")], "", ""⟩,
    ⟨"name", "send_message", .zero, .zero, [("channel_id", .str "general")], "", ""⟩],
   []⟩

/-- Both rules report what the code does. -/
theorem reports_as_emitted_noticeCanvas :
    reported .builtin noticeCanvas "public-reply-spam" =
        (noticeCanvas.blocks.filter fun b => RepliesPublicly .builtin b).map Block.id ∧
      reported .builtin noticeCanvas "public-reply-spam" = ["public"] ∧
      reported .builtin noticeCanvas "hardcoded-channel" =
        (noticeCanvas.blocks.filter fun b => FetchesByDigits .builtin b).map Block.id ∧
      reported .builtin noticeCanvas "hardcoded-channel" = ["number"] := by
  obtain ⟨⟨hreplies, hchannels⟩, hpublic, hfetched⟩ := reports_as_emitted .builtin noticeCanvas
  refine ⟨hpublic.2 (by decide +kernel), ?_, hfetched.2 (by decide +kernel), ?_⟩
  · rw [hreplies]
    decide +kernel
  · rw [hchannels]
    decide +kernel

/-- A message to a channel that is given by the number zero. -/
def zeroCanvas : Canvas :=
  ⟨[⟨"message", "send_message", .zero, .zero, [("channel_id", .int 0)], "", ""⟩], []⟩

/-- Replies that are hidden unless they store that they are not. -/
def discreetCatalog : Catalog :=
  .ofList [⟨"action_reply", "", "", "actions", 1, 1,
    [(PropertySpec.ofKind .boolean "ephemeral" "").preset (.bool true)]⟩]

/-- A reply that stores nothing. -/
def bareCanvas : Canvas :=
  ⟨[⟨"reply", "action_reply", .zero, .zero, [], "", ""⟩], []⟩

/-- Neither rule always agrees with the code: a reply that a default hides is reported, and a channel
that is given by the number zero is not. -/
theorem not_forall_reports_as_emitted :
    (¬∀ catalog canvas, reported catalog canvas "public-reply-spam" =
        (canvas.blocks.filter fun b => RepliesPublicly catalog b).map Block.id) ∧
      ¬∀ catalog canvas, reported catalog canvas "hardcoded-channel" =
        (canvas.blocks.filter fun b => FetchesByDigits catalog b).map Block.id := by
  constructor
  · intro h
    refine (reported_replies_iff discreetCatalog bareCanvas).1 (h _ _) _ List.mem_cons_self ?_
    decide +kernel
  · intro h
    have hseen := (reported_channels_iff .builtin zeroCanvas).1 (h _ _) _ List.mem_cons_self
      (by decide +kernel)
    cases hseen

end Advice

end BotCanvas
