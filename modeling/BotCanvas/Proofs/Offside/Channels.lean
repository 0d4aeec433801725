import BotCanvas.Proofs.Program.Audience
import BotCanvas.Proofs.Text.Ends

/-!
# Where a message goes

A message goes to a channel that is fetched first, unless it answers where the interaction came from.
The row that fetches a channel gives it by a row of digits, or by a text that the program converts.
Only the former is read as a number (`number?`), whatever the texts in the other rows are.
-/

namespace BotCanvas.Offside

/-! ## Reading rows -/

/-- The row of digits that a row of a program fetches a channel by, twice the same, if it does. -/
def number? (row : Text) : Option Text :=
  ((row.dropWhile Text.isWord).dropPrefix? " = bot.get_channel(".toList).bind fun r =>
    let digits := r.takeWhile Text.isDigit
    if Text.isNumeral digits &&
        r.dropWhile Text.isDigit == ") or await bot.fetch_channel(".toList ++ (digits ++ ")".toList)
    then some digits else none

/-- The rows of digits that code fetches channels by. -/
def numbers (c : Code) : List Text :=
  (c.rows spelling).filterMap number?

variable {name : Text}

/-- A row that fetches a channel by digits is read as such. -/
theorem number?_of_isNumeral
    (hname : Text.IsVariable name)
    {digits : Text}
    (hdigits : Text.isNumeral digits = true) :
    number? (name ++ (" = bot.get_channel(".toList ++ (digits ++
      (") or await bot.fetch_channel(".toList ++ (digits ++ ")".toList))))) = some digits := by
  have hall : ∀ c ∈ digits, Text.isDigit c = true := by
    simp only [Text.isNumeral, Bool.and_eq_true, List.all_eq_true] at hdigits
    exact hdigits.2
  have hclose : Text.isDigit ')' = false := by decide
  have htail : ∀ r : Text, ") or await bot.fetch_channel(".toList ++ r =
      ')' :: (" or await bot.fetch_channel(".toList ++ r) := fun _ => rfl
  have hrow : ∀ r, name ++ (" = bot.get_channel(".toList ++ r) =
      name ++ ' ' :: ("= bot.get_channel(".toList ++ r) := fun _ => rfl
  have hrest : ∀ r, (' ' :: ("= bot.get_channel(".toList ++ r)).dropPrefix?
      " = bot.get_channel(".toList = some r := Text.dropPrefix?_append _
  rw [hrow, number?, hname.dropWhile_append (by decide), hrest, Option.bind_some, htail]
  simp only [List.takeWhile_append_of_pos hall, List.dropWhile_append_of_pos hall,
    List.takeWhile_cons_of_neg (p := Text.isDigit) (a := ')') (by simp [hclose]),
    List.dropWhile_cons_of_neg (p := Text.isDigit) (a := ')') (by simp [hclose]), List.append_nil,
    hdigits, Bool.true_and]
  rw [← htail, if_pos (beq_self_eq_true _)]

/-- A row that fetches a channel by a text is not. -/
theorem number?_of_text
    (hname : Text.IsVariable name)
    (r : Text) :
    number? (name ++ (" = bot.get_channel(".toList ++ ("int(".toList ++ r))) = none := by
  have hrow : name ++ (" = bot.get_channel(".toList ++ ("int(".toList ++ r)) =
      name ++ ' ' :: ("= bot.get_channel(".toList ++ 'i' :: ("nt(".toList ++ r)) := rfl
  have hrest : ∀ r, (' ' :: ("= bot.get_channel(".toList ++ r)).dropPrefix?
      " = bot.get_channel(".toList = some r := Text.dropPrefix?_append _
  have hfirst : Text.isDigit 'i' = false := by decide
  rw [hrow, number?, hname.dropWhile_append (by decide), hrest, Option.bind_some,
    List.takeWhile_cons_of_neg (by simp [hfirst])]
  rfl

/-- A row that does something else with its first word is not. -/
theorem number?_eq_none
    (hname : Text.IsVariable name)
    {c : Char}
    (hc : Text.isWord c = false)
    {r : Text}
    (hr : (c :: r).dropPrefix? " = bot.get_channel(".toList = none) :
    number? (name ++ c :: r) = none := by
  rw [number?, hname.dropWhile_append hc, hr]
  rfl

/-! ## The code of messages -/

/-- Where a message goes, a channel of an interaction or one that was fetched, is no assignment. -/
def IsTarget (target : Text) : Prop :=
  ∃ c r, target = c :: r ∧ c ≠ '=' ∧ '\n' ∉ target

/-- A row that sends something is not read as a fetch. -/
theorem number?_send
    {target : Text}
    (htarget : IsTarget target)
    (r : Text) :
    number? ("await ".toList ++ (target ++ r)) = none := by
  obtain ⟨c, t, rfl, hc, -⟩ := htarget
  have hrow : "await ".toList ++ (c :: t ++ r) = "await".toList ++ ' ' :: c :: (t ++ r) := rfl
  have hawait : Text.IsVariable "await".toList := .ofString (by decide)
  rw [hrow]
  refine number?_eq_none hawait (by decide) ?_
  simp [List.dropPrefix?, hc]

/-- The row that fetches a channel by an identifier, from what is known or else from the library. -/
def fetchRow (name : Text) (id : List Piece) : Code :=
  .line (.name name :: " = bot.get_channel(" :: (id ++
    (.code ") or await bot.fetch_channel(" :: (id ++ [.code ")"]))))

/-- The row names the identifier twice. -/
theorem write_fetchRow
    (name : Text)
    (id : List Piece) :
    (fetchRow name id).write spelling =
      name ++ (" = bot.get_channel(".toList ++ (id.flatMap (Piece.write spelling) ++
        (") or await bot.fetch_channel(".toList ++ (id.flatMap (Piece.write spelling) ++
          ")".toList)))) := by
  simp [fetchRow, Code.write, Piece.write]

/-- Digits are read from the row if it fetches by digits, and only then. -/
theorem filterMap_fetchRow
    (hname : Text.IsVariable name)
    (channel : Text) :
    (Code.rows spelling (fetchRow name (if Text.isNumeral channel then [.name channel]
      else [.code "int(\"", .literal channel, .code "\")"]))).filterMap number? =
        if Text.isNumeral channel then [channel] else [] := by
  have hrows : ∀ id : List Piece, '\n' ∉ id.flatMap (Piece.write spelling) →
      Code.rows spelling (fetchRow name id) = [(fetchRow name id).write spelling] := by
    intro id hid
    refine Code.rows_of_not_mem ?_
    rw [write_fetchRow]
    simp only [List.mem_append, not_or]
    exact ⟨hname.lineFeed_not_mem, by decide, hid, by decide, hid, by decide⟩
  cases hnumeral : Text.isNumeral channel with
  | true =>
      have hdigit : '\n' ∉ channel := by
        intro h
        simp only [Text.isNumeral, Bool.and_eq_true, List.all_eq_true] at hnumeral
        exact absurd (hnumeral.2 _ h) (by decide)
      have hwrite : [Piece.name channel].flatMap (Piece.write spelling) = channel := by
        simp [Piece.write]
      rw [if_pos rfl, hrows _ (by rw [hwrite]; exact hdigit), write_fetchRow, hwrite,
        List.filterMap_cons, number?_of_isNumeral hname hnumeral]
      rfl
  | false =>
      have hwrite : [.code "int(\"", .literal channel, .code "\")"].flatMap (Piece.write spelling) =
          "int(".toList ++ ("\"".toList ++ (escape channel ++ "\")".toList)) := by
        simp [Piece.write, spelling]
      have hescape : '\n' ∉ escape channel := quoted_spells.lineFeed_not_mem channel
      have hid : '\n' ∉ "int(".toList ++ ("\"".toList ++ (escape channel ++ "\")".toList)) := by
        simp only [List.mem_append, not_or]
        exact ⟨by decide, by decide, hescape, by decide⟩
      rw [if_neg (by decide), hrows _ (by rw [hwrite]; exact hid), write_fetchRow, hwrite,
        List.append_assoc, List.filterMap_cons, number?_of_text hname]
      rfl

/-- Fetching a channel by digits takes a row from which they are read, by a text one from which no
digits are read, and answering an interaction takes none. -/
theorem exists_messageChannel
    (s : Subject)
    (σ : Scope) :
    ∃ fetch target σ', (messageChannel s).run.run σ = (.ok (fetch, target), σ') ∧
      IsTarget target ∧
      (fetch.flatMap (Code.rows spelling)).filterMap number? =
        if Text.isNumeral (Text.strip (s.value "channel_id").display) then
          [Text.strip (s.value "channel_id").display]
        else [] := by
  rw [messageChannel]
  have hstrip := Text.stripBy_stripBy Text.isBlank (s.value "channel_id").display
  change Text.strip (Text.strip _) = Text.strip _ at hstrip
  generalize Text.strip (s.value "channel_id").display = channel at hstrip ⊢
  cases hempty : channel.isEmpty with
  | true =>
      refine ⟨[], _, _, rfl, ⟨'i', _, rfl, by decide, by decide⟩, ?_⟩
      rw [List.isEmpty_iff.1 hempty]
      rfl
  | false =>
      have hbase : Text.IsVariable "channel".toList := .ofString (by decide)
      have hname := hbase.nextName σ.locals
      have htarget : IsTarget (σ.locals.nextName "channel".toList) := by
        obtain ⟨r, hr⟩ : ∃ r, σ.locals.nextName "channel".toList = 'c' :: r := by
          unfold Tally.nextName
          simp only
          split
          · exact ⟨_, rfl⟩
          · exact ⟨_, rfl⟩
        exact ⟨'c', r, hr, by decide, hname.lineFeed_not_mem⟩
      refine ⟨_, _, _, rfl, htarget, ?_⟩
      generalize σ.locals.nextName "channel".toList = name at hname
      have hid : snowflake (.str (String.ofList channel)) =
          if Text.isNumeral channel then [.name channel]
          else [.code "int(\"", .literal channel, .code "\")"] := by
        rw [snowflake, Value.display, String.toList_ofList, hstrip]
      rw [hid, List.flatMap_singleton]
      exact filterMap_fetchRow hname channel

/-- From a row that sends something to a target no digits are read. -/
theorem filterMap_sendRow
    {target : Text}
    (htarget : IsTarget target)
    {pieces : List Piece}
    (hpieces : '\n' ∉ pieces.flatMap (Piece.write spelling)) :
    (Code.rows spelling (.line (.code "await " :: .name target :: pieces))).filterMap number? =
      [] := by
  have hwrite : (Code.line (.code "await " :: .name target :: pieces)).write spelling =
      "await ".toList ++ (target ++ pieces.flatMap (Piece.write spelling)) := by
    simp [Code.write, Piece.write]
  obtain ⟨-, -, -, -, hrow⟩ := id htarget
  rw [Code.rows_of_not_mem, hwrite, List.filterMap_cons, number?_send htarget]
  · rfl
  · rw [hwrite]
    simp only [List.mem_append, not_or]
    exact ⟨by decide, hrow, hpieces⟩

/-- The code of a message fetches a channel by digits, once, if the property that takes effect is a
row of digits between blanks, and else not at all. -/
theorem exists_emitAction_message
    {s : Subject}
    (htype : s.block.type = "send_message")
    (σ : Scope) :
    ∃ code σ', (dialect.emitAction s).run.run σ = (.ok code, σ') ∧
      numbers code =
        if Text.isNumeral (Text.strip (s.value "channel_id").display) then
          [Text.strip (s.value "channel_id").display]
        else [] := by
  have haction : dialect.emitAction s = sendMessage s := by
    rw [Dialect.emitAction, htype]
    rfl
  obtain ⟨fetch, target, σ', hrun, htarget, hfetch⟩ := exists_messageChannel s σ
  rw [haction, sendMessage, Emit.run_bind, hrun, ← hfetch]
  cases hembed : s.flag "useEmbed" with
  | false =>
      simp only [Bool.false_eq_true, if_false]
      refine ⟨_, _, rfl, ?_⟩
      have hescape : '\n' ∉ escape (s.value "content").display := quoted_spells.lineFeed_not_mem _
      have hsend : (Code.rows spelling (.line ["await ", .name target, ".send(content=\"",
          s.literal "content", "\")"])).filterMap number? = [] :=
        filterMap_sendRow htarget (by simp [Piece.write, Subject.literal, spelling, hescape])
      rw [numbers, Code.rows_stack (by simp), List.flatMap_append, List.filterMap_append,
        List.flatMap_singleton, hsend, List.append_nil]
  | true =>
      obtain ⟨made, σ'', hrun', rest, hmade⟩ := ReplyWording.offside_embed
        (s.value "embed_title").display (s.value "embed_description").display
        (s.value "embed_color") σ'
      obtain ⟨hname, -⟩ := ReplyWording.embedName σ'.locals
      generalize σ'.locals.nextName "embed".toList = name at hrun' hmade hname
      simp only [if_true]
      rw [Emit.run_bind, messageEmbed, Subject.literal, Subject.literal, hrun']
      refine ⟨_, _, rfl, ?_⟩
      have hmadeNone : (Code.rows spelling made).filterMap number? = [] := by
        rw [hmade, List.filterMap_cons]
        have hassign : number? (name ++ (" = discord.Embed(title=\"".toList ++ rest)) = none :=
          number?_eq_none hname (by decide) rfl
        rw [hassign]
        rfl
      have hsend : (Code.rows spelling (.line ["await ", .name target, ".send(embed=", .name name,
          ")"])).filterMap number? = [] :=
        filterMap_sendRow htarget (by simp [Piece.write, hname.lineFeed_not_mem])
      rw [numbers, Code.rows_stack (by simp), List.flatMap_append, List.filterMap_append,
        List.flatMap_cons, List.flatMap_singleton, List.filterMap_append, hmadeNone, hsend,
        List.append_nil, List.append_nil]

end BotCanvas.Offside
