import BotCanvas.Proofs.Braced.Literals
import BotCanvas.Proofs.Offside.Literals
import BotCanvas.Proofs.Program.Statements
import BotCanvas.Proofs.Text.Replacing

/-!
# Escaped texts between marks

**Escaping.** Both languages escape by a table of replacements that are made in turn, so that the
later ones meet what the earlier ones wrote (`Braced.replacements`, `Offside.replacements`). In the
order of the tables that comes to one pass over the text.

**Reading.** The rules that escaping relies on are few (`LiteralForm.oneRow`): a backslash stands in
front of a mark or of the letter of a line end, a row does not end inside of a literal, and in a
template no placeholder opens. Whoever follows these rules (`LiteralForm.Follows`) reads an escaped
text between marks as the text and stops at the mark behind it, whatever comes next.
-/

namespace BotCanvas

namespace LiteralForm

/-- Reads a literal from its opening mark on. -/
def readQuoted (f : LiteralForm) : Text → Option (Text × Text)
  | [] => none
  | c :: r => if c = f.quote then f.read r else none

/-- A literal in one row. Behind a backslash it has what the table lists; if the language has
placeholders, none opens in it. -/
def oneRow (escapes : List (Char × Char)) (placeholders : Bool) (quote : Char) : LiteralForm where
  quote := quote
  unescape c := escapes.lookup c
  stands c next :=
    c != '\\' && c != '\n' && c != '\r' && !(placeholders && c == '$' && next == some '\x7b')

/-- A form that understands whatever another one does, in the same way. -/
structure Follows (f g : LiteralForm) : Prop where
  quote : f.quote = g.quote
  unescape : ∀ c d, g.unescape c = some d → f.unescape c = some d
  stands : ∀ c next, g.stands c next = true → f.stands c next = true

/-- What the one reads, the other reads alike. -/
theorem Follows.read
    {f g : LiteralForm}
    (h : f.Follows g)
    {s : Text}
    {found : Text × Text}
    (hread : g.read s = some found) :
    f.read s = some found := by
  fun_induction g.read s generalizing found with
  | case1 => cases hread
  | case2 c r ih =>
      obtain ⟨d, hd, hrest⟩ := Option.bind_eq_some_iff.1 hread
      obtain ⟨inside, hinside, rfl⟩ := Option.map_eq_some_iff.1 hrest
      rw [LiteralForm.read, h.unescape c d hd, Option.bind_some, ih hinside]
      rfl
  | case3 r hslash =>
      rw [LiteralForm.read]
      · rwa [if_pos h.quote.symm]
      · exact hslash
  | case4 c r hslash hquote hstands ih =>
      obtain ⟨inside, hinside, rfl⟩ := Option.map_eq_some_iff.1 hread
      rw [LiteralForm.read]
      · rw [if_neg (h.quote ▸ hquote), if_pos (h.stands _ _ hstands), ih hinside]
        rfl
      · exact hslash
  | case5 => cases hread

/-- A form follows the rules of a row if it knows all escapes of the table, and if all other
characters stand for themselves in it. -/
theorem follows_oneRow
    {f : LiteralForm}
    {escapes : List (Char × Char)}
    {placeholders : Bool}
    (hescapes : ∀ p ∈ escapes, f.unescape p.1 = some p.2)
    (hstands : ∀ c next, c ≠ '\\' → c ≠ '\n' → c ≠ '\r' →
      ¬(placeholders = true ∧ c = '$' ∧ next = some '\x7b') → f.stands c next = true) :
    f.Follows (oneRow escapes placeholders f.quote) where
  quote := rfl
  unescape c d h := hescapes (c, d) (mem_of_lookup h)
  stands c next h := by
    simp only [oneRow, Bool.and_eq_true, bne_iff_ne, Bool.not_eq_true', Bool.and_eq_false_iff,
      beq_eq_false_iff_ne] at h
    obtain ⟨⟨⟨hslash, hlf⟩, hcr⟩, hopens⟩ := h
    refine hstands c next hslash hlf hcr fun hopening => ?_
    rcases hopens with (h | h) | h
    · rw [hopening.1] at h
      cases h
    · exact h hopening.2.1
    · exact h hopening.2.2

/-- Literals in one row understand a text in which every character is written as in the table or,
if it needs no backslash, as it is. -/
theorem oneRow_spells
    {escapes : List (Char × Char)}
    {placeholders : Bool}
    {quote : Char}
    {escape : Text → Text}
    (hescapes : ∀ p ∈ escapes, escapes.lookup p.1 = some p.2 ∧ Text.isLineBreak p.1 = false ∧
      (p.2 = '\n' ∨ p.2 = '\r' ∨ Text.isBlank p.2 = false))
    (hquote : quote ≠ '\\' ∧ Text.isBlank quote = false)
    (hnil : escape [] = [])
    (hcons : ∀ c r, (∃ x, escape (c :: r) = '\\' :: x :: escape r ∧ (x, c) ∈ escapes) ∨
      (escape (c :: r) = c :: escape r ∧ c ≠ '\n' ∧ c ≠ '\r' ∧ c ≠ '\\' ∧ c ≠ quote ∧
        ∀ post, placeholders = true → c = '$' →
          (escape r ++ quote :: post).head? ≠ some '\x7b')) :
    (oneRow escapes placeholders quote).Spells escape where
  quote := hquote
  stands c next h := by
    simp [oneRow, Text.ne_of_isSeparator h (d := '\\') (by decide) (by decide),
      Text.ne_of_isSeparator h (d := '\n') (by decide) (by decide),
      Text.ne_of_isSeparator h (d := '\r') (by decide) (by decide),
      Text.ne_of_isSeparator h (d := '$') (by decide) (by decide)]
  nil := hnil
  cons c r := by
    rcases hcons c r with ⟨x, hx, hmem⟩ | ⟨hplain, hlf, hcr, hslash, hclose, hopens⟩
    · exact .inl ⟨x, hx, hescapes _ hmem⟩
    · refine .inr ⟨hplain, hlf, hcr, hslash, hclose, fun post => ?_⟩
      have hnext := hopens post
      revert hnext
      simp only [oneRow]
      generalize (escape r ++ quote :: post).head? = next
      intro hnext
      cases placeholders with
      | false => simp [hslash, hlf, hcr]
      | true =>
          by_cases hc : c = '$'
          · simp [hslash, hlf, hcr, hnext rfl hc]
          · simp [hslash, hlf, hcr, hc]

/-- A form that follows one which understands a way of escaping reads an escaped text between its
marks, and stops behind the second one. -/
theorem Follows.readQuoted_of_spells
    {f g : LiteralForm}
    (h : f.Follows g)
    {escape : Text → Text}
    (hspells : g.Spells escape)
    (s r : Text) :
    f.readQuoted (g.quote :: (escape s ++ g.quote :: r)) = some (s, r) := by
  rw [readQuoted, if_pos h.quote.symm]
  exact h.read (hspells.read_append s r)

end LiteralForm

/-! ## The language with braces -/

namespace Braced

/-- The replacements that escape a text, in their order. -/
def replacements : List (String × String) :=
  [("\\", "\\\\"), ("\x27", "\\\x27"), ("\x22", "\\\x22"), ("\x60", "\\\x60"),
    ("$\x7b", "\\$\x7b"), ("\r", "\\r"), ("\n", "\\n")]

/-- The marks of literals. -/
def quotes : List Char := ['\x27', '\x22', '\x60']

/-- The rules for literals between two marks of a kind. Templates have placeholders. -/
def literalRules (quote : Char) : LiteralForm :=
  .oneRow escapes (quote == '\x60') quote

/-- A character with the backslash that the first replacements give it. -/
def marked (c : Char) : Text :=
  if c = '\\' ∨ c = '\x27' ∨ c = '\x22' ∨ c = '\x60' then ['\\', c] else [c]

/-- A character after the last replacements. -/
def unbroken (c : Char) : Text :=
  if c = '\r' then ['\\', 'r'] else if c = '\n' then ['\\', 'n'] else [c]

/-- The first replacements put backslashes in front of marks. -/
theorem replaceInTurn_marks
    (s : Text) :
    Text.replaceInTurn (replacements.take 4) s = s.flatMap marked := by
  rw [Text.replaceInTurn_eq_flatMap]
  · refine congrArg s.flatMap (funext fun c => ?_)
    unfold marked
    split
    · rename_i hc
      rcases hc with rfl | rfl | rfl | rfl <;> decide
    · rename_i hc
      simp only [not_or] at hc
      refine Text.replaceInTurn_of_not_mem ?_
      simp [replacements, Ne.symm hc.1, Ne.symm hc.2.1, Ne.symm hc.2.2.1, Ne.symm hc.2.2.2]
  · decide

/-- The last ones rewrite line ends. -/
theorem replaceInTurn_lineEnds
    (s : Text) :
    Text.replaceInTurn (replacements.drop 5) s = s.flatMap unbroken := by
  rw [Text.replaceInTurn_eq_flatMap]
  · refine congrArg s.flatMap (funext fun c => ?_)
    unfold unbroken
    split
    · rename_i hc
      rw [hc]
      decide
    · split
      · rename_i hc
        rw [hc]
        decide
      · rename_i hcr hlf
        refine Text.replaceInTurn_of_not_mem ?_
        simp [replacements, Ne.symm hcr, Ne.symm hlf]
  · decide

/-- What opens no placeholder is passed over by the one in between. -/
theorem replaceAll_placeholder_cons
    {c : Char}
    {r : Text}
    (h : ¬(c = '$' ∧ r.head? = some '\x7b')) :
    Text.replaceAll "$\x7b" "\\$\x7b" (c :: r) =
      c :: Text.replaceAll "$\x7b" "\\$\x7b" r := by
  refine Text.replaceAll_missed ?_
  cases r with
  | nil => simp [List.isPrefixOf]
  | cons d r =>
      simp only [List.head?_cons, Option.some.injEq] at h
      have hstart : ¬('$' = c ∧ '\x7b' = d) := fun heq => h ⟨heq.1.symm, heq.2.symm⟩
      simpa [List.isPrefixOf] using hstart

/-- A brace at the start was there before marks got backslashes. -/
theorem head?_of_head?_flatMap_marked
    {r : Text}
    (h : (r.flatMap marked).head? = some '\x7b') :
    r.head? = some '\x7b' := by
  cases r with
  | nil => cases h
  | cons c r =>
      rw [List.flatMap_cons] at h
      unfold marked at h
      split at h
      · simp at h
      · exact h

/-- The one in between puts a backslash in front of a dollar sign just where a brace followed it
before. -/
theorem replaceAll_placeholder_marked
    (c : Char)
    (r : Text) :
    Text.replaceAll "$\x7b" "\\$\x7b" (marked c ++ r.flatMap marked) =
      (if c = '$' ∧ r.head? = some '\x7b' then ['\\', '$'] else marked c) ++
        Text.replaceAll "$\x7b" "\\$\x7b" (r.flatMap marked) := by
  by_cases hopens : c = '$' ∧ r.head? = some '\x7b'
  · obtain ⟨rfl, hhead⟩ := hopens
    obtain ⟨rest, rfl⟩ := List.head?_eq_some_iff.1 hhead
    have hbrace : ('\x7b' :: rest).flatMap marked = '\x7b' :: rest.flatMap marked := rfl
    have hfound : Text.replaceAll "$\x7b" "\\$\x7b" ('$' :: '\x7b' :: rest.flatMap marked) =
        "\\$\x7b".toList ++ Text.replaceAll "$\x7b" "\\$\x7b" (rest.flatMap marked) :=
      Text.replaceAll_found rfl
    rw [if_pos ⟨rfl, rfl⟩, hbrace, replaceAll_placeholder_cons (c := '\x7b') (by simp)]
    exact hfound
  · rw [if_neg hopens]
    by_cases hmark : c = '\\' ∨ c = '\x27' ∨ c = '\x22' ∨ c = '\x60'
    · have hne : c ≠ '$' := by
        rcases hmark with rfl | rfl | rfl | rfl <;> decide
      rw [marked, if_pos hmark, List.cons_append, List.cons_append, List.nil_append,
        replaceAll_placeholder_cons (by simp), replaceAll_placeholder_cons fun h => hne h.1]
      rfl
    · rw [marked, if_neg hmark]
      exact replaceAll_placeholder_cons fun h =>
        hopens ⟨h.1, head?_of_head?_flatMap_marked h.2⟩

/-- Escaping is replacing in turn. -/
theorem escape_eq_replaceInTurn
    (s : Text) :
    escape s = Text.replaceInTurn replacements s := by
  have hsplit : replacements = replacements.take 4 ++ ([("$\x7b", "\\$\x7b")] ++
      replacements.drop 5) :=
    rfl
  have hdollar : ∀ t, Text.replaceInTurn [("$\x7b", "\\$\x7b")] t =
      Text.replaceAll "$\x7b" "\\$\x7b" t :=
    fun _ => rfl
  rw [hsplit, Text.replaceInTurn_append, Text.replaceInTurn_append, replaceInTurn_marks, hdollar,
    replaceInTurn_lineEnds]
  induction s with
  | nil => rfl
  | cons c r ih =>
      rw [List.flatMap_cons, replaceAll_placeholder_marked, List.flatMap_append, ← ih, escape]
      by_cases hmark : c = '\\' ∨ c = '\x27' ∨ c = '\x22' ∨ c = '\x60'
      · rw [if_pos hmark]
        rcases hmark with rfl | rfl | rfl | rfl <;> rfl
      · by_cases hopens : c = '$' ∧ r.head? = some '\x7b'
        · rw [if_neg hmark, if_pos hopens, if_pos hopens, hopens.1]
          rfl
        · rw [if_neg hmark, if_neg hopens, if_neg hopens, marked, if_neg hmark]
          simp only [List.flatMap_singleton, unbroken]
          split
          · rfl
          · split <;> rfl

/-- Literals between marks of any kind understand how texts are escaped. -/
theorem literalRules_spells
    {q : Char}
    (hq : q ∈ quotes) :
    (literalRules q).Spells escape := by
  have hcases : q = '\x27' ∨ q = '\x22' ∨ q = '\x60' := by simpa [quotes] using hq
  have hblank : q ≠ '\\' ∧ Text.isBlank q = false := by
    rcases hcases with rfl | rfl | rfl <;> decide
  refine LiteralForm.oneRow_spells (by decide) hblank rfl fun c r => ?_
  refine (escape_cons_cases c r).imp_right ?_
  rintro ⟨hplain, hlf, hcr, ⟨hslash, hsingle, hdouble, htick⟩, hopens⟩
  refine ⟨hplain, hlf, hcr, hslash, ?_, fun post hplaceholders hc => ?_⟩
  · rcases hcases with rfl | rfl | rfl <;> assumption
  · rw [beq_iff_eq] at hplaceholders
    rw [hplaceholders]
    exact head?_escape_ne (fun h => hopens ⟨hc, h⟩) post

/-- Templates as the language has them may also go over several rows. -/
theorem template_follows :
    template.Follows (literalRules '\x60') := by
  refine LiteralForm.follows_oneRow (by decide) fun c next hslash _ hcr hopens => ?_
  simpa [template, hslash, hcr, imp_iff_not_or] using hopens

end Braced

/-! ## The language with suites -/

namespace Offside

/-- The replacements that escape a text, in their order. -/
def replacements : List (String × String) :=
  [("\\", "\\\\"), ("\x22", "\\\x22"), ("\x27", "\\\x27"), ("\r", "\\r"), ("\n", "\\n")]

/-- The marks of literals. -/
def quotes : List Char := ['\x27', '\x22']

/-- The rules for literals between two marks of a kind. -/
def literalRules (quote : Char) : LiteralForm :=
  .oneRow escapes false quote

/-- Escaping is replacing in turn. -/
theorem escape_eq_replaceInTurn
    (s : Text) :
    escape s = Text.replaceInTurn replacements s := by
  rw [Text.replaceInTurn_eq_flatMap (by decide)]
  refine congrArg s.flatMap (funext fun c => ?_)
  unfold escapeChar
  split
  · rename_i hc
    rcases hc with rfl | rfl | rfl <;> decide
  · split
    · rename_i hc
      rw [hc]
      decide
    · split
      · rename_i hc
        rw [hc]
        decide
      · rename_i hmark hcr hlf
        simp only [not_or] at hmark
        refine (Text.replaceInTurn_of_not_mem ?_).symm
        simp [replacements, Ne.symm hmark.1, Ne.symm hmark.2.1, Ne.symm hmark.2.2, Ne.symm hcr,
          Ne.symm hlf]

/-- Literals between double quotes as the language has them know more escapes. -/
theorem quoted_follows :
    quoted.Follows (literalRules '\x22') := by
  refine LiteralForm.follows_oneRow (by decide) fun c next hslash hlf hcr _ => ?_
  simp [quoted, hslash, hlf, hcr]

/-- Literals between marks of either kind understand how texts are escaped. -/
theorem literalRules_spells
    {q : Char}
    (hq : q ∈ quotes) :
    (literalRules q).Spells escape := by
  have hcases : q = '\x27' ∨ q = '\x22' := by simpa [quotes] using hq
  have hblank : q ≠ '\\' ∧ Text.isBlank q = false := by
    rcases hcases with rfl | rfl <;> decide
  refine LiteralForm.oneRow_spells (by decide) hblank rfl fun c r => ?_
  refine (escape_cons_cases c r).imp_right ?_
  rintro ⟨hplain, hlf, hcr, hslash, hdouble, hsingle⟩
  refine ⟨hplain, hlf, hcr, hslash, ?_, fun _ h => absurd h (by decide)⟩
  rcases hcases with rfl | rfl <;> assumption

end Offside

/-! ## Both languages -/

/--
A text is escaped by the replacements of its language, made in turn. Whoever follows the rules for
literals reads it back from between marks of every kind that the language has, and stops at the mark
behind it, whatever comes next.
-/
theorem readQuoted_escape
    (s r : Text) :
    (Braced.escape s = Text.replaceInTurn Braced.replacements s ∧
      ∀ q ∈ Braced.quotes, ∀ f : LiteralForm, f.Follows (Braced.literalRules q) →
        f.readQuoted (q :: (Braced.escape s ++ q :: r)) = some (s, r)) ∧
    (Offside.escape s = Text.replaceInTurn Offside.replacements s ∧
      ∀ q ∈ Offside.quotes, ∀ f : LiteralForm, f.Follows (Offside.literalRules q) →
        f.readQuoted (q :: (Offside.escape s ++ q :: r)) = some (s, r)) := by
  refine ⟨⟨Braced.escape_eq_replaceInTurn s, fun q hq f hf => ?_⟩,
    Offside.escape_eq_replaceInTurn s, fun q hq f hf => ?_⟩
  · exact hf.readQuoted_of_spells (Braced.literalRules_spells hq) s r
  · exact hf.readQuoted_of_spells (Offside.literalRules_spells hq) s r

/-- A text of everything that is escaped, with a dollar sign at its end. -/
def markedText : Text :=
  "\\'\"\x60$\x7ba\x7d\r\n\\$"

/-- It is read back from a template and from between double quotes, in front of a text that goes on
with a mark. -/
theorem readQuoted_escape_markedText :
    ('\x60' ∈ Braced.quotes ∧ Braced.template.Follows (Braced.literalRules '\x60') ∧
      Braced.template.readQuoted
          ('\x60' :: (Braced.escape markedText ++ '\x60' :: "\x60 + x".toList)) =
        some (markedText, "\x60 + x".toList)) ∧
    ('\x22' ∈ Offside.quotes ∧ Offside.quoted.Follows (Offside.literalRules '\x22') ∧
      Offside.quoted.readQuoted
          ('\x22' :: (Offside.escape markedText ++ '\x22' :: "\x60 + x".toList)) =
        some (markedText, "\x60 + x".toList)) := by
  have h := readQuoted_escape markedText "\x60 + x"
  exact ⟨⟨by decide, Braced.template_follows, h.1.2 _ (by decide) _ Braced.template_follows⟩,
    by decide, Offside.quoted_follows, h.2.2 _ (by decide) _ Offside.quoted_follows⟩

end BotCanvas
