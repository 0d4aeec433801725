import BotCanvas.Proofs.Lint.Language
import Mathlib.Data.List.Forall2

/-!
# Lines of the issues with brackets

Every issue that the check reports is about one character of the text (`IsAbout`): a closing bracket
that the innermost open one does not belong to, an opening bracket that stays open, or the beginning
of a literal or a block comment that is never closed. Several issues are all about brackets that
stay open, and come in the order of the text.

**Lines.** The pass counts line feeds as it goes. Those that a backslash in a literal takes along
are not counted: the line of an issue is one more than the line feeds in front of the character,
less the ones behind such backslashes (`lines_of_check`).

The pass is followed up to any point where the brackets so far are in order (`scan_leaves`). What is
open there falls between nested words (`Leaves`).
-/

namespace BotCanvas

/-- The line that an issue names. -/
def BracketIssue.line : BracketIssue → Nat
  | unterminatedComment line => line
  | unterminatedLiteral line => line
  | unexpected _ line => line
  | unclosed _ line => line

namespace Brackets

/-! ## What an issue is about -/

/-- The text of lexemes. -/
def spelled (lexemes : List Lexeme) : Text :=
  lexemes.flatMap Lexeme.text

/--
The brackets that lexemes leave open, innermost first, each with the lexemes in front of it. The
words of brackets in front of them, between them and behind them are nested.
-/
def Leaves : List Lexeme → (places : List (Char × List Lexeme)) → Prop
  | lexemes, [] => IsNested (lexemes.flatMap Lexeme.brackets)
  | lexemes, (o, front) :: below =>
      ∃ inside, lexemes = front ++ .other o :: inside ∧ isOpening o = true ∧
        IsNested (inside.flatMap Lexeme.brackets) ∧ Leaves front below

/-- A closing bracket that the innermost open one does not belong to. -/
structure IsStray (places : List (Char × List Lexeme)) (c : Char) : Prop where
  bracket : isBracket c = true
  closing : isOpening c = false
  unmatched : ∀ p ∈ places.head?, (p.1, c) ∉ pairs

/-- An issue with a text is about the character behind the given lexemes, up to which the brackets
are in order. -/
inductive IsAbout (source : Text) : BracketIssue → (front : List Lexeme) → Prop
  /-- A block comment starts there and is never closed. -/
  | unterminatedComment
      {front : List Lexeme}
      {places : List (Char × List Lexeme)}
      {t : Text}
      (line : Nat) :
      Lexes source front ('/' :: '*' :: t) →
      Leaves front places →
      ¬ blockEnd <:+: t →
      IsAbout source (.unterminatedComment line) front
  /-- A quote stands there and its literal is never closed. -/
  | unterminatedLiteral
      {front : List Lexeme}
      {places : List (Char × List Lexeme)}
      {quote : Char}
      {t : Text}
      (line : Nat) :
      Lexes source front (quote :: t) →
      Leaves front places →
      isQuote quote = true →
      ¬ HasEnd quote t →
      IsAbout source (.unterminatedLiteral line) front
  /-- A closing bracket stands there that closes nothing. -/
  | unexpected
      {front : List Lexeme}
      {places : List (Char × List Lexeme)}
      {c : Char}
      {t : Text}
      (line : Nat) :
      Lexes source front (c :: t) →
      Leaves front places →
      (Lexeme.other c).Starts t →
      IsStray places c →
      IsAbout source (.unexpected c line) front
  /-- An opening bracket stands there that is open at the end of the text. -/
  | unclosed
      {front inside : List Lexeme}
      {places : List (Char × List Lexeme)}
      {o : Char}
      (line : Nat) :
      Lexes source (front ++ .other o :: inside) [] →
      Leaves (front ++ .other o :: inside) places →
      (o, front) ∈ places →
      IsAbout source (.unclosed o line) front

/-- The line feeds of an item that a backslash takes along. -/
def Item.taken : Item → Nat
  | escape c => if c = '\n' then 1 else 0
  | plain _ => 0

/-- The line feeds of a lexeme that backslashes take along. -/
def Lexeme.taken : Lexeme → Nat
  | literal _ items => (items.map Item.taken).sum
  | _ => 0

/-- The line feeds of lexemes that backslashes take along. -/
def takenFeeds (lexemes : List Lexeme) : Nat :=
  (lexemes.map Lexeme.taken).sum

/-- The line that the pass has got to behind lexemes. -/
def lineBehind (lexemes : List Lexeme) : Nat :=
  1 + (lexemes.map Lexeme.feeds).sum

/-! ## Lines -/

/-- Every line feed of an item is counted or taken along. -/
theorem Item.feeds_add_taken
    (i : Item) :
    i.feeds + i.taken = i.text.count '\n' := by
  cases i with
  | escape c =>
      by_cases hc : c = '\n'
      · simp [feeds, taken, text, hc]
      · simp [feeds, taken, text, hc]
  | plain c =>
      by_cases hc : c = '\n'
      · simp [feeds, taken, text, hc]
      · simp [feeds, taken, text, hc]

/-- So is every line feed of items, -/
theorem feeds_add_taken_items
    (items : List Item) :
    (items.map Item.feeds).sum + (items.map Item.taken).sum =
      (items.flatMap Item.text).count '\n' := by
  induction items with
  | nil => rfl
  | cons i items ih =>
      have hi := i.feeds_add_taken
      rw [List.flatMap_cons, List.count_append, List.map_cons, List.map_cons, List.sum_cons,
        List.sum_cons]
      omega

/-- of a lexeme of a text, -/
theorem Lexeme.feeds_add_taken
    {l : Lexeme}
    {rest : Text}
    (hl : l.Starts rest) :
    l.feeds + l.taken = l.text.count '\n' := by
  cases l with
  | remark body => simp [feeds, taken, text]
  | block body => simp [feeds, taken, text, blockEnd]
  | literal quote items =>
      have hquote : quote ≠ '\n' := (quote_ne hl.1).2
      rw [text, List.count_cons_of_ne hquote, List.count_append, List.count_cons_of_ne hquote]
      exact feeds_add_taken_items items
  | other c =>
      by_cases hc : c = '\n'
      · simp [feeds, taken, text, hc]
      · simp [feeds, taken, text, hc]

/-- and of all its lexemes. -/
theorem lineBehind_add_takenFeeds
    {source tail : Text}
    {lexemes : List Lexeme}
    (h : Lexes source lexemes tail) :
    lineBehind lexemes + takenFeeds lexemes = 1 + (spelled lexemes).count '\n' := by
  induction h with
  | done tail => rfl
  | @next l rest tail ls hl _ ih =>
      have hlexeme := Lexeme.feeds_add_taken hl
      unfold lineBehind takenFeeds spelled at ih ⊢
      rw [List.flatMap_cons, List.count_append, List.map_cons, List.map_cons, List.sum_cons,
        List.sum_cons]
      omega

/-! ## Open brackets -/

section Open

variable {source tail : Text}
variable {front lexemes : List Lexeme}
variable {places : List (Char × List Lexeme)}
variable {l : Lexeme}

/-- A text is its lexemes and the tail. -/
theorem Lexes.eq_append
    (h : Lexes source lexemes tail) :
    source = spelled lexemes ++ tail := by
  induction h with
  | done tail => rfl
  | next _ _ ih => rw [spelled, List.flatMap_cons, List.append_assoc, ih, spelled]

/-- A text is read into some of its lexemes first. -/
theorem Lexes.exists_between
    {others : List Lexeme}
    (h : Lexes source (front ++ others) tail) :
    ∃ rest, Lexes source front rest ∧ Lexes rest others tail := by
  induction front generalizing source with
  | nil => exact ⟨source, .done source, h⟩
  | cons l front ih =>
      cases h with
      | next hl h =>
          obtain ⟨rest, hfront, hothers⟩ := ih h
          exact ⟨rest, .next hl hfront, hothers⟩

/-- A single character that is read next. -/
theorem Lexes.exists_behind
    {c : Char}
    {others : List Lexeme}
    (h : Lexes source (front ++ .other c :: others) tail) :
    ∃ rest, Lexes source front (c :: rest) ∧ (Lexeme.other c).Starts rest ∧
      Lexes rest others tail := by
  obtain ⟨t, hfront, hbehind⟩ := h.exists_between
  cases hbehind with
  | next hc hothers => exact ⟨_, hfront, hc, hothers⟩

/-- The text is read up to the character that an issue is about. -/
theorem IsAbout.exists_lexes
    {issue : BracketIssue}
    (h : IsAbout source issue front) :
    ∃ rest, Lexes source front rest := by
  cases h with
  | unterminatedComment _ hlexes => exact ⟨_, hlexes⟩
  | unterminatedLiteral _ hlexes => exact ⟨_, hlexes⟩
  | unexpected _ hlexes => exact ⟨_, hlexes⟩
  | unclosed _ hlexes =>
      obtain ⟨rest, hfront, -⟩ := hlexes.exists_between
      exact ⟨rest, hfront⟩

/-- Nested words one after another are nested. -/
theorem IsNested.append
    {u v : List Char}
    (hu : IsNested u)
    (hv : IsNested v) :
    IsNested (u ++ v) := by
  induction hu with
  | nil => exact hv
  | @pair o c u w hpair hu _ _ ih =>
      have hnested := IsNested.pair hpair hu ih
      rwa [List.cons_append, List.append_assoc, List.cons_append]

/-- Lexemes with nested brackets leave open what was open. -/
theorem Leaves.append
    (h : Leaves front places)
    (hnested : IsNested (lexemes.flatMap Lexeme.brackets)) :
    Leaves (front ++ lexemes) places := by
  cases places with
  | nil =>
      rw [Leaves, List.flatMap_append]
      exact IsNested.append h hnested
  | cons p below =>
      obtain ⟨inside, rfl, ho, hinside, hbelow⟩ := h
      refine ⟨inside ++ lexemes, by simp, ho, ?_, hbelow⟩
      rw [List.flatMap_append]
      exact hinside.append hnested

/-- An opening bracket is one more that is open. -/
theorem Leaves.opening
    (h : Leaves front places)
    {o : Char}
    (ho : isOpening o = true) :
    Leaves (front ++ [.other o]) ((o, front) :: places) :=
  ⟨[], rfl, ho, .nil, h⟩

/-- A closing bracket closes the innermost open one that it belongs to. -/
theorem Leaves.closing
    {o c : Char}
    {before : List Lexeme}
    (h : Leaves front ((o, before) :: places))
    (hpair : (o, c) ∈ pairs) :
    Leaves (front ++ [.other c]) places := by
  obtain ⟨inside, rfl, -, hinside, hbelow⟩ := h
  have hbrackets : isBracket o = true ∧ isBracket c = true := by
    simp only [pairs, List.mem_cons, Prod.mk.injEq, List.not_mem_nil, or_false] at hpair
    rcases hpair with ⟨rfl, rfl⟩ | ⟨rfl, rfl⟩ | ⟨rfl, rfl⟩ <;> exact ⟨rfl, rfl⟩
  have hword : (Lexeme.other o :: inside ++ [Lexeme.other c]).flatMap Lexeme.brackets =
      o :: (inside.flatMap Lexeme.brackets ++ [c]) := by
    simp [Lexeme.brackets, hbrackets]
  rw [List.append_assoc]
  refine hbelow.append ?_
  rw [hword]
  exact .pair hpair hinside .nil

/-- An open bracket stands behind the lexemes in front of it. -/
theorem Leaves.exists_inside
    (h : Leaves lexemes places)
    {o : Char}
    (ho : (o, front) ∈ places) :
    ∃ inside, lexemes = front ++ .other o :: inside := by
  induction places generalizing lexemes with
  | nil => exact absurd ho List.not_mem_nil
  | cons p below ih =>
      obtain ⟨inside, rfl, -, -, hbelow⟩ := h
      rcases List.mem_cons.1 ho with rfl | ho
      · exact ⟨inside, rfl⟩
      · obtain ⟨inside', hinside⟩ := ih hbelow ho
        exact ⟨inside' ++ .other p.1 :: inside, by rw [hinside]; simp⟩

/-- Open brackets stand in front of the end, the innermost last. -/
theorem Leaves.ordered
    (h : Leaves lexemes places) :
    (∀ p ∈ places, (spelled p.2).length < (spelled lexemes).length) ∧
      places.Pairwise fun p q => (spelled q.2).length < (spelled p.2).length := by
  induction places generalizing lexemes with
  | nil => simp
  | cons p below ih =>
      obtain ⟨inside, rfl, -, -, hbelow⟩ := h
      obtain ⟨hless, hpairwise⟩ := ih hbelow
      have hown : (spelled p.2).length <
          (spelled (p.2 ++ .other p.1 :: inside)).length := by
        simp [spelled, Lexeme.text]
      exact ⟨List.forall_mem_cons.2 ⟨hown, fun q hq => (hless q hq).trans hown⟩,
        List.pairwise_cons.2 ⟨hless, hpairwise⟩⟩

/-- A lexeme has no brackets, or it is one. -/
theorem Lexeme.brackets_cases
    (l : Lexeme) :
    l.brackets = [] ∨ ∃ c, l = .other c ∧ isBracket c = true := by
  cases l with
  | other c =>
      cases hc : isBracket c with
      | true => exact .inr ⟨c, rfl, hc⟩
      | false => exact .inl (by simp [brackets, hc])
  | _ => exact .inl rfl

/-- Lexemes leave some brackets open, or there is a first closing one that closes nothing. -/
theorem leaves_or_stray
    (lexemes : List Lexeme) :
    (∃ places, Leaves lexemes places) ∨
      ∃ front c behind places, lexemes = front ++ .other c :: behind ∧ Leaves front places ∧
        IsStray places c := by
  induction lexemes using List.reverseRecOn with
  | nil => exact .inl ⟨[], .nil⟩
  | append_singleton lexemes l ih =>
      rcases ih with ⟨places, hleaves⟩ | ⟨front, c, behind, places, rfl, hleaves, hstray⟩
      · rcases l.brackets_cases with hnone | ⟨c, rfl, hc⟩
        · exact .inl ⟨places, hleaves.append (by simp [hnone, IsNested.nil])⟩
        · rcases bracket_cases c with ⟨hnone, -⟩ | ⟨-, hopening, -⟩ | ⟨-, hclosing, o, hpair, -⟩
          · exact absurd hc (by simp [hnone])
          · exact .inl ⟨_, hleaves.opening hopening⟩
          · by_cases hmatched : ∃ front below, places = (o, front) :: below
            · obtain ⟨front, below, rfl⟩ := hmatched
              exact .inl ⟨below, hleaves.closing hpair⟩
            · refine .inr ⟨lexemes, c, [], places, rfl, hleaves, hc, hclosing, ?_⟩
              rintro ⟨top, front⟩ hp hother
              obtain ⟨below, rfl⟩ := List.head?_eq_some_iff.1 hp
              exact hmatched ⟨front, below, by rw [eq_of_mem_pairs hpair hother]⟩
      · exact .inr ⟨front, c, behind ++ [l], places, by simp, hleaves, hstray⟩

end Open

/-! ## The pass -/

section Pass

variable {source rest tail : Text}
variable {front lexemes : List Lexeme}
variable {places : List (Char × List Lexeme)}

/-- Lexemes whose brackets close some open ones are passed over and take these off the stack. -/
theorem scan_closes
    (h : Lexes rest lexemes tail)
    (opened : List Opened)
    (hcloses : Closes (opened.map Prod.fst) (lexemes.flatMap Lexeme.brackets))
    (line : Nat)
    (stack : List Opened) :
    scan .code line (opened ++ stack) rest =
      scan .code (line + (lexemes.map Lexeme.feeds).sum) stack tail := by
  induction h generalizing opened line with
  | done tail =>
      have hnil : opened = [] := by simpa using (closes_nil_iff _).1 hcloses
      rw [hnil]
      rfl
  | @next l rest tail ls hl _ ih =>
      rw [List.flatMap_cons] at hcloses
      rw [List.map_cons, List.sum_cons, ← Nat.add_assoc]
      rcases l.brackets_cases with hnone | ⟨c, rfl, hc⟩
      · rw [hnone] at hcloses
        rw [scan_lexeme _ _ hl hnone]
        exact ih opened hcloses _
      · have hfeed : c ≠ '\n' := by
          rintro rfl
          exact absurd hc (by decide)
        rw [Lexeme.brackets, if_pos hc, List.singleton_append] at hcloses
        rw [Lexeme.text, List.singleton_append, scan_other _ _ hl, if_neg hfeed, Lexeme.feeds,
          if_neg hfeed]
        rcases bracket_cases c with ⟨hnone, -⟩ | ⟨-, hopening, d, hpair⟩ |
          ⟨-, hopening, o, hpair, hpartner⟩
        · exact absurd hc (by simp [hnone])
        · rw [if_pos hopening]
          exact ih ((c, line) :: opened) ((closes_opening_iff hpair _ _).1 hcloses) _
        · obtain ⟨below, hopened, hbelow⟩ := (closes_closing_iff hpair _ _).1 hcloses
          obtain ⟨p, others, rfl, rfl, rfl⟩ := List.map_eq_cons_iff.1 hopened
          simpa [hopening, hpartner] using ih others hbelow line

/-- The stack of the pass: open brackets with their lines. -/
def stackOf (places : List (Char × List Lexeme)) : List Opened :=
  places.map fun p => (p.1, lineBehind p.2)

/-- The pass gets to any point up to which the brackets are in order, with what is open on its
stack. -/
theorem scan_leaves
    (h : Lexes source lexemes tail)
    (hleaves : Leaves lexemes places) :
    check source = scan .code (lineBehind lexemes) (stackOf places) tail := by
  induction places generalizing lexemes tail with
  | nil => exact scan_closes h [] hleaves 1 []
  | cons p below ih =>
      obtain ⟨inside, rfl, ho, hinside, hbelow⟩ := hleaves
      obtain ⟨rest, hfront, hstarts, hrest⟩ := h.exists_behind
      have hfeed : p.1 ≠ '\n' := by
        intro hp
        rw [hp] at ho
        exact absurd ho (by decide)
      have hline : lineBehind (p.2 ++ .other p.1 :: inside) =
          lineBehind p.2 + (inside.map Lexeme.feeds).sum := by
        simp [lineBehind, Lexeme.feeds, hfeed, Nat.add_assoc]
      rw [ih hfront hbelow, scan_other _ _ hstarts, if_neg hfeed, if_pos ho, hline]
      exact scan_closes hrest [] hinside _ _

/-- At the end, the open brackets are reported, the outermost first. -/
theorem check_of_unclosed
    (h : Lexes source lexemes [])
    (hleaves : Leaves lexemes places) :
    check source = places.reverse.map fun p => .unclosed p.1 (lineBehind p.2) := by
  rw [scan_leaves h hleaves, scan_code_nil, stackOf, ← List.map_reverse, List.map_map]
  rfl

/-- A block comment that is never closed is reported. -/
theorem check_of_comment
    {t : Text}
    (h : Lexes source front ('/' :: '*' :: t))
    (hleaves : Leaves front places)
    (ht : ¬ blockEnd <:+: t) :
    check source = [.unterminatedComment (lineBehind front)] := by
  rw [scan_leaves h hleaves, scan_code_block, scan_block_unterminated _ _ _ ht]

/-- A literal that is never closed is reported. -/
theorem check_of_literal
    {quote : Char}
    {t : Text}
    (h : Lexes source front (quote :: t))
    (hleaves : Leaves front places)
    (hquote : isQuote quote = true)
    (ht : ¬ HasEnd quote t) :
    check source = [.unterminatedLiteral (lineBehind front)] := by
  rw [scan_leaves h hleaves, scan_quote _ _ hquote]
  exact (hasEnd_or_scan_unterminated _ _ _ _ _).resolve_left ht

/-- A closing bracket that closes nothing is reported. -/
theorem check_of_stray
    {c : Char}
    {t : Text}
    (h : Lexes source front (c :: t))
    (hleaves : Leaves front places)
    (hstarts : (Lexeme.other c).Starts t)
    (hstray : IsStray places c) :
    check source = [.unexpected c (lineBehind front)] := by
  have hfeed : c ≠ '\n' := by
    rintro rfl
    exact absurd hstray.bracket (by decide)
  rw [scan_leaves h hleaves, scan_other _ _ hstarts, if_neg hfeed]
  rcases bracket_cases c with ⟨hnone, -⟩ | ⟨-, hopening, -⟩ | ⟨-, hopening, o, hpair, hpartner⟩
  · exact absurd hstray.bracket (by simp [hnone])
  · exact absurd hopening (by simp [hstray.closing])
  · rw [hopening, hpartner]
    cases places with
    | nil => rfl
    | cons p below =>
        have hne : p.1 ≠ o := by
          intro hp
          exact hstray.unmatched p rfl (hp ▸ hpair)
        simp [stackOf, hne]

/-- What an issue can be about is reported, in the line that the pass has got to there. -/
theorem mem_check_of_isAbout
    {issue : BracketIssue}
    (h : IsAbout source issue front)
    (hline : issue.line = lineBehind front) :
    issue ∈ check source := by
  cases h with
  | unterminatedComment line hlexes hleaves ht =>
      rw [check_of_comment hlexes hleaves ht, ← hline]
      exact List.mem_singleton_self _
  | unterminatedLiteral line hlexes hleaves hquote ht =>
      rw [check_of_literal hlexes hleaves hquote ht, ← hline]
      exact List.mem_singleton_self _
  | unexpected line hlexes hleaves hstarts hstray =>
      rw [check_of_stray hlexes hleaves hstarts hstray, ← hline]
      exact List.mem_singleton_self _
  | @unclosed _ _ _ o line hlexes hleaves hopen =>
      rw [check_of_unclosed hlexes hleaves]
      exact List.mem_map.2 ⟨(o, front), List.mem_reverse.2 hopen, by rw [← hline]; rfl⟩

/-- The issues are about characters of the text, one after another, and name the lines that the pass
has got to there. -/
def ReportsInOrder (source : Text) (issues : List BracketIssue) : Prop :=
  ∃ fronts : List (List Lexeme),
    List.Forall₂ (fun issue front => IsAbout source issue front ∧ issue.line = lineBehind front)
      issues fronts ∧
    fronts.Pairwise fun a b => (spelled a).length < (spelled b).length

/-- A single issue. -/
theorem ReportsInOrder.single
    {issue : BracketIssue}
    (h : IsAbout source issue front)
    (hline : issue.line = lineBehind front) :
    ReportsInOrder source [issue] :=
  ⟨[front], .cons ⟨h, hline⟩ .nil, List.pairwise_singleton ..⟩

/-- Brackets that are open at the end. -/
theorem ReportsInOrder.unclosed
    (h : Lexes source lexemes [])
    (hleaves : Leaves lexemes places) :
    ReportsInOrder source (places.reverse.map fun p => .unclosed p.1 (lineBehind p.2)) := by
  refine ⟨places.reverse.map Prod.snd, ?_, ?_⟩
  · rw [List.forall₂_map_left_iff, List.forall₂_map_right_iff, List.forall₂_same]
    intro p hp
    have hopen : (p.1, p.2) ∈ places := List.mem_reverse.1 hp
    obtain ⟨inside, rfl⟩ := hleaves.exists_inside hopen
    exact ⟨.unclosed _ h hleaves hopen, rfl⟩
  · rw [List.pairwise_map, List.pairwise_reverse]
    exact hleaves.ordered.2

/-- All issues of the check. -/
theorem reportsInOrder_check
    (source : Text) :
    ReportsInOrder source (check source) := by
  obtain ⟨lexemes, tail, hlexes, htail⟩ := exists_lexing source
  rcases leaves_or_stray lexemes with ⟨places, hleaves⟩ |
    ⟨front, c, behind, places, rfl, hleaves, hstray⟩
  · rcases htail with rfl | hopen
    · rw [check_of_unclosed hlexes hleaves]
      exact .unclosed hlexes hleaves
    · cases hopen with
      | block ht =>
          rw [check_of_comment hlexes hleaves ht]
          exact .single (.unterminatedComment _ hlexes hleaves ht) rfl
      | literal hquote ht =>
          rw [check_of_literal hlexes hleaves hquote ht]
          exact .single (.unterminatedLiteral _ hlexes hleaves hquote ht) rfl
  · obtain ⟨rest, hfront, hstarts, -⟩ := hlexes.exists_behind
    rw [check_of_stray hfront hleaves hstarts hstray]
    exact .single (.unexpected _ hfront hleaves hstarts hstray) rfl

end Pass

/--
The issues of a text are about characters of the text, one after another, and all characters that an
issue can be about have theirs. The line of an issue is one more than the line feeds in front of the
character, less those that a backslash in a literal takes along.
-/
theorem lines_of_check
    (source : Text) :
    (∃ fronts : List (List Lexeme),
      List.Forall₂ (fun issue front => IsAbout source issue front ∧
        issue.line + takenFeeds front = 1 + (spelled front).count '\n') (check source) fronts ∧
      fronts.Pairwise fun a b => (spelled a).length < (spelled b).length) ∧
    ∀ issue front, IsAbout source issue front →
      issue.line + takenFeeds front = 1 + (spelled front).count '\n' → issue ∈ check source := by
  have hline : ∀ {issue front}, IsAbout source issue front →
      (issue.line + takenFeeds front = 1 + (spelled front).count '\n' ↔
        issue.line = lineBehind front) := by
    intro issue front habout
    obtain ⟨rest, hfront⟩ := habout.exists_lexes
    rw [← lineBehind_add_takenFeeds hfront, Nat.add_right_cancel_iff]
  obtain ⟨fronts, hreports, hordered⟩ := reportsInOrder_check source
  refine ⟨⟨fronts, hreports.imp fun issue front hreport => ?_, hordered⟩, ?_⟩
  · exact ⟨hreport.1, (hline hreport.1).2 hreport.2⟩
  · exact fun issue front habout heq => mem_check_of_isAbout habout ((hline habout).1 heq)

/-- A line feed behind a backslash is not counted: this closing bracket is in the second line. -/
theorem not_forall_lines_of_check :
    ¬ ∀ source : Text, ∃ fronts : List (List Lexeme),
      List.Forall₂ (fun issue front => IsAbout source issue front ∧
        issue.line = 1 + (spelled front).count '\n') (check source) fronts ∧
      fronts.Pairwise fun a b => (spelled a).length < (spelled b).length := by
  intro h
  obtain ⟨fronts, hfronts, -⟩ := h ['\x27', '\\', '\n', '\x27', ')']
  have hcheck : check ['\x27', '\\', '\n', '\x27', ')'] = [.unexpected ')' 1] := by decide
  rw [hcheck] at hfronts
  obtain ⟨front, -, ⟨habout, hline⟩, -⟩ := List.forall₂_cons_left_iff.1 hfronts
  cases habout with
  | unexpected _ hlexes =>
      have hsource := hlexes.eq_append
      have hnone : '\n' ∉ spelled front := by
        rw [← List.count_eq_zero]
        exact (Nat.add_left_cancel (show 1 + 0 = _ from hline)).symm
      -- the line feed stands in front of the only closing bracket
      generalize spelled front = w at hsource hnone
      match w with
      | [] => simp at hsource
      | [_] => simp at hsource
      | [_, _] => simp at hsource
      | _ :: _ :: d :: _ =>
          simp only [List.cons_append, List.cons.injEq] at hsource
          exact hnone (by simp [← hsource.2.2.1])

end Brackets

end BotCanvas
