import BotCanvas.Proofs.Lint.Lexing
import Mathlib.Algebra.GroupWithZero.Nat

/-!
# The language of the check for brackets

The check finds nothing just if the lexing of a text gets to its end and the brackets outside
comments and literals are nested (`check_eq_nil_iff`).

The invariant of the pass is `Closes`: what is still to be read closes the open brackets, innermost
first, with nested words in front, between and behind.
-/

namespace BotCanvas.Brackets

/-! ## Nested words -/

/-- The brackets that belong together. -/
def pairs : List (Char × Char) :=
  [('(', ')'), ('[', ']'), ('\x7b', '\x7d')]

/-- A nested word of brackets. -/
inductive IsNested : List Char → Prop
  | nil : IsNested []
  | pair
      {o c : Char}
      {u v : List Char} :
      (o, c) ∈ pairs →
      IsNested u →
      IsNested v →
      IsNested (o :: (u ++ c :: v))

/-- Tests for a bracket. -/
def isBracket (c : Char) : Bool :=
  pairs.any fun p => c == p.1 || c == p.2

/-- The brackets of a lexeme: those in comments and literals do not count. -/
def Lexeme.brackets : Lexeme → List Char
  | other c => if isBracket c then [c] else []
  | _ => []

/-- The line feeds of an item that the pass counts: none that a backslash takes along. -/
def Item.feeds : Item → Nat
  | escape _ => 0
  | plain c => if c = '\n' then 1 else 0

/-- The line feeds of a lexeme that the pass counts. -/
def Lexeme.feeds : Lexeme → Nat
  | remark body => body.count '\n'
  | block body => body.count '\n'
  | literal _ items => (items.map Item.feeds).sum
  | other c => if c = '\n' then 1 else 0

/-- A word that closes open brackets, innermost first, and nothing else. -/
def Closes : (opened : List Char) → List Char → Prop
  | [], w => IsNested w
  | o :: below, w => ∃ u c v, w = u ++ c :: v ∧ (o, c) ∈ pairs ∧ IsNested u ∧ Closes below v

/-- Nothing is left open by a word without brackets. -/
theorem closes_nil_iff
    (opened : List Char) :
    Closes opened [] ↔ opened = [] := by
  cases opened with
  | nil => simp [Closes, IsNested.nil]
  | cons o below => simp [Closes]

/-- An opening bracket opens no word that is closed already. -/
theorem isNested_cons_iff
    {o : Char}
    {w : List Char} :
    IsNested (o :: w) ↔
      ∃ u c v, w = u ++ c :: v ∧ (o, c) ∈ pairs ∧ IsNested u ∧ IsNested v := by
  constructor
  · rintro (_ | @⟨_, c, u, v, hpair, hu, hv⟩)
    exact ⟨u, c, v, rfl, hpair, hu, hv⟩
  · rintro ⟨u, c, v, rfl, hpair, hu, hv⟩
    exact .pair hpair hu hv

/-- No bracket opens one word and closes another. -/
theorem not_mem_pairs_of_opening
    {o c d : Char}
    (h : (o, c) ∈ pairs) :
    (d, o) ∉ pairs := by
  simp only [pairs, List.mem_cons, Prod.mk.injEq, List.not_mem_nil, or_false] at h ⊢
  rcases h with ⟨rfl, -⟩ | ⟨rfl, -⟩ | ⟨rfl, -⟩ <;> simp

/-- A closing bracket closes one opening bracket. -/
theorem eq_of_mem_pairs
    {o o' c : Char}
    (h : (o, c) ∈ pairs)
    (h' : (o', c) ∈ pairs) :
    o = o' := by
  simp only [pairs, List.mem_cons, Prod.mk.injEq, List.not_mem_nil, or_false] at h h'
  rcases h with ⟨rfl, rfl⟩ | ⟨rfl, rfl⟩ | ⟨rfl, rfl⟩ <;> simpa [eq_comm] using h'

/-- An opening bracket is one more to close. -/
theorem closes_opening_iff
    {o c : Char}
    (ho : (o, c) ∈ pairs)
    (opened w : List Char) :
    Closes opened (o :: w) ↔ Closes (o :: opened) w := by
  cases opened with
  | nil => exact isNested_cons_iff
  | cons top below =>
      constructor
      · rintro ⟨u, d, v, hw, htop, hu, hv⟩
        cases u with
        | nil =>
            obtain ⟨rfl, rfl⟩ := List.cons.inj hw
            exact absurd htop (not_mem_pairs_of_opening ho)
        | cons _ u =>
            obtain ⟨rfl, rfl⟩ := List.cons.inj hw
            obtain ⟨u', c', v', rfl, hpair, hu', hv'⟩ := isNested_cons_iff.1 hu
            exact ⟨u', c', v' ++ d :: v, by simp, hpair, hu', v', d, v, rfl, htop, hv', hv⟩
      · rintro ⟨u, d, _, rfl, hpair, hu, v, e, rest, rfl, htop, hv, hrest⟩
        exact ⟨o :: (u ++ d :: v), e, rest, by simp, htop, .pair hpair hu hv, hrest⟩

/-- A closing bracket closes the innermost open one, which is its partner. -/
theorem closes_closing_iff
    {o c : Char}
    (ho : (o, c) ∈ pairs)
    (opened w : List Char) :
    Closes opened (c :: w) ↔ ∃ below, opened = o :: below ∧ Closes below w := by
  have hnested : ∀ w, ¬ IsNested (c :: w) := by
    intro w hw
    obtain ⟨u, d, v, -, hpair, -, -⟩ := isNested_cons_iff.1 hw
    exact not_mem_pairs_of_opening hpair ho
  cases opened with
  | nil => simp [Closes, hnested]
  | cons top below =>
      constructor
      · rintro ⟨u, d, v, hw, htop, hu, hv⟩
        cases u with
        | nil =>
            obtain ⟨rfl, rfl⟩ := List.cons.inj hw
            exact ⟨below, by rw [eq_of_mem_pairs htop ho], hv⟩
        | cons _ u =>
            obtain ⟨rfl, -⟩ := List.cons.inj hw
            exact absurd hu (hnested u)
      · rintro ⟨below', hopened, hbelow⟩
        obtain ⟨rfl, rfl⟩ := List.cons.inj hopened
        exact ⟨[], c, w, rfl, ho, .nil, hbelow⟩

/-! ## The pass, one character at a time -/

section Pass

variable (line : Nat)
variable (stack : List Opened)

/-- At the end of a text all open brackets are reported. -/
theorem scan_code_nil :
    scan .code line stack [] = stack.reverse.map fun (c, opened) => .unclosed c opened :=
  rfl

theorem scan_code_block
    (r : Text) :
    scan .code line stack ('/' :: '*' :: r) = scan (.blockComment line) line stack r :=
  rfl

theorem scan_remark_cons
    (c : Char)
    (r : Text) :
    scan .lineComment line stack (c :: r) =
      if c = '\n' then scan .code (line + 1) stack r else scan .lineComment line stack r :=
  rfl

/-- A character of a block comment that does not begin its end is passed over. -/
theorem scan_block_cons
    (opened : Nat)
    {c : Char}
    {r : Text}
    (h : ¬ blockEnd <+: c :: r) :
    scan (.blockComment opened) line stack (c :: r) =
      scan (.blockComment opened) (if c = '\n' then line + 1 else line) stack r := by
  rw [scan]
  rintro rest rfl rfl
  exact h ⟨rest, rfl⟩

/-- A backslash and the character behind it are one item of a literal. -/
theorem scan_escape
    (quote : Char)
    (opened : Nat)
    (c : Char)
    (r : Text) :
    scan (.literal quote opened) line stack ('\\' :: c :: r) =
      scan (.literal quote opened) line stack r :=
  rfl

/-- A single character of a literal is its end, or it is passed over, unless it is a line feed that
may not stand there. -/
theorem scan_literal_cons
    (quote : Char)
    (opened : Nat)
    {c : Char}
    (hslash : c ≠ '\\')
    (r : Text) :
    scan (.literal quote opened) line stack (c :: r) =
      if c = quote then scan .code line stack r
      else if c = '\n' then
        if quote = '\x60' then scan (.literal quote opened) (line + 1) stack r
        else [.unterminatedLiteral opened]
      else scan (.literal quote opened) line stack r := by
  rw [scan]
  exact fun _ _ hc => absurd hc hslash

/-- A character of code that does not begin a comment opens a literal, is a bracket that is matched
with those that are open, or is passed over. -/
theorem scan_code_cons
    {c : Char}
    {r : Text}
    (h : c = '/' → r.head? ≠ some '/' ∧ r.head? ≠ some '*') :
    scan .code line stack (c :: r) =
      if c = '\n' then scan .code (line + 1) stack r
      else if isQuote c then scan (.literal c line) line stack r
      else if isOpening c then scan .code line ((c, line) :: stack) r
      else
        match partner? c with
        | none => scan .code line stack r
        | some opening =>
            match stack with
            | (top, _) :: below =>
                if top = opening then scan .code line below r else [.unexpected c line]
            | [] => [.unexpected c line] := by
  have hremark : ∀ rest, c = '/' → r = '/' :: rest → False := by
    rintro rest rfl rfl
    exact (h rfl).1 rfl
  have hblock : ∀ rest, c = '/' → r = '*' :: rest → False := by
    rintro rest rfl rfl
    exact (h rfl).2 rfl
  rw [scan] <;> first | exact hremark | exact hblock | rfl

/-! ## The pass over a lexeme -/

/-- The end of a line comment is passed over like code. -/
theorem scan_remark
    {body rest : Text}
    (hbody : '\n' ∉ body)
    (hrest : rest = [] ∨ rest.head? = some '\n') :
    scan .lineComment line stack (body ++ rest) = scan .code line stack rest := by
  induction body with
  | nil =>
      rcases hrest with rfl | hrest
      · rfl
      · obtain ⟨r, rfl⟩ := List.head?_eq_some_iff.1 hrest
        rfl
  | cons c body ih =>
      simp only [List.mem_cons, not_or] at hbody
      rw [List.cons_append, scan_remark_cons, if_neg (Ne.symm hbody.1), ih hbody.2]

/-- A block comment is passed over up to its end, and its line feeds are counted. -/
theorem scan_block
    (opened : Nat)
    {body : Text}
    (hbody : ¬ blockEnd <:+: body)
    (rest : Text) :
    scan (.blockComment opened) line stack (body ++ (blockEnd ++ rest)) =
      scan .code (line + body.count '\n') stack rest := by
  induction body generalizing line with
  | nil => rfl
  | cons c body ih =>
      have hline : (if c = '\n' then line + 1 else line) + body.count '\n' =
          line + (c :: body).count '\n' := by
        by_cases hc : c = '\n'
        · simp only [hc, if_true, List.count_cons_self]
          omega
        · simp only [hc, if_false, List.count_cons_of_ne hc]
      rw [List.cons_append, scan_block_cons, ih, hline]
      · exact fun h => hbody (h.trans (List.suffix_cons c body).isInfix)
      · rintro ⟨r, hr⟩
        obtain ⟨rfl, hbehind⟩ := List.cons.inj hr
        cases body with
        | nil => simp [blockEnd] at hbehind
        | cons d body =>
            obtain ⟨rfl, -⟩ := List.cons.inj hbehind
            exact hbody ⟨[], body, rfl⟩

/-- A block comment that is not closed is reported. -/
theorem scan_block_unterminated
    (opened : Nat)
    {t : Text}
    (ht : ¬ blockEnd <:+: t) :
    scan (.blockComment opened) line stack t = [.unterminatedComment opened] := by
  induction t generalizing line with
  | nil => rfl
  | cons c t ih =>
      rw [scan_block_cons line stack opened fun h => ht h.isInfix,
        ih _ fun h => ht (h.trans (List.suffix_cons c t).isInfix)]

/-- A literal is passed over up to its quote, and its line feeds are counted, but for those that a
backslash takes along. -/
theorem scan_literal
    {quote : Char}
    (opened : Nat)
    (hquote : isQuote quote = true)
    {items : List Item}
    (hitems : ∀ i ∈ items, i.FitsIn quote)
    (rest : Text) :
    scan (.literal quote opened) line stack (items.flatMap Item.text ++ quote :: rest) =
      scan .code (line + (items.map Item.feeds).sum) stack rest := by
  induction items generalizing line with
  | nil =>
      rw [List.flatMap_nil, List.nil_append,
        scan_literal_cons line stack quote opened (quote_ne hquote).1, if_pos rfl]
      rfl
  | cons i items ih =>
      rw [List.forall_mem_cons] at hitems
      rw [List.flatMap_cons, List.append_assoc, List.map_cons, List.sum_cons, ← Nat.add_assoc,
        ← ih _ hitems.2]
      cases i with
      | escape c => exact scan_escape line stack quote opened c _
      | plain c =>
          obtain ⟨hslash, hmark, hfeed⟩ := hitems.1
          rw [Item.text, List.singleton_append,
            scan_literal_cons line stack quote opened hslash, if_neg hmark]
          by_cases hc : c = '\n'
          · simp [Item.feeds, hc, hfeed hc]
          · simp [Item.feeds, hc]

/-- An item in front of a literal that ends. -/
theorem HasEnd.item
    {quote : Char}
    {i : Item}
    (hi : i.FitsIn quote)
    {t : Text}
    (h : HasEnd quote t) :
    HasEnd quote (i.text ++ t) := by
  obtain ⟨items, rest, hitems, rfl⟩ := h
  exact ⟨i :: items, rest, List.forall_mem_cons.2 ⟨hi, hitems⟩, by simp⟩

/-- A literal is closed, or it is reported. -/
theorem hasEnd_or_scan_unterminated
    (quote : Char)
    (opened : Nat) :
    ∀ (line : Nat) (t : Text), HasEnd quote t ∨
      scan (.literal quote opened) line stack t = [.unterminatedLiteral opened]
  | _, [] => .inr rfl
  | line, c :: r => by
      by_cases hmark : c = quote
      · exact .inl ⟨[], r, by simp, by simp [hmark]⟩
      by_cases hslash : c = '\\'
      · subst hslash
        cases r with
        | nil => exact .inr (if_neg hmark)
        | cons d r =>
            rw [scan_escape]
            exact (hasEnd_or_scan_unterminated quote opened line r).imp_left
              (HasEnd.item (i := .escape d) trivial)
      · rw [scan_literal_cons line stack quote opened hslash, if_neg hmark]
        by_cases hfeed : c = '\n'
        · rw [if_pos hfeed]
          by_cases htick : quote = '\x60'
          · rw [if_pos htick]
            exact (hasEnd_or_scan_unterminated quote opened (line + 1) r).imp_left
              (HasEnd.item (i := .plain c) ⟨hslash, hmark, fun _ => htick⟩)
          · exact .inr (if_neg htick)
        · rw [if_neg hfeed]
          exact (hasEnd_or_scan_unterminated quote opened line r).imp_left
            (HasEnd.item (i := .plain c) ⟨hslash, hmark, fun h => absurd h hfeed⟩)

/-! ## The pass over code -/

/-- A character is no bracket, an opening one, or a closing one. -/
theorem bracket_cases
    (c : Char) :
    (isBracket c = false ∧ isOpening c = false ∧ partner? c = none) ∨
      (isBracket c = true ∧ isOpening c = true ∧ ∃ d, (c, d) ∈ pairs) ∨
      (isBracket c = true ∧ isOpening c = false ∧ ∃ o, (o, c) ∈ pairs ∧ partner? c = some o) := by
  by_cases h : c ∈ ['(', ')', '[', ']', '\x7b', '\x7d']
  · simp only [List.mem_cons, List.not_mem_nil, or_false] at h
    rcases h with rfl | rfl | rfl | rfl | rfl | rfl
    · exact .inr (.inl ⟨rfl, rfl, ')', by decide⟩)
    · exact .inr (.inr ⟨rfl, rfl, '(', by decide, rfl⟩)
    · exact .inr (.inl ⟨rfl, rfl, ']', by decide⟩)
    · exact .inr (.inr ⟨rfl, rfl, '[', by decide, rfl⟩)
    · exact .inr (.inl ⟨rfl, rfl, '\x7d', by decide⟩)
    · exact .inr (.inr ⟨rfl, rfl, '\x7b', by decide, rfl⟩)
  · simp only [List.mem_cons, List.not_mem_nil, or_false, not_or] at h
    obtain ⟨h1, h2, h3, h4, h5, h6⟩ := h
    exact .inl ⟨by simp [isBracket, pairs, h1, h2, h3, h4, h5, h6],
      by simp [isOpening, h1, h3, h5], by simp [partner?, h2, h4, h6]⟩

/-- A quote opens a literal. -/
theorem scan_quote
    {quote : Char}
    (hquote : isQuote quote = true)
    (r : Text) :
    scan .code line stack (quote :: r) = scan (.literal quote line) line stack r := by
  have hslash : quote ≠ '/' := by
    rintro rfl
    exact absurd hquote (by decide)
  rw [scan_code_cons line stack fun h => absurd h hslash, if_neg (quote_ne hquote).2, if_pos hquote]

/-- A single character of code: a bracket is matched with those that are open, and all else is
passed over. -/
theorem scan_other
    {c : Char}
    {rest : Text}
    (h : (Lexeme.other c).Starts rest) :
    scan .code line stack (c :: rest) =
      if c = '\n' then scan .code (line + 1) stack rest
      else if isOpening c then scan .code line ((c, line) :: stack) rest
      else
        match partner? c with
        | none => scan .code line stack rest
        | some opening =>
            match stack with
            | (top, _) :: below =>
                if top = opening then scan .code line below rest else [.unexpected c line]
            | [] => [.unexpected c line] := by
  obtain ⟨hquote, hslash⟩ := h
  rw [scan_code_cons line stack hslash, hquote]
  rfl

/-- A lexeme without brackets is passed over, and its line feeds are counted. -/
theorem scan_lexeme
    {l : Lexeme}
    {rest : Text}
    (hl : l.Starts rest)
    (hbrackets : l.brackets = []) :
    scan .code line stack (l.text ++ rest) = scan .code (line + l.feeds) stack rest := by
  cases l with
  | remark body =>
      rw [Lexeme.feeds, List.count_eq_zero_of_not_mem hl.1]
      exact scan_remark line stack hl.1 hl.2
  | block body =>
      rw [Lexeme.text, List.cons_append, List.cons_append, List.append_assoc, scan_code_block]
      exact scan_block line stack line hl rest
  | literal quote items =>
      rw [Lexeme.text, List.cons_append, List.append_assoc, scan_quote line stack hl.1]
      exact scan_literal line stack line hl.1 hl.2 rest
  | other c =>
      rw [Lexeme.text, List.singleton_append, scan_other line stack hl]
      rcases bracket_cases c with ⟨-, hopening, hpartner⟩ | ⟨hbracket, -⟩ | ⟨hbracket, -⟩
      · by_cases hc : c = '\n'
        · simp [Lexeme.feeds, hc]
        · simp [Lexeme.feeds, hc, hopening, hpartner]
      · simp [Lexeme.brackets, hbracket] at hbrackets
      · simp [Lexeme.brackets, hbracket] at hbrackets

/-- If the brackets of a text decide the pass over it, so do they with a character of code in front:
an opening bracket is put on the stack, and a closing one takes its partner from there. -/
theorem scan_other_eq_nil_iff
    {c : Char}
    {rest : Text}
    (h : (Lexeme.other c).Starts rest)
    {ends : Prop}
    {brackets : List Char}
    (hrest : ∀ line stack, scan .code line stack rest = [] ↔
      ends ∧ Closes (stack.map Prod.fst) brackets) :
    scan .code line stack (c :: rest) = [] ↔
      ends ∧ Closes (stack.map Prod.fst) ((Lexeme.other c).brackets ++ brackets) := by
  rw [scan_other line stack h]
  rcases bracket_cases c with ⟨hc, hopening, hpartner⟩ | ⟨hc, hopening, d, hpair⟩ |
    ⟨hc, hopening, o, hpair, hpartner⟩
  · simp only [Lexeme.brackets, hc, hopening, hpartner, Bool.false_eq_true, if_false,
      List.nil_append]
    split
    · exact hrest _ _
    · exact hrest _ _
  · have hfeed : c ≠ '\n' := by
      rintro rfl
      exact absurd hopening (by decide)
    simp [Lexeme.brackets, hc, hopening, hfeed, hrest, closes_opening_iff hpair]
  · have hfeed : c ≠ '\n' := by
      rintro rfl
      exact absurd hc (by decide)
    simp only [Lexeme.brackets, hc, hopening, hfeed, hpartner, if_true, if_false,
      List.singleton_append, Bool.false_eq_true, closes_closing_iff hpair]
    cases stack with
    | nil => simp
    | cons top below =>
        obtain ⟨top, opened⟩ := top
        by_cases htop : top = o
        · simp [htop, hrest]
        · simp [htop]

/--
The pass from code on finds nothing just if the lexing leaves nothing and its brackets close those
that are open.
-/
theorem scan_code_eq_nil_iff
    {source tail : Text}
    {lexemes : List Lexeme}
    (h : Lexes source lexemes tail)
    (htail : tail = [] ∨ IsUnterminated tail) :
    scan .code line stack source = [] ↔
      tail = [] ∧ Closes (stack.map Prod.fst) (lexemes.flatMap Lexeme.brackets) := by
  induction h generalizing line stack with
  | done tail =>
      rcases htail with rfl | hopen
      · simp [scan_code_nil, closes_nil_iff]
      · cases hopen with
        | block ht => simp [scan_code_block, scan_block_unterminated line stack line ht]
        | @literal quote t hquote ht =>
            have hreport := (hasEnd_or_scan_unterminated stack quote line line t).resolve_left ht
            simp [scan_quote line stack hquote, hreport]
  | @next l rest tail ls hl hlexes ih =>
      rw [List.flatMap_cons]
      cases l with
      | remark body =>
          rw [scan_lexeme line stack hl rfl]
          exact ih _ stack htail
      | block body =>
          rw [scan_lexeme line stack hl rfl]
          exact ih _ stack htail
      | literal quote items =>
          rw [scan_lexeme line stack hl rfl]
          exact ih _ stack htail
      | other c =>
          rw [Lexeme.text, List.singleton_append]
          exact scan_other_eq_nil_iff line stack hl fun line stack => ih line stack htail

end Pass

/--
Every text has one lexing, and the check finds nothing just if the lexing leaves no comment and no
literal unterminated and the brackets among its other characters are nested. The pass is a recursion
on the text, so it ends on every text.
-/
theorem check_eq_nil_iff
    (source : Text) :
    ∃ lexemes tail,
      (∀ lexemes' tail',
        IsLexing source lexemes' tail' ↔ lexemes' = lexemes ∧ tail' = tail) ∧
      (check source = [] ↔ tail = [] ∧ IsNested (lexemes.flatMap Lexeme.brackets)) := by
  obtain ⟨lexemes, tail, hlexing⟩ := exists_lexing source
  refine ⟨lexemes, tail, fun lexemes' tail' => ⟨fun hother => hother.unique hlexing, ?_⟩, ?_⟩
  · rintro ⟨rfl, rfl⟩
    exact hlexing
  · exact scan_code_eq_nil_iff 1 [] hlexing.lexes hlexing.ends

/-- The slash that opens a block comment does not close it. -/
example : check ['/', '*', '/'] = [.unterminatedComment 1] := by
  decide

end BotCanvas.Brackets
