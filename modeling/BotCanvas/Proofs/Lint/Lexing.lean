import BotCanvas.Lint.Brackets
import Mathlib.Data.List.Infix
import Mathlib.Data.List.TakeWhile

/-!
# Lexemes of the language with braces

A text is read from the left into lexemes: line comments, block comments, literals and single other
characters. Every text has exactly one such lexing, up to its end or up to a comment or a literal
that is never closed (`exists_lexing`, `IsLexing.unique`).
-/

namespace BotCanvas.Brackets

/-- An item of a literal: a backslash with the character it takes along, or a single character. -/
inductive Item
  | escape (c : Char)
  | plain (c : Char)

namespace Item

/-- The text of an item. -/
def text : Item → Text
  | escape c => ['\\', c]
  | plain c => [c]

/-- An item that may stand between two quotes of a kind. Only backticks may have line feeds between
them. -/
def FitsIn (quote : Char) : Item → Prop
  | escape _ => True
  | plain c => c ≠ '\\' ∧ c ≠ quote ∧ (c = '\n' → quote = '\x60')

end Item

/-- What ends a block comment. -/
def blockEnd : Text := ['*', '/']

/-- A lexeme of the language with braces. -/
inductive Lexeme
  | remark (body : Text)
  | block (body : Text)
  | literal (quote : Char) (items : List Item)
  | other (c : Char)

namespace Lexeme

/-- The text of a lexeme. -/
def text : Lexeme → Text
  | remark body => '/' :: '/' :: body
  | block body => '/' :: '*' :: (body ++ blockEnd)
  | literal quote items => quote :: (items.flatMap Item.text ++ [quote])
  | other c => [c]

/--
The lexeme is what a text starts with that goes on as given. A line comment goes up to the next line
feed or to the end, a block comment to the next end of one, a literal to the next quote of its kind
that no backslash takes along.
-/
def Starts : Lexeme → (rest : Text) → Prop
  | remark body, rest => '\n' ∉ body ∧ (rest = [] ∨ rest.head? = some '\n')
  | block body, _ => ¬ blockEnd <:+: body
  | literal quote items, _ => isQuote quote = true ∧ ∀ i ∈ items, i.FitsIn quote
  | other c, rest =>
      isQuote c = false ∧ (c = '/' → rest.head? ≠ some '/' ∧ rest.head? ≠ some '*')

end Lexeme

/-- What stands behind a quote goes on to the quote that closes the literal. -/
def HasEnd (quote : Char) (t : Text) : Prop :=
  ∃ (items : List Item) (rest : Text), (∀ i ∈ items, i.FitsIn quote) ∧
    t = items.flatMap Item.text ++ quote :: rest

/-- A text that starts with a block comment or a literal that is never closed. -/
inductive IsUnterminated : Text → Prop
  | block
      {t : Text} :
      ¬ blockEnd <:+: t →
      IsUnterminated ('/' :: '*' :: t)
  | literal
      {quote : Char}
      {t : Text} :
      isQuote quote = true →
      ¬ HasEnd quote t →
      IsUnterminated (quote :: t)

/-- A text that is read from the left into lexemes, up to a tail. -/
inductive Lexes : Text → List Lexeme → (tail : Text) → Prop
  | done
      (tail : Text) :
      Lexes tail [] tail
  | next
      {l : Lexeme}
      {rest tail : Text}
      {ls : List Lexeme} :
      l.Starts rest →
      Lexes rest ls tail →
      Lexes (l.text ++ rest) (l :: ls) tail

/-- The lexing of a text: it leaves nothing, or a comment or a literal that is never closed. -/
structure IsLexing (source : Text) (lexemes : List Lexeme) (tail : Text) : Prop where
  lexes : Lexes source lexemes tail
  ends : tail = [] ∨ IsUnterminated tail

/-! ## Every text has one lexing -/

/-- A text with an end of a block comment falls apart at the first one. -/
theorem exists_block
    {t : Text}
    (h : blockEnd <:+: t) :
    ∃ body rest, t = body ++ (blockEnd ++ rest) ∧ ¬ blockEnd <:+: body := by
  induction t with
  | nil => simp [blockEnd] at h
  | cons c t ih =>
      by_cases hfirst : blockEnd <+: c :: t
      · obtain ⟨rest, hrest⟩ := hfirst
        exact ⟨[], rest, hrest.symm, by simp [blockEnd]⟩
      · obtain ⟨body, rest, rfl, hbody⟩ := ih ((List.infix_cons_iff.1 h).resolve_left hfirst)
        refine ⟨c :: body, rest, rfl, fun hinfix => ?_⟩
        refine (List.infix_cons_iff.1 hinfix).elim (fun hprefix => hfirst ?_) hbody
        exact hprefix.trans (List.prefix_append (c :: body) _)

/-- A text is at its end, starts with something unterminated, or with a lexeme. -/
theorem lexeme_cases
    (source : Text) :
    source = [] ∨ IsUnterminated source ∨
      ∃ (l : Lexeme) (rest : Text), source = l.text ++ rest ∧ l.Starts rest := by
  cases source with
  | nil => exact .inl rfl
  | cons c t =>
      right
      by_cases hquote : isQuote c = true
      · by_cases hend : HasEnd c t
        · obtain ⟨items, rest, hitems, rfl⟩ := hend
          exact .inr ⟨.literal c items, rest, by simp [Lexeme.text], hquote, hitems⟩
        · exact .inl (.literal hquote hend)
      · rw [Bool.not_eq_true] at hquote
        by_cases hremark : c = '/' ∧ t.head? = some '/'
        · obtain ⟨rfl, hhead⟩ := hremark
          obtain ⟨r, rfl⟩ := List.head?_eq_some_iff.1 hhead
          refine .inr ⟨.remark (r.takeWhile (· != '\n')), r.dropWhile (· != '\n'), ?_, ?_, ?_⟩
          · simp [Lexeme.text]
          · exact fun hmem => by simpa using List.mem_takeWhile_imp hmem
          · cases hrest : r.dropWhile (· != '\n') with
            | nil => exact .inl rfl
            | cons d rest =>
                have hd := List.head_dropWhile_not (p := (· != '\n')) (l := r)
                right
                simpa [hrest] using hd
        · by_cases hblock : c = '/' ∧ t.head? = some '*'
          · obtain ⟨rfl, hhead⟩ := hblock
            obtain ⟨r, rfl⟩ := List.head?_eq_some_iff.1 hhead
            by_cases hend : blockEnd <:+: r
            · obtain ⟨body, rest, rfl, hbody⟩ := exists_block hend
              exact .inr ⟨.block body, rest, by simp [Lexeme.text], hbody⟩
            · exact .inl (.block hend)
          · refine .inr ⟨.other c, t, rfl, hquote, fun hc => ⟨fun hd => ?_, fun hd => ?_⟩⟩
            · exact hremark ⟨hc, hd⟩
            · exact hblock ⟨hc, hd⟩

/-- No lexeme is empty. -/
theorem Lexeme.length_text_pos
    (l : Lexeme) :
    0 < l.text.length := by
  cases l <;> simp [Lexeme.text]

/-- Every text is read into lexemes, up to its end or to something unterminated. -/
theorem exists_lexing
    (source : Text) :
    ∃ lexemes tail, IsLexing source lexemes tail := by
  induction hn : source.length using Nat.strong_induction_on generalizing source with
  | _ n ih =>
      rcases lexeme_cases source with rfl | hopen | ⟨l, rest, rfl, hl⟩
      · exact ⟨[], [], .done _, .inl rfl⟩
      · exact ⟨[], source, .done _, .inr hopen⟩
      · have hshorter : rest.length < n := by
          have hpos := l.length_text_pos
          rw [List.length_append] at hn
          omega
        obtain ⟨lexemes, tail, hlexes, hends⟩ := ih rest.length hshorter rest rfl
        exact ⟨l :: lexemes, tail, .next hl hlexes, hends⟩

/-- No quote is a backslash or a line feed. -/
theorem quote_ne
    {quote : Char}
    (hquote : isQuote quote = true) :
    quote ≠ '\\' ∧ quote ≠ '\n' := by
  constructor
  · rintro rfl
    exact absurd hquote (by decide)
  · rintro rfl
    exact absurd hquote (by decide)

/-- Two ways to go on to a quote are one. -/
theorem items_unique
    {quote : Char}
    (hquote : isQuote quote = true)
    {items items' : List Item}
    {rest rest' : Text}
    (hitems : ∀ i ∈ items, i.FitsIn quote)
    (hitems' : ∀ i ∈ items', i.FitsIn quote)
    (h : items.flatMap Item.text ++ quote :: rest = items'.flatMap Item.text ++ quote :: rest') :
    items = items' ∧ rest = rest' := by
  induction items generalizing items' with
  | nil =>
      cases items' with
      | nil => simpa using h
      | cons i items' =>
          exfalso
          cases i with
          | escape c => exact (quote_ne hquote).1 (List.cons.inj h).1
          | plain c => exact (hitems' (.plain c) (by simp)).2.1 (List.cons.inj h).1.symm
  | cons i items ih =>
      rw [List.forall_mem_cons] at hitems
      cases items' with
      | nil =>
          exfalso
          cases i with
          | escape c => exact (quote_ne hquote).1 (List.cons.inj h).1.symm
          | plain c => exact hitems.1.2.1 (List.cons.inj h).1
      | cons i' items' =>
          rw [List.forall_mem_cons] at hitems'
          cases i with
          | escape c =>
              cases i' with
              | escape c' =>
                  simp only [List.flatMap_cons, Item.text, List.cons_append, List.nil_append,
                    List.cons.injEq, true_and] at h
                  obtain ⟨rfl, h⟩ := h
                  obtain ⟨rfl, hrest⟩ := ih hitems.2 hitems'.2 h
                  exact ⟨rfl, hrest⟩
              | plain c' => exact absurd (List.cons.inj h).1.symm hitems'.1.1
          | plain c =>
              cases i' with
              | escape c' => exact absurd (List.cons.inj h).1 hitems.1.1
              | plain c' =>
                  simp only [List.flatMap_cons, Item.text, List.cons_append, List.nil_append,
                    List.cons.injEq] at h
                  obtain ⟨rfl, h⟩ := h
                  obtain ⟨rfl, hrest⟩ := ih hitems.2 hitems'.2 h
                  exact ⟨rfl, hrest⟩

section Inversion

variable {l : Lexeme}
variable {rest t : Text}

/-- A lexeme that starts with a quote is a literal. -/
theorem exists_literal
    (hl : l.Starts rest)
    {quote : Char}
    (hquote : isQuote quote = true)
    (h : l.text ++ rest = quote :: t) :
    ∃ items, l = .literal quote items ∧ t = items.flatMap Item.text ++ quote :: rest := by
  cases l with
  | remark body =>
      obtain ⟨rfl, -⟩ := List.cons.inj h
      exact absurd hquote (by decide)
  | block body =>
      obtain ⟨rfl, -⟩ := List.cons.inj h
      exact absurd hquote (by decide)
  | literal quote' items =>
      obtain ⟨rfl, rfl⟩ := List.cons.inj h
      exact ⟨items, rfl, by simp⟩
  | other c =>
      obtain ⟨rfl, -⟩ := List.cons.inj h
      rw [hl.1] at hquote
      cases hquote

/-- A lexeme that starts with two slashes is a line comment. -/
theorem exists_remark
    (hl : l.Starts rest)
    (h : l.text ++ rest = '/' :: '/' :: t) :
    ∃ body, l = .remark body ∧ t = body ++ rest := by
  cases l with
  | remark body => exact ⟨body, rfl, by simpa [Lexeme.text] using h.symm⟩
  | block body => simp [Lexeme.text] at h
  | literal quote items =>
      obtain ⟨rfl, -⟩ := List.cons.inj h
      exact absurd hl.1 (by decide)
  | other c =>
      obtain ⟨rfl, rfl⟩ := List.cons.inj h
      exact absurd rfl (hl.2 rfl).1

/-- A lexeme that starts with a slash and a star is a block comment. -/
theorem exists_block_of_starts
    (hl : l.Starts rest)
    (h : l.text ++ rest = '/' :: '*' :: t) :
    ∃ body, l = .block body ∧ t = body ++ (blockEnd ++ rest) := by
  cases l with
  | remark body => simp [Lexeme.text] at h
  | block body => exact ⟨body, rfl, by simpa [Lexeme.text] using h.symm⟩
  | literal quote items =>
      obtain ⟨rfl, -⟩ := List.cons.inj h
      exact absurd hl.1 (by decide)
  | other c =>
      obtain ⟨rfl, rfl⟩ := List.cons.inj h
      exact absurd rfl (hl.2 rfl).2

/-- Any other lexeme is a single character. -/
theorem eq_other_of_starts
    (hl : l.Starts rest)
    {c : Char}
    (hother : (Lexeme.other c).Starts t)
    (h : l.text ++ rest = c :: t) :
    l = .other c ∧ rest = t := by
  cases l with
  | remark body =>
      obtain ⟨rfl, rfl⟩ := List.cons.inj h
      exact absurd rfl (hother.2 rfl).1
  | block body =>
      obtain ⟨rfl, rfl⟩ := List.cons.inj h
      exact absurd rfl (hother.2 rfl).2
  | literal quote items =>
      obtain ⟨rfl, -⟩ := List.cons.inj h
      exact absurd (hother.1.symm.trans hl.1) (by decide)
  | other d =>
      obtain ⟨rfl, rfl⟩ := List.cons.inj h
      exact ⟨rfl, rfl⟩

/-- Nothing unterminated starts with a lexeme. -/
theorem not_isUnterminated_of_starts
    (hl : l.Starts rest) :
    ¬ IsUnterminated (l.text ++ rest) := by
  intro h
  generalize hsource : l.text ++ rest = source at h
  cases h with
  | block ht =>
      obtain ⟨body, -, rfl⟩ := exists_block_of_starts hl hsource
      exact ht ⟨body, rest, by simp⟩
  | literal hquote ht =>
      obtain ⟨items, rfl, rfl⟩ := exists_literal hl hquote hsource
      exact ht ⟨items, rest, hl.2, rfl⟩

/-- The first line feed behind a line comment is found in one way only. -/
theorem remark_unique
    {body body' rest rest' : Text}
    (h : (Lexeme.remark body).Starts rest)
    (h' : (Lexeme.remark body').Starts rest')
    (heq : body ++ rest = body' ++ rest') :
    body = body' ∧ rest = rest' := by
  have htake : ∀ {b r : Text}, (Lexeme.remark b).Starts r →
      (b ++ r).takeWhile (· != '\n') = b := by
    rintro b r ⟨hb, hr⟩
    have hinside : ∀ c ∈ b, (c != '\n') = true := by
      intro c hc
      rw [bne_iff_ne]
      rintro rfl
      exact hb hc
    rw [List.takeWhile_append_of_pos hinside]
    rcases hr with rfl | hr
    · simp
    · obtain ⟨r, rfl⟩ := List.head?_eq_some_iff.1 hr
      simp
  have hbody : body = body' := by rw [← htake h, ← htake h', heq]
  subst hbody
  exact ⟨rfl, List.append_cancel_left heq⟩

/-- The first end of a block comment is found in one way only. -/
theorem block_unique
    {body body' rest rest' : Text}
    (h : ¬ blockEnd <:+: body)
    (h' : ¬ blockEnd <:+: body')
    (heq : body ++ (blockEnd ++ rest) = body' ++ (blockEnd ++ rest')) :
    body = body' ∧ rest = rest' := by
  induction body generalizing body' with
  | nil =>
      match body' with
      | [] => exact ⟨rfl, List.append_cancel_left heq⟩
      | [c] => simp [blockEnd] at heq
      | c :: d :: body' =>
          simp only [blockEnd, List.nil_append, List.cons_append, List.cons.injEq] at heq
          obtain ⟨rfl, rfl, -⟩ := heq
          exact absurd ⟨[], body', rfl⟩ h'
  | cons c body ih =>
      match body' with
      | [] =>
          match body with
          | [] => simp [blockEnd] at heq
          | d :: body =>
              simp only [blockEnd, List.nil_append, List.cons_append, List.cons.injEq] at heq
              obtain ⟨rfl, rfl, -⟩ := heq
              exact absurd ⟨[], body, rfl⟩ h
      | c' :: body' =>
          obtain ⟨rfl, htails⟩ := List.cons.inj heq
          obtain ⟨rfl, hrest⟩ := ih (fun hb => h (hb.trans (List.suffix_cons c body).isInfix))
            (fun hb => h' (hb.trans (List.suffix_cons c body').isInfix)) htails
          exact ⟨rfl, hrest⟩

/-- A text starts with one lexeme. -/
theorem starts_unique
    {l' : Lexeme}
    {rest' : Text}
    (hl : l.Starts rest)
    (hl' : l'.Starts rest')
    (h : l.text ++ rest = l'.text ++ rest') :
    l = l' ∧ rest = rest' := by
  cases l' with
  | remark body' =>
      obtain ⟨body, rfl, hbody⟩ := exists_remark hl h
      obtain ⟨rfl, hrest⟩ := remark_unique hl hl' hbody.symm
      exact ⟨rfl, hrest⟩
  | block body' =>
      obtain ⟨body, rfl, hbody⟩ := exists_block_of_starts hl h
      obtain ⟨rfl, hrest⟩ := block_unique hl hl' (by simpa using hbody.symm)
      exact ⟨rfl, hrest⟩
  | literal quote items' =>
      obtain ⟨items, rfl, hitems⟩ := exists_literal hl hl'.1 h
      obtain ⟨rfl, hrest⟩ := items_unique hl'.1 hl.2 hl'.2 (by simpa using hitems.symm)
      exact ⟨rfl, hrest⟩
  | other c => exact eq_other_of_starts hl hl' h

end Inversion

/-- A text has one lexing. -/
theorem IsLexing.unique
    {source tail tail' : Text}
    {lexemes lexemes' : List Lexeme}
    (h : IsLexing source lexemes tail)
    (h' : IsLexing source lexemes' tail') :
    lexemes = lexemes' ∧ tail = tail' := by
  obtain ⟨hlexes, hends⟩ := h
  obtain ⟨hlexes', hends'⟩ := h'
  have hstuck : ∀ {l : Lexeme} {rest : Text}, l.Starts rest →
      ¬ (l.text ++ rest = [] ∨ IsUnterminated (l.text ++ rest)) := by
    rintro l rest hl (hnil | hopen)
    · have hpos := l.length_text_pos
      simp [(List.append_eq_nil_iff.1 hnil).1] at hpos
    · exact not_isUnterminated_of_starts hl hopen
  induction hlexes generalizing lexemes' with
  | done tail =>
      cases hlexes' with
      | done => exact ⟨rfl, rfl⟩
      | next hl' _ => exact absurd hends (hstuck hl')
  | @next l rest tail ls hl _ ih =>
      generalize hsource : l.text ++ rest = source at hlexes'
      cases hlexes' with
      | done =>
          rw [← hsource] at hends'
          exact absurd hends' (hstuck hl)
      | next hl' hrest' =>
          obtain ⟨rfl, rfl⟩ := starts_unique hl hl' hsource
          obtain ⟨rfl, rfl⟩ := ih hends hrest'
          exact ⟨rfl, rfl⟩

end BotCanvas.Brackets
