import BotCanvas.Proofs.Braced.Lexis

/-!
# The check for brackets and the reader of programs

The check for brackets passes over a text and looks two characters ahead; the reader of programs
goes on one character at a time and keeps its place. Where the reader comes through with nothing
left open, the check finds nothing.
-/

namespace BotCanvas.Brackets

open Lexis

/-- Where a reader stands if the check is in a mode. -/
inductive Stands : Mode → Spot → Prop
  | code : Stands .code .code
  | remark : Stands .lineComment .remark
  | block
      (opened : Nat) :
      Stands (.blockComment opened) .block
  | literal
      (q : Quote)
      (opened : Nat) :
      Stands (.literal q.mark opened) (.literal q)

/-- A place where a text may end. -/
def IsFinal (p : Spot) : Prop :=
  p = .code ∨ p = .slash ∨ p = .remark

/-- The quote that a character is the mark of. -/
theorem exists_quote
    {c : Char}
    (h : isQuote c = true) :
    ∃ q : Quote, c = q.mark := by
  simp only [isQuote, Bool.or_eq_true, beq_iff_eq] at h
  rcases h with (rfl | rfl) | rfl
  · exact ⟨.single, rfl⟩
  · exact ⟨.double, rfl⟩
  · exact ⟨.backtick, rfl⟩

/-- A character of code that is neither a quote nor a slash leads on in code. -/
theorem enter_of_not_isQuote
    {c : Char}
    (h : isQuote c = false)
    (hslash : c ≠ '/') :
    (Braced.lexis true).enter c = .code := by
  simp only [isQuote, Bool.or_eq_false_iff, beq_eq_false_iff_ne] at h
  simp [enter, quote?, Braced.lexis, h.1.1, h.1.2, h.2, hslash]

/-! ## Reading on from a place -/

section Reading

variable {c : Char}
variable {t : Text}
variable {opened : List Char}
variable {q : Spot × List Char}

/-- Reading on from a text's first character. -/
theorem exists_advance
    {r : Reader}
    (h : (Braced.lexis true).read r (c :: t) = some q) :
    ∃ s, (Braced.lexis true).advance r c = some s ∧
      (Braced.lexis true).read (some s) t = some q := by
  rw [read_cons] at h
  cases hstep : (Braced.lexis true).advance r c with
  | none =>
      rw [hstep, read_none] at h
      cases h
  | some s =>
      rw [hstep] at h
      exact ⟨s, rfl, h⟩

/-- A remark goes on up to the end of the line. -/
theorem read_lineRemark
    (hfeed : c ≠ '\n')
    (h : (Braced.lexis true).read (some (.remark, opened)) (c :: t) = some q) :
    (Braced.lexis true).read (some (.remark, opened)) t = some q := by
  have hadvance : (Braced.lexis true).advance (some (.remark, opened)) c =
      some (.remark, opened) := by
    simp [advance, trackAt, next, hfeed]
  rwa [read_cons, hadvance] at h

/-- A block of remarks goes on up to a star and a slash. -/
theorem read_block
    (hclose : ∀ r, c = '*' → t = '/' :: r → False)
    (hfinal : IsFinal q.1)
    (h : (Braced.lexis true).read (some (.block, opened)) (c :: t) = some q) :
    (Braced.lexis true).read (some (.block, opened)) t = some q := by
  rw [read_cons] at h
  by_cases hstar : c = '*'
  · subst hstar
    cases t with
    | nil =>
        rw [← Option.some.inj h] at hfinal
        simp [IsFinal, next] at hfinal
    | cons d r =>
        have hd : d ≠ '/' := fun hd => hclose r rfl (by rw [hd])
        -- behind a star the reader stands elsewhere, but goes on as in the block
        have hadvance : (Braced.lexis true).advance (some (.star, opened)) d =
            (Braced.lexis true).advance (some (.block, opened)) d := by
          simp [advance, trackAt, next, hd]
        rw [read_cons, ← hadvance]
        exact h
  · have hadvance : (Braced.lexis true).advance (some (.block, opened)) c =
        some (.block, opened) := by
      simp [advance, trackAt, next, hstar]
    rwa [hadvance] at h

section Literal

variable {quote : Quote}

/-- A backslash takes the next character of a literal along. -/
theorem read_escape
    (h : (Braced.lexis true).read (some (.literal quote, opened)) ('\\' :: c :: t) = some q) :
    (Braced.lexis true).read (some (.literal quote, opened)) t = some q := by
  have hadvance : (Braced.lexis true).advance (some (.literal quote, opened)) '\\' =
      some (.escaped quote, opened) := by
    simp [advance, trackAt, next]
  rw [read_cons, hadvance] at h
  obtain ⟨⟨p, opened'⟩, hstep, hread⟩ := exists_advance h
  obtain ⟨rfl, htrack⟩ := advance_eq_some hstep
  simp only [trackAt] at htrack
  split at htrack
  · cases htrack
  · cases htrack
    exact hread

/-- Its quote closes a literal. -/
theorem read_mark
    (h : (Braced.lexis true).read (some (.literal quote, opened)) (quote.mark :: t) = some q) :
    (Braced.lexis true).read (some (.code, opened)) t = some q := by
  have hadvance : (Braced.lexis true).advance (some (.literal quote, opened)) quote.mark =
      some (.code, opened) := by
    cases quote <;> rfl
  rwa [read_cons, hadvance] at h

/-- A line feed is in a literal with backticks only. -/
theorem quote_eq_of_read_lineFeed
    (h : (Braced.lexis true).read (some (.literal quote, opened)) ('\n' :: t) = some q) :
    quote = .backtick := by
  by_contra hquote
  have hadvance : (Braced.lexis true).advance (some (.literal quote, opened)) '\n' = none := by
    simp [advance, trackAt, hquote]
  rw [read_cons, hadvance, read_none] at h
  cases h

/-- A literal goes on behind any other character, unless the text ends at a backslash. -/
theorem read_body
    (hescape : ∀ d r, c = '\\' → t = d :: r → False)
    (hmark : c ≠ quote.mark)
    (hfeed : c ≠ '\n')
    (hfinal : IsFinal q.1)
    (h : (Braced.lexis true).read (some (.literal quote, opened)) (c :: t) = some q) :
    (Braced.lexis true).read (some (.literal quote, opened)) t = some q := by
  by_cases hslash : c = '\\'
  · subst hslash
    cases t with
    | nil =>
        rw [← Option.some.inj h] at hfinal
        simp [IsFinal, next] at hfinal
    | cons d r => exact (hescape d r rfl rfl).elim
  · have hadvance : (Braced.lexis true).advance (some (.literal quote, opened)) c =
        some (.literal quote, opened) := by
      simp [advance, trackAt, next, hfeed, hslash, hmark]
    rwa [read_cons, hadvance] at h

end Literal

/--
Code goes on behind a character that is neither a quote nor the start of a remark. If the text ends
there with a slash, the reader stands elsewhere, but with the same brackets.
-/
theorem read_code
    (hquote : isQuote c = false)
    (hremark : ∀ r, c = '/' → t = '/' :: r → False)
    (hblock : ∀ r, c = '/' → t = '*' :: r → False)
    (hfinal : IsFinal q.1)
    (h : (Braced.lexis true).read (some (.code, opened)) (c :: t) = some q) :
    ∃ opened', (Braced.lexis true).track c opened = some opened' ∧
      ∃ p, (Braced.lexis true).read (some (.code, opened')) t = some (p, q.2) ∧ IsFinal p := by
  obtain ⟨⟨p, opened'⟩, hadvance, hread⟩ := exists_advance h
  obtain ⟨rfl, htrack⟩ := advance_eq_some hadvance
  refine ⟨opened', htrack, ?_⟩
  by_cases hslash : c = '/'
  · subst hslash
    cases t with
    | nil =>
        cases hread
        exact ⟨.code, rfl, .inl rfl⟩
    | cons d r =>
        have hd : d ≠ '/' := fun hd => hremark r rfl (by rw [hd])
        have hd' : d ≠ '*' := fun hd => hblock r rfl (by rw [hd])
        have hstep : (Braced.lexis true).advance (some (.slash, opened')) d =
            (Braced.lexis true).advance (some (.code, opened')) d := by
          simp [advance, trackAt, next, hd, hd']
        rw [read_cons, ← hstep]
        exact ⟨q.1, hread, hfinal⟩
  · have hnext : (Braced.lexis true).next .code c = .code := enter_of_not_isQuote hquote hslash
    rw [hnext] at hread
    exact ⟨q.1, hread, hfinal⟩

end Reading

/-! ## The check -/

/--
What the reader comes through, from a place to one where a text may end with no bracket open, is
fine with the check from the mode of that place.
-/
theorem scan_eq_nil
    {mode : Mode}
    {line : Nat}
    (stack : List Opened)
    {t : Text}
    {p p' : Spot}
    (hplace : Stands mode p)
    (hread : (Braced.lexis true).read (some (p, stack.map Prod.fst)) t = some (p', []))
    (hfinal : IsFinal p') :
    scan mode line stack t = [] := by
  fun_induction scan mode line stack t generalizing p p' with
  -- the text ends
  | case1 line stack =>
      have hstack : stack = [] := by simpa using (Prod.mk.inj (Option.some.inj hread)).2
      simp [hstack]
  | case2 line stack =>
      have hstack : stack = [] := by simpa using (Prod.mk.inj (Option.some.inj hread)).2
      simp [hstack]
  | case3 line stack opened =>
      cases hplace
      rw [← (Prod.mk.inj (Option.some.inj hread)).1] at hfinal
      simp [IsFinal] at hfinal
  | case4 line stack quote opened =>
      cases hplace
      rw [← (Prod.mk.inj (Option.some.inj hread)).1] at hfinal
      simp [IsFinal] at hfinal
  -- remarks
  | case5 line stack r ih =>
      cases hplace
      exact ih .code hread hfinal
  | case6 line stack c r hfeed ih =>
      cases hplace
      exact ih .remark (read_lineRemark hfeed hread) hfinal
  | case7 opened line stack r ih =>
      cases hplace
      exact ih .code hread hfinal
  | case8 opened line stack c r hclose ih =>
      cases hplace
      exact ih (.block opened) (read_block hclose hfinal hread) hfinal
  -- literals
  | case9 quote opened line stack c r ih =>
      cases hplace with
      | literal q => exact ih (.literal q opened) (read_escape hread) hfinal
  | case10 opened line stack c r hescape ih =>
      generalize hmark : c = quote at hplace
      cases hplace with
      | literal q =>
          rw [hmark] at hread
          exact ih .code (read_mark hread) hfinal
  | case11 opened line stack r hescape hquote ih =>
      generalize hmark : '\x60' = quote at hplace
      cases hplace with
      | literal q =>
          obtain rfl := quote_eq_of_read_lineFeed hread
          exact ih (.literal .backtick opened) hread hfinal
  | case12 quote opened line stack r hquote hescape hfeed =>
      cases hplace with
      | literal q =>
          obtain rfl := quote_eq_of_read_lineFeed hread
          exact absurd rfl hquote
  | case13 quote opened line stack c r hescape hmark hfeed ih =>
      cases hplace with
      | literal q =>
          exact ih (.literal q opened) (read_body hescape hmark hfeed hfinal hread) hfinal
  -- code in front of a remark, a line feed or a literal
  | case14 line stack r ih =>
      cases hplace
      exact ih .remark hread hfinal
  | case15 line stack r ih =>
      cases hplace
      exact ih (.block line) hread hfinal
  | case16 line stack r hremark hblock ih =>
      cases hplace
      exact ih .code hread hfinal
  | case17 line stack c r hremark hblock hfeed hquote ih =>
      cases hplace
      obtain ⟨q, rfl⟩ := exists_quote hquote
      refine ih (.literal q line) ?_ hfinal
      have hadvance : (Braced.lexis true).advance (some (.code, stack.map Prod.fst)) q.mark =
          some (.literal q, stack.map Prod.fst) := by
        cases q <;> rfl
      rwa [read_cons, hadvance] at hread
  -- brackets, and what is none
  | case18 line stack c r hremark hblock hfeed hquote hopening ih =>
      cases hplace
      obtain ⟨opened, htrack, p, hread, hp⟩ :=
        read_code (by simpa using hquote) hremark hblock hfinal hread
      simp only [track, Braced.lexis, hopening] at htrack
      cases htrack
      exact ih .code hread hp
  | case19 line stack c r hremark hblock hfeed hquote hopening hpartner ih =>
      cases hplace
      obtain ⟨opened, htrack, p, hread, hp⟩ :=
        read_code (by simpa using hquote) hremark hblock hfinal hread
      simp only [track, Braced.lexis, hopening, hpartner] at htrack
      cases htrack
      exact ih .code hread hp
  | case20 line c r hremark hblock hfeed hquote hopening top opened below hpartner ih =>
      cases hplace
      obtain ⟨opened', htrack, p, hread, hp⟩ :=
        read_code (by simpa using hquote) hremark hblock hfinal hread
      simp only [track, Braced.lexis, hopening, hpartner, List.map_cons] at htrack
      cases htrack
      exact ih .code hread hp
  | case21 line c r hremark hblock hfeed hquote hopening opening hpartner top opened below htop =>
      cases hplace
      obtain ⟨opened', htrack, -⟩ := read_code (by simpa using hquote) hremark hblock hfinal hread
      simp [track, Braced.lexis, hopening, hpartner, htop] at htrack
  | case22 line c r hremark hblock hfeed hquote hopening opening hpartner =>
      cases hplace
      obtain ⟨opened', htrack, -⟩ := read_code (by simpa using hquote) hremark hblock hfinal hread
      simp [track, Braced.lexis, hopening, hpartner] at htrack

/-- The check finds nothing in a program that the reader comes through. -/
theorem check_eq_nil
    {t : Text}
    (h : (Braced.lexis true).read (some (.code, [])) t = some (.code, [])) :
    check t = [] :=
  scan_eq_nil [] .code h (.inl rfl)

end BotCanvas.Brackets
