import BotCanvas.Proofs.Program.Names
import BotCanvas.Proofs.Text.Ends

/-!
# Names in small letters

The spelling with low lines moves, adds and drops nothing but low lines: the ASCII letters and
digits of a text all stay, in their order and as small letters (`filter_snake`). So a name begins
with the first letter or digit of its text (`head?_snake`), whatever stands in front of that.

**Runs.** Every other character is collapsed into a mark and the marks at the ends are dropped, so
what is left are runs of letters and digits with single low lines between them (`isSnake_snake`). Such
a text has nothing to trim, to split, to collapse or to make small, and stays as it is
(`snake_of_isSnake`).
-/

namespace BotCanvas

namespace Text

variable {p q : Char → Bool}

/-- Trimming keeps the characters of a class that is not trimmed. -/
theorem filter_dropWhile
    (h : ∀ c, p c = true → q c = false)
    (s : Text) :
    (s.dropWhile p).filter q = s.filter q := by
  induction s with
  | nil => rfl
  | cons c r ih =>
      cases hc : p c with
      | true => rw [List.dropWhile_cons_of_pos hc, List.filter_cons_of_neg (by simp [h c hc]), ih]
      | false => rw [List.dropWhile_cons_of_neg (by simp [hc])]

theorem filter_stripBy
    (h : ∀ c, p c = true → q c = false)
    (s : Text) :
    (stripBy p s).filter q = s.filter q := by
  rw [stripBy, List.filter_reverse, filter_dropWhile h, List.filter_reverse, List.reverse_reverse,
    filter_dropWhile h]

/-- So does collapsing, if the mark is not of the class. -/
theorem filter_collapse
    (h : ∀ c, p c = true → q c = false)
    {mark : Char}
    (hmark : q mark = false)
    (s : Text) :
    (collapse p mark s).filter q = s.filter q := by
  have hdrop : ∀ (c : Char) (r : Text), q c = false → (c :: r).filter q = r.filter q :=
    fun c r hc => List.filter_cons_of_neg (by simp [hc])
  fun_induction collapse p mark s with
  | case1 => rfl
  | case2 c hc => rw [hdrop mark _ hmark, hdrop c _ (h c hc)]
  | case3 c hc d r hd ih => rw [ih, hdrop c _ (h c hc)]
  | case4 c hc d r hd ih => rw [hdrop mark _ hmark, ih, hdrop c _ (h c hc)]
  | case5 c r hc ih => rw [List.filter_cons, List.filter_cons, ih]

/-! ## Collapsed texts -/

section Collapse

variable {mark : Char}

/-- In a collapsed text no two characters of the class stand side by side. -/
theorem isChain_collapse
    (s : Text) :
    (collapse p mark s).IsChain fun a b => ¬(p a = true ∧ p b = true) := by
  fun_induction collapse p mark s with
  | case1 => exact .nil
  | case2 c hc => exact .singleton mark
  | case3 c hc d r hd ih => exact ih
  | case4 c hc d r hd ih =>
      have hhead : (collapse p mark (d :: r)).head? = some d := by
        rw [collapse.eq_def]
        simp [hd]
      refine List.isChain_cons.2 ⟨?_, ih⟩
      rintro e he ⟨-, hp⟩
      obtain rfl := Option.some.inj (hhead.symm.trans he)
      exact hd hp
  | case5 c r hc ih => exact List.isChain_cons.2 ⟨fun e _ h => hc h.1, ih⟩

/-- A collapsed text without the marks at its ends is separated. -/
theorem isSeparated_stripBy_collapse
    (s : Text) :
    IsSeparated p mark (stripBy (· == mark) (collapse p mark s)) := by
  have hmarks : ∀ c ∈ stripBy (· == mark) (collapse p mark s), p c = true → c = mark :=
    fun c hc hp => (mem_collapse (mem_of_mem_stripBy hc)).resolve_right (by simp [hp])
  have hend : ∀ c ∈ stripBy (· == mark) (collapse p mark s), (c == mark) = false →
      p c = false := by
    intro c hc hne
    rw [← Bool.not_eq_true]
    exact fun hp => by simp [hmarks c hc hp] at hne
  have hinfix : stripBy (· == mark) (collapse p mark s) <:+: collapse p mark s :=
    (List.rdropWhile_prefix _ _).isInfix.trans (List.dropWhile_suffix _).isInfix
  obtain ⟨hhead, hlast⟩ := ends_stripBy (· == mark) (collapse p mark s)
  exact ⟨hmarks, List.IsChain.infix (isChain_collapse s) hinfix,
    fun c hc => hend c (List.mem_of_head? hc) (hhead c hc),
    fun c hc => hend c (List.mem_of_getLast? hc) (hlast c hc)⟩

/-- A text with only marks from the class, no two of them side by side, is not collapsed. -/
theorem collapse_eq_self
    {s : Text}
    (hmarks : ∀ c ∈ s, p c = true → c = mark)
    (hsingle : s.IsChain fun a b => ¬(p a = true ∧ p b = true)) :
    collapse p mark s = s := by
  fun_induction collapse p mark s with
  | case1 => rfl
  | case2 c hc => rw [hmarks c (by simp) hc]
  | case3 c hc d r hd ih => exact absurd ⟨hc, hd⟩ ((List.isChain_cons.1 hsingle).1 d rfl)
  | case4 c hc d r hd ih =>
      rw [ih (fun e he => hmarks e (List.mem_cons_of_mem c he)) (List.isChain_cons.1 hsingle).2,
        hmarks c (by simp) hc]
  | case5 c r hc ih =>
      rw [ih (fun e he => hmarks e (List.mem_cons_of_mem c he)) (List.isChain_cons.1 hsingle).2]

/-- So a separated text stays as it is. -/
theorem IsSeparated.stripBy_collapse
    {s : Text}
    (h : IsSeparated p mark s)
    (hmark : p mark = true) :
    stripBy (· == mark) (collapse p mark s) = s := by
  have hne : ∀ c, p c = false → (c == mark) = false := by
    intro c hc
    rw [beq_eq_false_iff_ne]
    rintro rfl
    simp [hmark] at hc
  rw [collapse_eq_self h.marks h.single]
  exact stripBy_of_ends (fun c hc => hne c (h.head c hc)) fun c hc => hne c (h.last c hc)

end Collapse

/-! ## Small letters -/

/-- Small letters of letters, digits and low lines are found one by one. -/
theorem lower_of_isPlain
    {s : Text}
    (h : ∀ c ∈ s, isPlain c = true) :
    lower s = s.map lowerChar := by
  unfold lower
  generalize ([] : Text) = before
  induction s generalizing before with
  | nil => rfl
  | cons c r ih =>
      rw [List.forall_mem_cons] at h
      have hc := lt_of_isPlain h.1
      rw [lowerAfter, if_neg (by omega), if_neg (by omega), ih h.2, List.map_cons]

/-- Small letters and digits, in ASCII only. -/
def isSmallAlnum (c : Char) : Bool :=
  ('a' ≤ c && c ≤ 'z') || isAsciiDigit c

theorem isAsciiAlnum_of_isSmallAlnum
    {c : Char}
    (h : isSmallAlnum c = true) :
    isAsciiAlnum c = true := by
  simp only [isSmallAlnum, isAsciiAlnum, isAsciiLetter, Bool.or_eq_true] at h ⊢
  exact h.imp_left .inl

/-- The small letter of an ASCII letter, or a digit, is one of them. -/
theorem isSmallAlnum_lowerChar
    {c : Char}
    (h : isAsciiAlnum c = true) :
    isSmallAlnum (lowerChar c) = true := by
  have hclass := of_ascii (p := fun c => !isAsciiAlnum c || isSmallAlnum (lowerChar c)) (by decide)
    (lt_of_isPlain (c := c) (by simp [isPlain, h]))
  simpa [h] using hclass

/-- Small letters, digits and low lines are no capitals. -/
theorem not_capital
    {c : Char}
    (h : isSmallAlnum c = true ∨ c = '_') :
    lowerChar c = c ∧ ('A' ≤ c && c ≤ 'Z') = false := by
  have hplain : isPlain c = true := by
    rcases h with h | rfl
    · simp [isPlain, isAsciiAlnum_of_isSmallAlnum h]
    · decide
  have hclass := of_ascii (p := fun c => !(isSmallAlnum c || c == '_') ||
    (lowerChar c == c && !('A' ≤ c && c ≤ 'Z'))) (by decide) (lt_of_isPlain hplain)
  have hsmall : (isSmallAlnum c || c == '_') = true := by simpa using h
  rw [hsmall, Bool.not_true, Bool.false_or, Bool.and_eq_true, Bool.not_eq_true'] at hclass
  exact ⟨beq_iff_eq.1 hclass.1, hclass.2⟩

/-- A small letter is a letter just if it is one of a letter. -/
theorem isAsciiAlnum_lowerChar
    {c : Char}
    (h : isPlain c = true) :
    isAsciiAlnum (lowerChar c) = isAsciiAlnum c := by
  have hclass := of_ascii (p := fun c => isAsciiAlnum (lowerChar c) == isAsciiAlnum c) (by decide)
    (lt_of_isPlain h)
  exact beq_iff_eq.1 hclass

end Text

namespace Name

open Text

/-- Blanks and low lines are neither letters nor digits. -/
theorem isAsciiAlnum_eq_false
    {c : Char}
    (h : isBlank c = true ∨ (c == '_') = true) :
    isAsciiAlnum c = false := by
  rcases h with h | h
  · cases halnum : isAsciiAlnum c with
    | false => rfl
    | true =>
        have hplain : isPlain c = true := by simp [isPlain, halnum]
        have hblank := not_isBlank_of_class (.inl (isWord_of_isPlain hplain))
        exact absurd h (by simp [hblank])
  · rw [beq_iff_eq.1 h]
    decide

/-- Splitting adds low lines only. -/
theorem filter_splitHumps
    (previous : Option Char)
    (s : Text) :
    (splitHumps previous s).filter isAsciiAlnum = s.filter isAsciiAlnum := by
  induction s generalizing previous with
  | nil => rfl
  | cons c r ih =>
      rw [splitHumps]
      split
      · rw [List.filter_cons_of_neg (by decide), List.filter_cons, List.filter_cons, ih]
      · rw [List.filter_cons, List.filter_cons, ih]

/-- What a name is before its letters become small. -/
def spelled (s : Text) : Text :=
  stripBy (· == '_') (collapse (fun c => !isAsciiAlnum c) '_' (splitHumps none (strip s)))

/-- Only letters, digits and low lines are spelled. -/
theorem isPlain_of_mem_spelled
    {s : Text}
    {c : Char}
    (h : c ∈ spelled s) :
    isPlain c = true := by
  rcases mem_collapse (mem_of_mem_stripBy h) with rfl | hc
  · decide
  · have halnum : isAsciiAlnum c = true := by simpa using hc
    simp [isPlain, halnum]

theorem snake_eq
    (s : Text) :
    snake s = (spelled s).map lowerChar :=
  lower_of_isPlain fun _ => isPlain_of_mem_spelled

/-- The letters and digits of a text are all spelled, in their order. -/
theorem filter_spelled
    (s : Text) :
    (spelled s).filter isAsciiAlnum = s.filter isAsciiAlnum := by
  rw [spelled, filter_stripBy fun c hc => isAsciiAlnum_eq_false (.inr hc),
    filter_collapse (fun c hc => by simpa using hc) (by decide), filter_splitHumps,
    strip, filter_stripBy fun c hc => isAsciiAlnum_eq_false (.inl hc)]

/-- A name holds the letters and digits of its text, in their order and as small letters. -/
theorem filter_snake
    (s : Text) :
    (snake s).filter isAsciiAlnum = (s.filter isAsciiAlnum).map lowerChar := by
  have hsmall : ∀ c ∈ spelled s, isAsciiAlnum (lowerChar c) = isAsciiAlnum c :=
    fun c hc => isAsciiAlnum_lowerChar (isPlain_of_mem_spelled hc)
  rw [snake_eq, List.filter_map, ← filter_spelled]
  exact congrArg _ (List.filter_congr hsmall)

/-- A name begins with the first letter or digit of its text. -/
theorem head?_snake
    (s : Text) :
    (snake s).head? = (s.find? isAsciiAlnum).map lowerChar := by
  have hfirst : (snake s).head? = ((snake s).filter isAsciiAlnum).head? := by
    rw [snake_eq]
    cases hspelled : spelled s with
    | nil => rfl
    | cons c r =>
        have hplain : isPlain c = true := isPlain_of_mem_spelled (s := s) (by simp [hspelled])
        have hlow : (c == '_') = false := (ends_stripBy (· == '_') _).1 c
          (show c ∈ (spelled s).head? by rw [hspelled]; rfl)
        have halnum : isAsciiAlnum (lowerChar c) = true := by
          rw [isAsciiAlnum_lowerChar hplain]
          simpa [isPlain, hlow] using hplain
        rw [List.map_cons, List.filter_cons_of_pos halnum]
        rfl
  rw [hfirst, filter_snake, List.head?_map, List.head?_filter]

/-! ## Runs of a name -/

/-- Runs of small letters and digits with single low lines between them; there may be no run. -/
def IsSnake (s : Text) : Prop :=
  ∃ runs : List Text, (∀ run ∈ runs, run ≠ [] ∧ ∀ c ∈ run, isSmallAlnum c = true) ∧
    join ['_'] runs = s

/-- The letters and digits of a name stand in runs before they become small. -/
theorem isSeparated_spelled
    (s : Text) :
    IsSeparated (fun c => !isAsciiAlnum c) '_' (spelled s) :=
  isSeparated_stripBy_collapse _

/-- The names are made of runs of small letters and digits. -/
theorem isSnake_snake
    (s : Text) :
    IsSnake (snake s) := by
  obtain ⟨runs, hruns, hjoin⟩ := (isSeparated_spelled s).exists_join
  refine ⟨runs.map (List.map lowerChar), ?_, ?_⟩
  · rw [List.forall_mem_map]
    intro run hrun
    obtain ⟨hne, halnum⟩ := hruns run hrun
    refine ⟨by simpa using hne, ?_⟩
    rw [List.forall_mem_map]
    exact fun c hc => isSmallAlnum_lowerChar (by simpa using halnum c hc)
  · rw [snake_eq, ← hjoin, map_join]
    rfl

/-- No low line comes in where there is no capital. -/
theorem splitHumps_eq_self
    {s : Text}
    (h : ∀ c ∈ s, ('A' ≤ c && c ≤ 'Z') = false)
    (previous : Option Char) :
    splitHumps previous s = s := by
  induction s generalizing previous with
  | nil => rfl
  | cons c r ih =>
      rw [List.forall_mem_cons] at h
      rw [splitHumps, h.1, Bool.false_and, if_neg Bool.false_ne_true, ih h.2]

/-- What is spelled as a name is its own name. -/
theorem snake_of_isSnake
    {s : Text}
    (h : IsSnake s) :
    snake s = s := by
  obtain ⟨runs, hruns, rfl⟩ := h
  have hseparated : IsSeparated (fun c => !isAsciiAlnum c) '_' (join ['_'] runs) :=
    isSeparated_join fun run hrun => ⟨(hruns run hrun).1, fun c hc => by
      simpa using isAsciiAlnum_of_isSmallAlnum ((hruns run hrun).2 c hc)⟩
  have hsmall : ∀ c ∈ join ['_'] runs, isSmallAlnum c = true ∨ c = '_' := by
    intro c hc
    rcases mem_join hc with hc | ⟨run, hrun, hc⟩
    · exact .inr (List.mem_singleton.1 hc)
    · exact .inl ((hruns run hrun).2 c hc)
  generalize join ['_'] runs = s at hseparated hsmall
  have hblank : ∀ c, (!isAsciiAlnum c) = false → isBlank c = false := by
    intro c hc
    rw [← Bool.not_eq_true]
    exact fun hb => by simp [isAsciiAlnum_eq_false (.inl hb)] at hc
  have hstrip : strip s = s :=
    strip_of_ends (fun c hc => hblank c (hseparated.head c hc))
      fun c hc => hblank c (hseparated.last c hc)
  have hsplit : splitHumps none s = s :=
    splitHumps_eq_self (fun c hc => (not_capital (hsmall c hc)).2) none
  have hspelled : spelled s = s := by
    rw [spelled, hstrip, hsplit]
    exact hseparated.stripBy_collapse (by decide)
  rw [snake_eq, hspelled]
  calc
    s.map lowerChar = s.map id := List.map_congr_left fun c hc => (not_capital (hsmall c hc)).1
    _ = s := List.map_id s

/-- A name in small letters is empty or made of runs of small letters and digits with single low lines
between them, and a second spelling changes nothing. The texts that are spelled so are just those
that stay as they are. -/
theorem snake_idempotent
    (s : Text) :
    IsSnake (snake s) ∧ snake (snake s) = snake s ∧ (snake s = s ↔ IsSnake s) :=
  ⟨isSnake_snake s, snake_of_isSnake (isSnake_snake s),
    fun h => h ▸ isSnake_snake s, snake_of_isSnake⟩

/-- A capital behind another capital begins no run, and a digit ends one. -/
example : snake "__HTTPServer2Go \u00e9!" = "httpserver2_go".toList := by
  decide +kernel

end Name

end BotCanvas
