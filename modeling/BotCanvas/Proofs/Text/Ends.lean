import BotCanvas.Proofs.Text.Words
import Mathlib.Data.List.Chain
import Mathlib.Data.List.DropRight

/-!
# Ends of trimmed texts

A trimmed text has nothing left to trim, and of a blank text nothing is left.

**Runs.** Runs of characters with single marks between them make a text that has marks from the class
of the mark only, none of them at an end and no two side by side. The converse holds as well
(`isSeparated_iff`).

**Cuts.** A squeezed text that is cut off is still squeezed, but for a space that the cut may leave
at its end: squeezing it once more drops that space and nothing else (`squeeze_take_squeeze`).
-/

namespace BotCanvas.Text

/-- A text without any character that passes a test has none that passes it. -/
theorem forall_eq_false_of_any
    {p : Char → Bool}
    {s : Text}
    (h : s.any p = false) :
    ∀ c ∈ s, p c = false := by
  simpa using h

/-- A text that neither begins nor ends with a character of the class is not trimmed. -/
theorem stripBy_of_ends
    {p : Char → Bool}
    {s : Text}
    (hhead : ∀ c ∈ s.head?, p c = false)
    (hlast : ∀ c ∈ s.getLast?, p c = false) :
    stripBy p s = s := by
  have hfront : s.dropWhile p = s := by
    cases s with
    | nil => rfl
    | cons c r => rw [List.dropWhile_cons_of_neg (by simp [hhead c rfl])]
  have hback : s.rdropWhile p = s := by
    rw [List.rdropWhile_eq_self_iff]
    exact fun hne => by simpa using hlast _ (List.getLast_mem_getLast? hne)
  calc
    stripBy p s = (s.dropWhile p).rdropWhile p := rfl
    _ = s := by rw [hfront, hback]

/-- Of a trimmed text neither end is in the class. -/
theorem ends_stripBy
    (p : Char → Bool)
    (s : Text) :
    (∀ c ∈ (stripBy p s).head?, p c = false) ∧ ∀ c ∈ (stripBy p s).getLast?, p c = false := by
  have hstrip : stripBy p s = (s.dropWhile p).rdropWhile p := rfl
  constructor
  · intro c hc
    obtain ⟨t, ht⟩ := List.rdropWhile_prefix p (s.dropWhile p)
    obtain ⟨r, hr⟩ := List.head?_eq_some_iff.1 hc
    have hhead : (s.dropWhile p).head? = some c := by
      rw [← ht, ← hstrip, hr]
      rfl
    simpa [hhead] using List.head?_dropWhile_not p s
  · intro c hc
    obtain ⟨hne, rfl⟩ := List.mem_getLast?_eq_getLast hc
    exact eq_false_of_ne_true (List.rdropWhile_last_not p (s.dropWhile p) hne)

/-- A text that was trimmed at both ends stays as it is. -/
theorem stripBy_stripBy
    (p : Char → Bool)
    (s : Text) :
    stripBy p (stripBy p s) = stripBy p s :=
  stripBy_of_ends (ends_stripBy p s).1 (ends_stripBy p s).2

/-- A text that neither begins nor ends with a blank is not trimmed. -/
theorem strip_of_ends
    {s : Text}
    (hhead : ∀ c ∈ s.head?, isBlank c = false)
    (hlast : ∀ c ∈ s.getLast?, isBlank c = false) :
    strip s = s :=
  stripBy_of_ends hhead hlast

/-- Of a blank text nothing is left. -/
theorem strip_of_all
    {s : Text}
    (h : s.all isBlank = true) :
    strip s = [] := by
  rw [strip, stripBy, List.dropWhile_eq_nil_iff.2 (List.all_eq_true.1 h)]
  rfl

/-! ## Blanks at the end -/

/-- A text is trimmed up to what is left of its last part. -/
theorem stripEnd_append
    (s : Text)
    {t : Text}
    (ht : stripEnd t ≠ []) :
    stripEnd (s ++ t) = s ++ stripEnd t := by
  have hleft : (t.reverse.dropWhile isBlank).isEmpty = false := by
    simpa [stripEnd] using ht
  rw [stripEnd, List.reverse_append, List.dropWhile_append, hleft]
  simp [stripEnd]

/-- Blanks behind a text are dropped with the blanks at its end. -/
theorem stripEnd_append_of_all
    (s : Text)
    {t : Text}
    (ht : ∀ c ∈ t, isBlank c = true) :
    stripEnd (s ++ t) = stripEnd s := by
  have hnone : t.reverse.dropWhile isBlank = [] := by
    simpa [List.dropWhile_eq_nil_iff] using ht
  rw [stripEnd, List.reverse_append, List.dropWhile_append, hnone]
  rfl

/-- Nothing is dropped just if the last character is not blank. -/
theorem stripEnd_eq_self_iff
    {s : Text} :
    stripEnd s = s ↔ ∀ c ∈ s.getLast?, isBlank c = false := by
  have hstrip : stripEnd s = s.rdropWhile isBlank := rfl
  rw [hstrip, List.rdropWhile_eq_self_iff]
  constructor
  · intro h c hc
    obtain ⟨hne, rfl⟩ := List.mem_getLast?_eq_getLast hc
    simpa using h hne
  · intro h hne
    simpa using h _ (List.getLast_mem_getLast? hne)

/-- Trimming the end never makes a text longer. -/
theorem length_stripEnd_le
    (s : Text) :
    (stripEnd s).length ≤ s.length :=
  (List.rdropWhile_prefix isBlank s).length_le

/-! ## Runs with marks between them -/

section Runs

variable {p : Char → Bool}
variable {mark : Char}

/-- A run of characters outside a class. -/
def IsRun (p : Char → Bool) (w : Text) : Prop :=
  w ≠ [] ∧ ∀ c ∈ w, p c = false

/-- A text that has only marks from a class, each between two other characters. -/
structure IsSeparated (p : Char → Bool) (mark : Char) (s : Text) : Prop where
  marks : ∀ c ∈ s, p c = true → c = mark
  single : s.IsChain fun a b => ¬(p a = true ∧ p b = true)
  head : ∀ c ∈ s.head?, p c = false
  last : ∀ c ∈ s.getLast?, p c = false

/-- The first of several parts is followed by a mark. -/
theorem join_cons_cons
    (w v : Text)
    (vs : List Text) :
    join [mark] (w :: v :: vs) = w ++ mark :: join [mark] (v :: vs) := by
  simp [join, List.intercalate_cons_cons]

/-- Runs and marks are written over one by one. -/
theorem map_join
    (f : Char → Char)
    (ws : List Text) :
    (join [mark] ws).map f = join [f mark] (ws.map (List.map f)) := by
  induction ws with
  | nil => rfl
  | cons w rest ih =>
      cases rest with
      | nil => simp [join]
      | cons v vs =>
          rw [join_cons_cons, List.map_append, List.map_cons, ih]
          rw [List.map_cons, List.map_cons, List.map_cons, join_cons_cons]

/-- A run is separated. -/
theorem IsRun.isSeparated
    {w : Text}
    (hw : IsRun p w) :
    IsSeparated p mark w where
  marks := fun c hc hp => absurd hp (by simp [hw.2 c hc])
  single := by
    rw [List.isChain_iff_getElem]
    rintro i hi ⟨hp, -⟩
    simp [hw.2 _ (List.getElem_mem _)] at hp
  head := fun c hc => hw.2 c (List.mem_of_head? hc)
  last := fun c hc => hw.2 c (List.mem_of_getLast? hc)

/-- A run and a mark may stand before a separated text that is not empty. -/
theorem IsSeparated.append
    {w s : Text}
    (hw : IsRun p w)
    (hne : s ≠ [])
    (hs : IsSeparated p mark s) :
    IsSeparated p mark (w ++ mark :: s) := by
  have hrun : IsSeparated p mark w := hw.isSeparated
  constructor
  case marks =>
    rw [List.forall_mem_append, List.forall_mem_cons]
    exact ⟨hrun.marks, fun _ => rfl, hs.marks⟩
  case single =>
    refine List.isChain_append.2 ⟨hrun.single, List.isChain_cons.2 ⟨?_, hs.single⟩, ?_⟩
    · rintro c hc ⟨-, hp⟩
      simp [hs.head c hc] at hp
    · rintro c hc - - ⟨hp, -⟩
      simp [hrun.last c hc] at hp
  case head =>
    rw [List.head?_append_of_ne_nil _ hw.1]
    exact hrun.head
  case last =>
    rw [List.getLast?_append_of_ne_nil _ (by simp), List.getLast?_cons]
    cases hlast : s.getLast? with
    | none => exact absurd (List.getLast?_eq_none_iff.1 hlast) hne
    | some d => simpa [hlast] using hs.last

/-- Runs with marks between them are separated. -/
theorem isSeparated_join
    {ws : List Text}
    (hws : ∀ w ∈ ws, IsRun p w) :
    IsSeparated p mark (join [mark] ws) := by
  induction ws with
  | nil => exact ⟨by simp [join], by simp [join], by simp [join], by simp [join]⟩
  | cons w rest ih =>
      rw [List.forall_mem_cons] at hws
      obtain ⟨hw, hrest⟩ := hws
      cases rest with
      | nil =>
          rw [join, List.intercalate_singleton]
          exact hw.isSeparated
      | cons v vs =>
          have hnext : join [mark] (v :: vs) ≠ [] := by
            have hne : v ≠ [] := (hrest v (by simp)).1
            cases vs <;> simp [join, hne, List.intercalate_cons_cons]
          rw [join_cons_cons]
          exact (ih hrest).append hw hnext

/-- A separated text is made of runs with marks between them. -/
theorem IsSeparated.exists_join
    {s : Text}
    (h : IsSeparated p mark s) :
    ∃ ws, (∀ w ∈ ws, IsRun p w) ∧ join [mark] ws = s := by
  match s, h with
  | [], _ => exact ⟨[], by simp, rfl⟩
  | [c], h => exact ⟨[[c]], by simpa [IsRun] using h.head c rfl, by simp [join]⟩
  | [c, d], h =>
      have hc : p c = false := h.head c rfl
      have hd : p d = false := h.last d rfl
      exact ⟨[[c, d]], by simp [IsRun, hc, hd], by simp [join]⟩
  | c :: d :: e :: r, h =>
      have hc : p c = false := h.head c rfl
      have hrest := (List.isChain_cons.1 h.single).2
      cases hd : p d with
      | false =>
          -- the character belongs to the first run of what follows
          obtain ⟨ws, hws, hjoin⟩ := IsSeparated.exists_join (s := d :: e :: r)
            ⟨fun x hx => h.marks x (List.mem_cons_of_mem c hx), hrest, by simpa using hd,
              fun x hx => h.last x (by simpa using hx)⟩
          cases ws with
          | nil => cases hjoin
          | cons w ws =>
              rw [List.forall_mem_cons] at hws
              refine ⟨(c :: w) :: ws, List.forall_mem_cons.2 ⟨⟨by simp, ?_⟩, hws.2⟩, ?_⟩
              · exact List.forall_mem_cons.2 ⟨hc, hws.1.2⟩
              · rw [← hjoin]
                cases ws <;> simp [join, List.intercalate_cons_cons]
      | true =>
          -- the character is a run, and a mark stands behind it
          have hmark : d = mark := h.marks d (by simp) hd
          have hnext := List.isChain_cons.1 hrest
          obtain ⟨ws, hws, hjoin⟩ := IsSeparated.exists_join (s := e :: r)
            ⟨fun x hx => h.marks x (by simp [List.mem_cons.1 hx]), hnext.2,
              fun x hx => by simpa [hd] using hnext.1 x hx, fun x hx => h.last x (by simpa using hx)⟩
          refine ⟨[c] :: ws, List.forall_mem_cons.2 ⟨by simpa [IsRun] using hc, hws⟩, ?_⟩
          cases ws with
          | nil => cases hjoin
          | cons w ws =>
              rw [join_cons_cons, hjoin, hmark]
              rfl
termination_by s.length

/-- A text is separated just if it is made of runs with marks between them. -/
theorem isSeparated_iff
    {s : Text} :
    IsSeparated p mark s ↔ ∃ ws, (∀ w ∈ ws, IsRun p w) ∧ join [mark] ws = s := by
  constructor
  · exact IsSeparated.exists_join
  · rintro ⟨ws, hws, rfl⟩
    exact isSeparated_join hws

end Runs

/-! ## Squeezing what was cut off -/

/-- A text that is one word. -/
def Solid (w : Text) : Prop :=
  w ≠ [] ∧ ∀ c ∈ w, isBlank c = false

/-- A word is its only word. -/
theorem Solid.words
    {w : Text}
    (hw : w.Solid) :
    w.words = [w] := by
  obtain ⟨hne, hw⟩ := hw
  induction w with
  | nil => exact absurd rfl hne
  | cons c r ih =>
      rw [List.forall_mem_cons] at hw
      cases r with
      | nil => simp [Text.words, hw.1]
      | cons d r =>
          have hd : isBlank d = false := hw.2 d (by simp)
          obtain ⟨v, vs, hv, hwords⟩ := words_cons_cons hw.1 hd r
          rw [ih (by simp) hw.2] at hv
          obtain ⟨rfl, rfl⟩ := List.cons.inj hv
          exact hwords

/-- Every word is one. -/
theorem solid_of_mem_words
    {s w : Text}
    (hw : w ∈ words s) :
    w.Solid := by
  refine ⟨?_, fun c hc => not_isBlank_of_mem_words hw hc⟩
  induction s generalizing w with
  | nil => simp [words] at hw
  | cons c r ih =>
      cases hc : isBlank c with
      | true => exact ih (by rwa [words_cons_of_blank hc] at hw)
      | false =>
          cases r with
          | nil =>
              simp only [words, hc, Bool.false_eq_true, if_false, List.mem_singleton] at hw
              simp [hw]
          | cons d r =>
              cases hd : isBlank d with
              | true =>
                  rw [words_cons_blank hc hd] at hw
                  rcases List.mem_cons.1 hw with rfl | hw
                  · simp
                  · exact ih (by rwa [words_cons_of_blank hd])
              | false =>
                  obtain ⟨v, vs, hv, hwords⟩ := words_cons_cons hc hd r
                  rw [hwords] at hw
                  rcases List.mem_cons.1 hw with rfl | hw
                  · simp
                  · exact ih (by rw [hv]; exact List.mem_cons_of_mem _ hw)

/-- A text without blanks is not changed by trimming. -/
theorem stripEnd_of_forall
    {w : Text}
    (hw : ∀ c ∈ w, isBlank c = false) :
    stripEnd w = w :=
  stripEnd_eq_self_iff.2 fun c hc => hw c (List.mem_of_getLast? hc)

/-- Nor by squeezing. -/
theorem squeeze_of_forall
    {w : Text}
    (hw : ∀ c ∈ w, isBlank c = false) :
    squeeze w = w := by
  cases w with
  | nil => rfl
  | cons c r => rw [squeeze, Solid.words ⟨by simp, hw⟩, join, List.intercalate_singleton]

/-- A blank text has no words. -/
theorem words_of_all
    {s : Text}
    (h : ∀ c ∈ s, isBlank c = true) :
    words s = [] := by
  induction s with
  | nil => rfl
  | cons c r ih =>
      rw [List.forall_mem_cons] at h
      rw [words_cons_of_blank h.1, ih h.2]

/-- Behind a word and a space a text is squeezed on its own, if there is a word in it. -/
theorem squeeze_append_space
    {w : Text}
    (hw : w.Solid)
    (t : Text) :
    squeeze (w ++ ' ' :: t) = if words t = [] then w else w ++ ' ' :: squeeze t := by
  have hwords : words (w ++ ' ' :: t) = w :: words t := by
    rw [words_append_blank w (by decide), hw.words]
    rfl
  rw [squeeze, squeeze, hwords]
  cases words t with
  | nil => simp [join]
  | cons v vs => simp [join, List.intercalate_cons_cons]

/-- Words with single spaces between them that are cut off somewhere are squeezed by trimming. -/
theorem squeeze_take_join
    {ws : List Text}
    (hws : ∀ w ∈ ws, w.Solid)
    (n : Nat) :
    squeeze ((join [' '] ws).take n) = stripEnd ((join [' '] ws).take n) := by
  -- a piece of one word is changed by neither
  have hpiece : ∀ (w : Text) (n : Nat), w.Solid → squeeze (w.take n) = stripEnd (w.take n) := by
    intro w n hw
    have hplain : ∀ c ∈ w.take n, isBlank c = false := fun c hc =>
      hw.2 c (List.mem_of_mem_take hc)
    rw [squeeze_of_forall hplain, stripEnd_of_forall hplain]
  induction ws generalizing n with
  | nil => simp [join, squeeze, words, stripEnd]
  | cons w rest ih =>
      rw [List.forall_mem_cons] at hws
      obtain ⟨hw, hrest⟩ := hws
      cases rest with
      | nil =>
          rw [join, List.intercalate_singleton]
          exact hpiece w n hw
      | cons v vs =>
          rw [join_cons_cons]
          by_cases hn : n ≤ w.length
          · rw [List.take_append_of_le_length hn]
            exact hpiece w n hw
          · obtain ⟨k, rfl⟩ : ∃ k, n = w.length + (k + 1) := ⟨n - w.length - 1, by omega⟩
            rw [List.take_length_add_append, List.take_succ_cons, squeeze_append_space hw]
            have hcut := ih hrest k
            generalize (join [' '] (v :: vs)).take k = t at hcut
            by_cases ht : ∀ c ∈ t, isBlank c = true
            · have hspace : ∀ c ∈ ' ' :: t, isBlank c = true :=
                List.forall_mem_cons.2 ⟨by decide, ht⟩
              rw [if_pos (words_of_all ht), stripEnd_append_of_all w hspace,
                stripEnd_of_forall hw.2]
            · have hleft : stripEnd t ≠ [] := by
                intro hnil
                exact ht (by simpa [stripEnd, List.dropWhile_eq_nil_iff] using hnil)
              have hwords : words t ≠ [] := by
                intro hnil
                exact hleft (by rw [← hcut, squeeze, hnil]; rfl)
              have hspace : stripEnd (' ' :: t) = ' ' :: stripEnd t := stripEnd_append [' '] hleft
              rw [if_neg hwords, hcut, stripEnd_append w (by rw [hspace]; simp), hspace]

/-- Words with single spaces between them do not end in a blank. -/
theorem stripEnd_join
    {ws : List Text}
    (hws : ∀ w ∈ ws, w.Solid) :
    stripEnd (join [' '] ws) = join [' '] ws :=
  stripEnd_eq_self_iff.2 (isSeparated_join hws).last

/-- Squeezing what was cut off a squeezed text drops a space at its end. -/
theorem squeeze_take_squeeze
    (s : Text)
    (n : Nat) :
    squeeze ((squeeze s).take n) = stripEnd ((squeeze s).take n) :=
  squeeze_take_join (fun _ => solid_of_mem_words) n

/-- What was cut off a squeezed text ends in a blank only if it has the length of the cut. -/
theorem stripEnd_take_squeeze
    {s : Text}
    {n : Nat}
    (h : ((squeeze s).take n).length ≠ n) :
    stripEnd ((squeeze s).take n) = (squeeze s).take n := by
  have hlength : (squeeze s).length ≤ n := by
    rw [List.length_take] at h
    omega
  rw [List.take_of_length_le hlength, squeeze, stripEnd_join fun _ => solid_of_mem_words]

end BotCanvas.Text
