import BotCanvas.Program.Names
import BotCanvas.Text.Class
import Mathlib.Data.List.Basic
import Mathlib.Data.List.DropRight
import Mathlib.Data.List.Nodup

/-!
# Names that a tally gives out

A tally counts requests for each base name apart, and the later names of one base carry the count
behind them. So two requests never get the same base with the same count (`nodup_issued`), but the
names can still meet: the second name of one base may be another base.

**When names meet.** `nodup_names_iff` says exactly when all names are different. Bases that do not
end in a digit can be told from their names, by leaving out the digits at the end, and never meet
(`nodup_names`).
-/

namespace BotCanvas

/-- Numerals of different numbers are different. -/
theorem natDigits_injective :
    Function.Injective natDigits := by
  intro m n h
  calc
    m = Nat.ofDigitChars 10 (natDigits m) 0 := Nat.ofDigitChars_ten_toDigits.symm
    _ = Nat.ofDigitChars 10 (natDigits n) 0 := by rw [h]
    _ = n := Nat.ofDigitChars_ten_toDigits

/-- Numerals are made of digits. -/
theorem isAsciiDigit_of_mem_natDigits
    {n : Nat}
    {c : Char}
    (h : c ∈ natDigits n) :
    Text.isAsciiDigit c = true := by
  have hdigit := Nat.isDigit_of_mem_toDigits (by decide) (by decide) h
  simpa only [Char.isDigit, Text.isAsciiDigit, Char.le_def] using hdigit

namespace Tally

/-! ## Requests and names -/

/-- The name that a base gets at a request of the given count. -/
def numbered (base : Text) (n : Nat) : Text :=
  if n = 1 then base else base ++ natDigits n

/-- The next name of a base is that of the next count. -/
theorem nextName_eq
    (t : Tally)
    (base : Text) :
    t.nextName base = numbered base (t.count base + 1) :=
  rfl

/-- The tally after requests. -/
def after (t : Tally) (bases : List Text) : Tally :=
  bases.foldl (fun t base => t.bump base) t

/-- The names given out for requests, in order. -/
def names (t : Tally) : List Text → List Text
  | [] => []
  | base :: rest => t.nextName base :: (t.bump base).names rest

/-- The requests, each with the count of its base. -/
def issued (t : Tally) : List Text → List (Text × Nat)
  | [] => []
  | base :: rest => (base, t.count base + 1) :: (t.bump base).issued rest

variable {t : Tally}
variable {a b : Text}
variable {bases : List Text}

/-- A request counts for its own base only. -/
theorem count_bump :
    (t.bump b).count a = t.count a + if b = a then 1 else 0 := by
  induction t with
  | nil => by_cases h : b = a <;> simp [bump, count, h]
  | cons entry rest ih =>
      obtain ⟨c, n⟩ := entry
      by_cases hb : c = b
      · subst hb
        by_cases ha : c = a <;> simp [bump, count, ha]
      · by_cases ha : c = a
        · subst ha
          simp [bump, count, hb, Ne.symm hb]
        · simpa [bump, count, hb, ha] using ih

/-- Names are given out to one list of requests after another. -/
theorem names_append
    (t : Tally)
    (l l' : List Text) :
    t.names (l ++ l') = t.names l ++ (t.after l).names l' := by
  induction l generalizing t with
  | nil => rfl
  | cons base rest ih => exact congrArg _ (ih (t.bump base))

/-- The names are made of the bases and their counts. -/
theorem names_eq_map_issued
    (t : Tally)
    (bases : List Text) :
    t.names bases = (t.issued bases).map fun r => numbered r.1 r.2 := by
  induction bases generalizing t with
  | nil => rfl
  | cons base rest ih => exact congrArg _ (ih (t.bump base))

/-- A base comes with the counts from the next one on. -/
theorem mem_issued
    {n : Nat} :
    (a, n) ∈ t.issued bases ↔ t.count a < n ∧ n ≤ t.count a + bases.count a := by
  induction bases generalizing t with
  | nil =>
      simp only [issued, List.not_mem_nil, List.count_nil, false_iff]
      omega
  | cons base rest ih =>
      rw [issued, List.mem_cons, ih, count_bump, List.count_cons, Prod.mk.injEq]
      by_cases h : base = a
      · subst h
        simp only [true_and, if_true, beq_self_eq_true]
        omega
      · simp only [Ne.symm h, false_and, false_or, if_neg h, beq_eq_false_iff_ne.2 h,
          Bool.false_eq_true, if_false]
        omega

/-- No base comes with one count twice. -/
theorem nodup_issued
    (t : Tally)
    (bases : List Text) :
    (t.issued bases).Nodup := by
  induction bases generalizing t with
  | nil => exact List.nodup_nil
  | cons base rest ih =>
      refine List.nodup_cons.2 ⟨fun hmem => ?_, ih (t.bump base)⟩
      have hless := (mem_issued.1 hmem).1
      rw [count_bump, if_pos rfl] at hless
      omega

/-! ## Names that meet -/

/-- The names of one base tell the counts. -/
theorem numbered_injective
    (base : Text) :
    Function.Injective (numbered base) := by
  intro m n h
  have hne : ∀ k, base ≠ base ++ natDigits k := by
    intro k hbase
    exact absurd (List.self_eq_append_right.1 hbase) Nat.toDigits_ne_nil
  unfold numbered at h
  split at h
  · split at h
    · omega
    · exact absurd h (hne n)
  · split at h
    · exact absurd h.symm (hne m)
    · exact natDigits_injective (List.append_cancel_left h)

/-- The names given out for requests are pairwise different just if different bases do not meet at
any of the counts that they reach. -/
theorem nodup_names_iff
    (bases : List Text) :
    (names [] bases).Nodup ↔
      ∀ a b, ∀ m ≤ bases.count a, ∀ n ≤ bases.count b, 0 < m → 0 < n →
        numbered a m = numbered b n → a = b := by
  rw [names_eq_map_issued, List.nodup_map_iff_inj_on (nodup_issued [] bases)]
  have hmem : ∀ a n, (a, n) ∈ issued [] bases ↔ 0 < n ∧ n ≤ bases.count a := by
    intro a n
    rw [mem_issued]
    simp [count]
  constructor
  · intro h a b m hm n hn hm0 hn0 heq
    have hpair := h (a, m) ((hmem a m).2 ⟨hm0, hm⟩) (b, n) ((hmem b n).2 ⟨hn0, hn⟩) heq
    exact congrArg Prod.fst hpair
  · rintro h ⟨a, m⟩ hm ⟨b, n⟩ hn heq
    obtain ⟨hm0, hm⟩ := (hmem a m).1 hm
    obtain ⟨hn0, hn⟩ := (hmem b n).1 hn
    obtain rfl := h a b m hm n hn hm0 hn0 heq
    exact congrArg (Prod.mk a) (numbered_injective a heq)

/-! ## Bases that names tell -/

/-- A text without the digits at its end. -/
def stem (s : Text) : Text :=
  s.rdropWhile Text.isAsciiDigit

/-- A text that ends in a digit. -/
def EndsInDigit (s : Text) : Prop :=
  s.getLast?.any Text.isAsciiDigit = true

instance : DecidablePred EndsInDigit :=
  fun s => inferInstanceAs (Decidable (s.getLast?.any Text.isAsciiDigit = true))

/-- The end of a text decides whether it is a digit. -/
theorem endsInDigit_append_iff
    (s : Text)
    {t : Text}
    (ht : t ≠ []) :
    EndsInDigit (s ++ t) ↔ EndsInDigit t := by
  rw [EndsInDigit, EndsInDigit, List.getLast?_append_of_ne_nil s ht]

/-- A text that does not end in a digit is its own stem. -/
theorem stem_eq_self
    (h : ¬EndsInDigit a) :
    stem a = a := by
  refine List.rdropWhile_eq_self_iff.2 fun hne hdigit => h ?_
  rw [EndsInDigit, List.getLast?_eq_some_getLast hne]
  exact hdigit

/-- A number at the end is not part of the stem. -/
theorem stem_append_natDigits
    (n : Nat) :
    stem (a ++ natDigits n) = stem a := by
  have hdigits : ∀ c ∈ natDigits n, Text.isAsciiDigit c = true :=
    fun c hc => isAsciiDigit_of_mem_natDigits hc
  generalize natDigits n = digits at hdigits
  induction digits using List.reverseRecOn with
  | nil => rw [List.append_nil]
  | append_singleton l c ih =>
      rw [List.forall_mem_append, List.forall_mem_singleton] at hdigits
      rw [← List.append_assoc, stem, List.rdropWhile_concat_pos _ _ _ hdigits.2]
      exact ih hdigits.1

/-- All names of a base have the stem of the base. -/
theorem stem_numbered
    (n : Nat) :
    stem (numbered a n) = stem a := by
  unfold numbered
  split
  · rfl
  · exact stem_append_natDigits n

/-- A name that is given out has the stem of a base that was asked for. -/
theorem exists_stem_of_mem_names
    {name : Text}
    (h : name ∈ t.names bases) :
    ∃ base ∈ bases, stem name = stem base := by
  rw [names_eq_map_issued] at h
  obtain ⟨⟨base, n⟩, hissued, rfl⟩ := List.mem_map.1 h
  have hcount := mem_issued.1 hissued
  exact ⟨base, List.count_pos_iff.1 (by omega), stem_numbered n⟩

/-- Bases that do not end in a digit never meet. -/
theorem nodup_names
    (h : ∀ base ∈ bases, ¬EndsInDigit base) :
    (names [] bases).Nodup := by
  rw [nodup_names_iff]
  intro a b m hm n hn hm0 hn0 heq
  have ha : a ∈ bases := List.count_pos_iff.1 (hm0.trans_le hm)
  have hb : b ∈ bases := List.count_pos_iff.1 (hn0.trans_le hn)
  have hstem := congrArg stem heq
  rwa [stem_numbered, stem_numbered, stem_eq_self (h a ha), stem_eq_self (h b hb)] at hstem

end Tally

end BotCanvas
