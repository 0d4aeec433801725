import BotCanvas.Value.Coerce
import Mathlib.Data.Nat.Log
import Mathlib.Tactic.Linarith

/-!
# The range of binary64

A whole number is rounded to a binary64 number if it is less than half a step beyond the largest
one. From `Binary64.limit` on it is too large, and a number property that stands for it is refused.

**Rounding.** Only two facts about the rounding of a quotient are needed: below a half it goes down,
and from a half on it goes up where the neighbour below is odd, as the largest one is.
-/

namespace BotCanvas

variable {num den m : Nat}

/-- A quotient less than a half above a number is not rounded beyond it. -/
theorem roundHalfEven_le
    (h : 2 * num < 2 * (m * den) + den) :
    roundHalfEven num den ≤ m := by
  have hdiv := Nat.div_add_mod num den
  rw [Nat.mul_comm] at hdiv
  have hq : num / den ≤ m := by
    by_contra hq
    have hle := Nat.mul_le_mul_right den (show m + 1 ≤ num / den by omega)
    rw [Nat.add_mul, Nat.one_mul] at hle
    omega
  unfold roundHalfEven
  simp only
  by_cases hhalf : 2 * (num % den) < den
  · rw [if_pos hhalf]
    exact hq
  · -- from a half on, the quotient itself is below the number
    have hless : num / den ≠ m := by
      intro heq
      rw [heq] at hdiv
      omega
    rw [if_neg hhalf]
    split
    · omega
    · split <;> omega

/-- A quotient at least a half above an odd number is rounded beyond it. -/
theorem lt_roundHalfEven
    (hden : 0 < den)
    (hodd : m % 2 = 1)
    (h : 2 * (m * den) + den ≤ 2 * num) :
    m < roundHalfEven num den := by
  have hdiv := Nat.div_add_mod num den
  rw [Nat.mul_comm] at hdiv
  have hq : m ≤ num / den := by
    rw [Nat.le_div_iff_mul_le hden]
    omega
  unfold roundHalfEven
  simp only
  by_cases heq : num / den = m
  · have hhalf : ¬2 * (num % den) < den := by
      rw [heq] at hdiv
      omega
    rw [heq, if_neg hhalf, if_neg (show ¬m % 2 = 0 by omega)]
    split <;> omega
  · split
    · omega
    · split
      · omega
      · split <;> omega

/-- Rounding never goes below the whole part of a quotient. -/
theorem div_le_roundHalfEven
    (num den : Nat) :
    num / den ≤ roundHalfEven num den := by
  unfold roundHalfEven
  simp only
  split
  · exact le_refl _
  · split
    · omega
    · split <;> omega

namespace Binary64

/-- Counts between two neighbouring powers have one spacing. -/
theorem spacing_eq
    {n k : Nat}
    (hle : 2 ^ k ≤ n)
    (hlt : n < 2 ^ (k + 1)) :
    spacing n = 2 ^ (k - 52) := by
  have hn : n ≠ 0 := by
    have := Nat.two_pow_pos k
    omega
  have hlog : n.log2 = k := by
    have hge := (Nat.le_log2 hn).2 hle
    have hless := (Nat.log2_lt hn).2 hlt
    omega
  rw [spacing, hlog, Nat.pow_eq]

/-- Smaller counts have a smaller spacing. -/
theorem spacing_le
    {n k : Nat}
    (hlt : n < 2 ^ (k + 1)) :
    spacing n ≤ 2 ^ (k - 52) := by
  have hlog : n.log2 ≤ k := by
    by_cases hn : n = 0
    · rw [hn, Nat.log2_zero]
      omega
    · have hless := (Nat.log2_lt hn).2 hlt
      omega
  exact Nat.pow_le_pow_right (by decide) (by omega)

/-- A count is rounded by less than a step of its spacing. -/
theorem nearestUnits_one_le
    (n : Nat) :
    nearestUnits n 1 ≤ n + spacing n := by
  have hpos : 0 < spacing n := Nat.two_pow_pos _
  have hround : roundHalfEven n (spacing n) ≤ n / spacing n + 1 := by
    have hdiv := Nat.div_add_mod n (spacing n)
    have hmod := Nat.mod_lt n hpos
    rw [Nat.mul_comm] at hdiv
    refine roundHalfEven_le ?_
    rw [Nat.add_mul, Nat.one_mul]
    omega
  have hmul := Nat.mul_le_mul_right (spacing n) hround
  have hdiv := Nat.div_mul_le_self n (spacing n)
  rw [Nat.add_mul, Nat.one_mul] at hmul
  rw [nearestUnits, Nat.div_one, Nat.one_mul]
  omega

/-- A count is not rounded below a power that it reaches. -/
theorem pow_le_nearestUnits_one
    {n k : Nat}
    (hk : 52 ≤ k)
    (h : 2 ^ k ≤ n) :
    2 ^ k ≤ nearestUnits n 1 := by
  have hn : n ≠ 0 := by
    have := Nat.two_pow_pos k
    omega
  have hlog := (Nat.le_log2 hn).2 h
  have hself := Nat.log2_self_le hn
  have hsplit : 2 ^ n.log2 = 2 ^ 52 * spacing n := by
    rw [spacing, Nat.pow_eq, ← Nat.pow_add]
    congr 1
    omega
  have hpos : 0 < spacing n := Nat.two_pow_pos _
  have hquotient : 2 ^ 52 ≤ n / spacing n := by
    rw [Nat.le_div_iff_mul_le hpos, ← hsplit]
    exact hself
  have hround := hquotient.trans (div_le_roundHalfEven n (spacing n))
  rw [nearestUnits, Nat.div_one, Nat.one_mul]
  calc 2 ^ k ≤ 2 ^ n.log2 := Nat.pow_le_pow_right (by decide) hlog
    _ = 2 ^ 52 * spacing n := hsplit
    _ ≤ roundHalfEven n (spacing n) * spacing n := Nat.mul_le_mul_right _ hround

/-- Between two powers, counts are rounded to the upper one from half a step below it. -/
theorem pow_le_nearestUnits_one_iff
    {n k : Nat}
    (hle : 2 ^ (k + 53) ≤ n)
    (hlt : n < 2 ^ (k + 54)) :
    2 ^ (k + 54) ≤ nearestUnits n 1 ↔ 2 ^ (k + 54) - 2 ^ k ≤ n := by
  have hspacing : spacing n = 2 * 2 ^ k := by
    rw [spacing_eq hle hlt, ← Nat.pow_succ']
    congr 1
  have hpower : 2 ^ (k + 54) = 2 ^ 54 * 2 ^ k := by
    rw [← Nat.pow_add, Nat.add_comm]
  have hpos := Nat.two_pow_pos k
  rw [nearestUnits, Nat.div_one, Nat.one_mul, hspacing, hpower]
  constructor
  · intro h
    by_contra hnot
    have hround : roundHalfEven n (2 * 2 ^ k) ≤ 2 ^ 53 - 1 := roundHalfEven_le (by omega)
    have hmul := Nat.mul_le_mul_right (2 * 2 ^ k) hround
    omega
  · intro h
    have hround : 2 ^ 53 - 1 < roundHalfEven n (2 * 2 ^ k) :=
      lt_roundHalfEven (by omega) (by decide) (by omega)
    have hmul := Nat.mul_le_mul_right (2 * 2 ^ k)
      (show 2 ^ 53 ≤ roundHalfEven n (2 * 2 ^ k) by omega)
    omega

/-- Counts are rounded to a power or beyond it from half a step below it. -/
theorem pow_le_nearestUnits_iff
    (n k : Nat) :
    2 ^ (k + 54) ≤ nearestUnits n 1 ↔ 2 ^ (k + 54) - 2 ^ k ≤ n := by
  have hpower : 2 ^ (k + 54) = 2 ^ 54 * 2 ^ k := by
    rw [← Nat.pow_add, Nat.add_comm]
  have hhalf : 2 ^ (k + 53) = 2 ^ 53 * 2 ^ k := by
    rw [← Nat.pow_add, Nat.add_comm]
  have hpos := Nat.two_pow_pos k
  by_cases hsmall : n < 2 ^ (k + 53)
  · have hspacing : spacing n ≤ 2 ^ k := by
      have hle := spacing_le (show n < 2 ^ (k + 52 + 1) from hsmall)
      rwa [Nat.add_sub_cancel] at hle
    have hround := nearestUnits_one_le n
    omega
  · by_cases hlarge : n < 2 ^ (k + 54)
    · exact pow_le_nearestUnits_one_iff (Nat.not_lt.1 hsmall) hlarge
    · have hround := pow_le_nearestUnits_one (by omega) (Nat.not_lt.1 hlarge)
      omega

/-- The same for whole numbers that count a power each. The exponents are variables, so that no power
is computed. -/
theorem pow_le_nearestUnits_mul_iff
    (m : Nat)
    {a b c k u : Nat}
    (hu : u = k + 54)
    (ha : a + c = u)
    (hb : b + c = k) :
    2 ^ u ≤ nearestUnits (m * 2 ^ c) 1 ↔ 2 ^ a - 2 ^ b ≤ m := by
  rw [hu, pow_le_nearestUnits_iff, ← hu, ← ha, ← hb, Nat.pow_add, Nat.pow_add, ← Nat.sub_mul]
  exact Nat.mul_le_mul_right_iff (Nat.two_pow_pos c)

/-- A number with a count of units is finite below the end of the range. -/
theorem finite?_ofUnits
    (negative : Bool)
    (u : Nat) :
    (ofUnits negative u).finite? =
      if overflowUnits ≤ u then none else some (finite negative u) := by
  by_cases h : overflowUnits ≤ u
  · rw [if_pos h, ofUnits, if_pos h]
    rfl
  · rw [if_neg h, ofUnits, if_neg h]
    rfl

/-- The least whole number that is too large. -/
def limit : Nat := 2 ^ 1024 - 2 ^ 970

/-- A whole number is too large from the limit on. -/
theorem ofInt?_eq_none_iff
    (n : Int) :
    ofInt? n = none ↔ limit ≤ n.natAbs := by
  have hunits : overflowUnits ≤ nearestUnits (n.natAbs * unitsPerOne) 1 ↔ limit ≤ n.natAbs := by
    have hend : overflowUnits = 2 ^ 2098 := rfl
    have hone : unitsPerOne = 2 ^ 1074 := rfl
    rw [hend, hone, limit]
    exact pow_le_nearestUnits_mul_iff n.natAbs (k := 2044) rfl rfl rfl
  rw [← hunits, ofInt?, ofRatio, finite?_ofUnits]
  generalize nearestUnits (n.natAbs * unitsPerOne) 1 = u
  by_cases h : overflowUnits ≤ u
  · rw [if_pos h]
    exact iff_of_true rfl h
  · rw [if_neg h]
    exact iff_of_false (Option.some_ne_none _) h

end Binary64

namespace Number

/-- A whole number below the limit is spelled. -/
theorem normalise_int
    {n : Int}
    (h : n.natAbs < Binary64.limit) :
    ∃ m, (int n).normalise = .ok m := by
  cases hn : Binary64.ofInt? n with
  | none =>
      have := (Binary64.ofInt?_eq_none_iff n).1 hn
      omega
  | some x =>
      refine ⟨ofBinary64 x, ?_⟩
      rw [normalise, toBinary64, hn]
      rfl

/-- A whole number from the limit on is refused. -/
theorem normalise_int_of_le
    {n : Int}
    (h : Binary64.limit ≤ n.natAbs) :
    (int n).normalise = .error .wholeTooLarge := by
  rw [normalise, toBinary64, (Binary64.ofInt?_eq_none_iff n).2 h]
  rfl

end Number

end BotCanvas
