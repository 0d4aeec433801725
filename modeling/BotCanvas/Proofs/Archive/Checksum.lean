import BotCanvas.Archive.Crc
import Mathlib.Algebra.CharP.Two
import Mathlib.Algebra.Field.ZMod
import Mathlib.Algebra.Polynomial.Div
import Mathlib.RingTheory.AdjoinRoot
import Mathlib.Tactic.ComputeDegree
import Mathlib.Tactic.LinearCombination

/-!
# Checksums are remainders

A checksum is the remainder of a division of polynomials with coefficients 0 and 1. The dividend
has the bits of the data as its coefficients, the lowest bit of the first byte for the highest
power, with 32 ones laid over its first coefficients; the divisor is `generator`. In the register
the lowest bit belongs to the highest power as well, and its bits are turned over in the end.

**Step.** To shift the register is to multiply by `X` and to reduce (`X_mul_ofRegister`). A byte is laid
over the register and shifted through it (`ofRegister_step`).
-/

namespace BotCanvas.Crc

open Polynomial

/-- The polynomial that is divided by. -/
noncomputable def generator : (ZMod 2)[X] :=
  X ^ 32 + X ^ 26 + X ^ 23 + X ^ 22 + X ^ 16 + X ^ 12 + X ^ 11 + X ^ 10 + X ^ 8 + X ^ 7 + X ^ 5 +
    X ^ 4 + X ^ 2 + X + 1

/-- The polynomial of a register. -/
noncomputable def ofRegister (r : UInt32) : (ZMod 2)[X] :=
  ∑ i ∈ Finset.range 32, if r.toNat.testBit i then X ^ (31 - i) else 0

/-- The polynomial of bits, the first for the highest power. -/
noncomputable def ofBits : List Bool → (ZMod 2)[X]
  | [] => 0
  | b :: bits => (if b then X ^ bits.length else 0) + ofBits bits

/-- The bits of data, the lowest bit of each byte first. -/
def bits (data : Bytes) : List Bool :=
  data.flatMap fun b => (List.range 8).map b.toNat.testBit

/-- Eight bits stand for each byte. -/
theorem length_bits
    (data : Bytes) :
    (bits data).length = 8 * data.length := by
  induction data with
  | nil => rfl
  | cons b data ih =>
      rw [bits, List.flatMap_cons, List.length_append, ← bits, ih]
      simp
      omega

/-- Bits before others count for higher powers. -/
theorem ofBits_append
    (front rest : List Bool) :
    ofBits (front ++ rest) = ofBits front * X ^ rest.length + ofBits rest := by
  induction front with
  | nil => simp [ofBits]
  | cons b front ih =>
      rw [List.cons_append, ofBits, ofBits, ih, List.length_append]
      cases b with
      | false => simp
      | true =>
          simp only [if_true]
          ring

/-- Registers are added bit by bit. -/
theorem ofRegister_xor
    (r s : UInt32) :
    ofRegister (r ^^^ s) = ofRegister r + ofRegister s := by
  rw [ofRegister, ofRegister, ofRegister, ← Finset.sum_add_distrib]
  refine Finset.sum_congr rfl fun i _ => ?_
  rw [UInt32.toNat_xor, Nat.testBit_xor]
  cases r.toNat.testBit i <;> cases s.toNat.testBit i <;> simp [CharTwo.add_self_eq_zero]

/-- The register that a carry is reduced with holds the divisor below its highest power. -/
theorem generator_eq :
    generator = X ^ 32 + ofRegister 0xedb88320 := by
  have hplaces : ((Finset.range 32).filter fun i => (0xedb88320 : UInt32).toNat.testBit i) =
      {5, 8, 9, 15, 19, 20, 21, 23, 24, 26, 27, 29, 30, 31} := by
    decide
  rw [ofRegister, ← Finset.sum_filter, hplaces, generator]
  simp
  ring

/-- The divisor has degree 32. -/
theorem natDegree_generator :
    generator.natDegree = 32 := by
  unfold generator
  compute_degree!

theorem monic_generator :
    generator.Monic := by
  unfold generator
  monicity!

/-- A register is a remainder. -/
theorem degree_ofRegister_lt
    (r : UInt32) :
    (ofRegister r).degree < generator.degree := by
  rw [Polynomial.degree_eq_natDegree monic_generator.ne_zero, natDegree_generator, ofRegister]
  refine lt_of_le_of_lt (Polynomial.degree_sum_le _ _) ?_
  rw [Finset.sup_lt_iff (by exact WithBot.bot_lt_coe 32)]
  intro i _
  split
  · rw [Polynomial.degree_X_pow]
    exact_mod_cast (show 31 - i < 32 by omega)
  · rw [Polynomial.degree_zero]
    exact WithBot.bot_lt_coe 32

/-- Multiplying by the variable moves the bits and carries the lowest one out. -/
theorem X_mul_ofRegister
    (r : UInt32) :
    X * ofRegister r = (if r.toNat.testBit 0 then X ^ 32 else 0) + ofRegister (r >>> 1) := by
  have htop : r.toNat.testBit 32 = false := by
    exact Nat.testBit_lt_two_pow (UInt32.toNat_lt r)
  have hbit : ∀ i, (r >>> 1).toNat.testBit i = r.toNat.testBit (i + 1) := by
    intro i
    rw [UInt32.toNat_shiftRight, Nat.testBit_shiftRight]
    congr 1
    exact Nat.add_comm 1 i
  have hmoved : ofRegister (r >>> 1) =
      ∑ i ∈ Finset.range 31, if r.toNat.testBit (i + 1) then X ^ (31 - i) else 0 := by
    rw [ofRegister, Finset.sum_range_succ, hbit, htop, if_neg (by decide), add_zero]
    refine Finset.sum_congr rfl fun i _ => ?_
    rw [hbit]
  have hlowest : (X : (ZMod 2)[X]) * (if r.toNat.testBit 0 then X ^ (31 - 0) else 0) =
      if r.toNat.testBit 0 then X ^ 32 else 0 := by
    split
    · rw [← pow_succ']
    · rw [mul_zero]
  have hrest : ∀ i ∈ Finset.range 31,
      (X : (ZMod 2)[X]) * (if r.toNat.testBit (i + 1) then X ^ (31 - (i + 1)) else 0) =
        if r.toNat.testBit (i + 1) then X ^ (31 - i) else 0 := by
    intro i hi
    rw [Finset.mem_range] at hi
    split
    · rw [← pow_succ', show 31 - (i + 1) + 1 = 31 - i by omega]
    · rw [mul_zero]
  rw [hmoved, ofRegister, Finset.sum_range_succ', mul_add, Finset.mul_sum, hlowest,
    Finset.sum_congr rfl hrest, add_comm]

/-- Shifting a register multiplies by the variable, up to a multiple of the divisor. -/
theorem mk_ofRegister_shift
    (r : UInt32) :
    AdjoinRoot.mk generator (ofRegister (shift r)) =
      AdjoinRoot.mk generator (X * ofRegister r) := by
  rw [X_mul_ofRegister, shift]
  have hlow : r &&& 1 = 0 ↔ r.toNat.testBit 0 = false := by
    rw [← UInt32.toNat_inj, UInt32.toNat_and, Nat.testBit_zero]
    show r.toNat &&& 1 = 0 ↔ _
    rw [Nat.and_one_is_mod, decide_eq_false_iff_not]
    omega
  by_cases h : r &&& 1 = 0
  · rw [if_pos h, hlow.1 h, if_neg (by decide), zero_add]
  · have hbit : r.toNat.testBit 0 = true := by
      cases hcase : r.toNat.testBit 0 with
      | true => rfl
      | false => exact absurd (hlow.2 hcase) h
    have hcarry : (X : (ZMod 2)[X]) ^ 32 = ofRegister 0xedb88320 + generator := by
      rw [generator_eq, add_comm, add_assoc, CharTwo.add_self_eq_zero, add_zero]
    rw [if_neg h, hbit, if_pos rfl, ofRegister_xor, hcarry]
    simp only [map_add, AdjoinRoot.mk_self]
    ring

/-- Taking in a byte multiplies by the eighth power and adds the bits of the byte. -/
theorem mk_ofRegister_step
    (r : UInt32)
    (b : UInt8) :
    AdjoinRoot.mk generator (ofRegister (step r b)) =
      AdjoinRoot.mk generator (X ^ 8 * ofRegister r + ofBits (bits [b]) * X ^ 32) := by
  have hbyte : X ^ 8 * ofRegister b.toUInt32 = ofBits (bits [b]) * X ^ 32 := by
    have hhigh : ∀ i, 8 ≤ i → b.toNat.testBit i = false := by
      intro i hi
      have hlt := b.toNat_lt
      exact Nat.testBit_lt_two_pow (lt_of_lt_of_le hlt (Nat.pow_le_pow_right (by decide) hi))
    have hlow : ofRegister b.toUInt32 =
        ∑ i ∈ Finset.range 8, if b.toNat.testBit i then X ^ (31 - i) else 0 := by
      rw [ofRegister, UInt8.toNat_toUInt32]
      refine (Finset.sum_subset (Finset.range_mono (by decide)) fun i _ hi => ?_).symm
      rw [Finset.mem_range, not_lt] at hi
      rw [hhigh i hi, if_neg (by decide)]
    have hterm : ∀ (bit : Bool) (n : Nat), (if bit then (X : (ZMod 2)[X]) ^ n else 0) =
        (if bit then 1 else 0) * X ^ n := by
      intro bit n
      rw [ite_mul, one_mul, zero_mul]
    have hbits : bits [b] = [b.toNat.testBit 0, b.toNat.testBit 1, b.toNat.testBit 2,
        b.toNat.testBit 3, b.toNat.testBit 4, b.toNat.testBit 5, b.toNat.testBit 6,
        b.toNat.testBit 7] := rfl
    rw [hlow, hbits]
    simp only [Finset.sum_range_succ, Finset.sum_range_zero, ofBits, hterm, List.length_cons,
      List.length_nil]
    ring
  have hshift : ∀ s : UInt32, AdjoinRoot.mk generator (ofRegister (shift s)) =
      AdjoinRoot.mk generator X * AdjoinRoot.mk generator (ofRegister s) := by
    intro s
    rw [mk_ofRegister_shift, map_mul]
  rw [step]
  simp only [hshift]
  rw [ofRegister_xor, ← hbyte]
  simp only [map_add, map_mul, map_pow]
  ring

/-- Taking in data: eight more powers for each byte, and the bits of the data. -/
theorem mk_ofRegister_foldl
    (data : Bytes)
    (r : UInt32) :
    AdjoinRoot.mk generator (ofRegister (data.foldl step r)) =
      AdjoinRoot.mk generator
        (X ^ (8 * data.length) * ofRegister r + ofBits (bits data) * X ^ 32) := by
  induction data generalizing r with
  | nil => simp [bits, ofBits]
  | cons b data ih =>
      have hbits : bits (b :: data) = bits [b] ++ bits data := by
        simp [bits]
      have hpower : 8 * (b :: data).length = 8 * data.length + 8 := by
        rw [List.length_cons]
        ring
      rw [List.foldl_cons, ih, map_add, map_mul, mk_ofRegister_step, hbits, ofBits_append,
        length_bits, hpower, ← map_mul, ← map_add]
      refine congrArg (AdjoinRoot.mk generator) ?_
      ring

/-- A number is a checksum of data if its bits turned over are the remainder for the data. -/
def IsChecksum (data : Bytes) (n : Nat) : Prop :=
  ∃ r : UInt32, r.toNat = n ∧ ofRegister (r ^^^ 0xffffffff) =
    (ofBits (bits data) * X ^ 32 + X ^ (8 * data.length) * ofRegister 0xffffffff) %ₘ generator

/-- The register computes the checksum. -/
theorem isChecksum_checksum
    (data : Bytes) :
    IsChecksum data (checksum data).toNat := by
  have hregister : checksum data ^^^ 0xffffffff = data.foldl step 0xffffffff := by
    rw [checksum, UInt32.xor_assoc, UInt32.xor_self, UInt32.xor_zero]
  have hmk := mk_ofRegister_foldl data 0xffffffff
  rw [AdjoinRoot.mk_eq_mk] at hmk
  obtain ⟨q, hq⟩ := hmk
  refine ⟨checksum data, rfl, ?_⟩
  rw [hregister]
  refine (Polynomial.div_modByMonic_unique (-q) _ monic_generator ⟨?_, degree_ofRegister_lt _⟩).2.symm
  linear_combination hq

/-- The check value of the method. -/
example : checksum "123456789".toUTF8.toList = 0xcbf43926 := by
  decide +kernel

end BotCanvas.Crc
