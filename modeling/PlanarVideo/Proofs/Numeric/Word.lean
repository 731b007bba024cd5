import PlanarVideo.Numeric.Checked
import Mathlib

/-!
# Signed words as integers

The integers that a 64-bit accumulator can hold, and the values of the word operations in terms of
them.  The sums and products of `Numeric.Checked` are read as integers here, so that a chain of
checks becomes one bound.
-/

namespace PlanarVideo.Numeric

/-- The integer has a 64-bit word. -/
def FitsInt64 (n : ℤ) : Prop :=
  -2 ^ 63 ≤ n ∧ n < 2 ^ 63

instance (n : ℤ) : Decidable (FitsInt64 n) :=
  inferInstanceAs (Decidable (_ ∧ _))

lemma FitsInt64.of_abs_lt {n : ℤ} (h : |n| < 2 ^ 63) : FitsInt64 n := by
  rw [abs_lt] at h
  exact ⟨h.1.le, h.2⟩

lemma toInt_ofInt {n : ℤ} (h : FitsInt64 n) : (Int64.ofInt n).toInt = n :=
  Int64.toInt_ofInt_of_le h.1 h.2

lemma fitsInt64_iff {n : ℤ} :
    FitsInt64 n ↔ Int64.minValue.toInt ≤ n ∧ n ≤ Int64.maxValue.toInt := by
  rw [FitsInt64, Int64.toInt_minValue, Int64.toInt_maxValue]
  omega

lemma int64?_eq_some {n : ℤ} (h : FitsInt64 n) : int64? n = some (Int64.ofInt n) :=
  if_pos (fitsInt64_iff.mp h)

lemma int64?_eq_none {n : ℤ} (h : ¬FitsInt64 n) : int64? n = none :=
  if_neg (mt fitsInt64_iff.mpr h)

lemma isSome_int64?_iff {n : ℤ} : (int64? n).isSome ↔ FitsInt64 n := by
  by_cases h : FitsInt64 n
  · simp [int64?_eq_some h, h]
  · simp [int64?_eq_none h, h]

lemma toInt_add {a b : Int64} (h : FitsInt64 (a.toInt + b.toInt)) :
    (a + b).toInt = a.toInt + b.toInt := by
  have hsum : a + b = Int64.ofInt (a.toInt + b.toInt) := by
    rw [Int64.ofInt_add, Int64.ofInt_toInt, Int64.ofInt_toInt]
  rw [hsum, toInt_ofInt h]

/-! ## 32-bit words -/

/-- The integer has a 32-bit word. -/
def FitsInt32 (n : ℤ) : Prop :=
  -2 ^ 31 ≤ n ∧ n < 2 ^ 31

instance (n : ℤ) : Decidable (FitsInt32 n) :=
  inferInstanceAs (Decidable (_ ∧ _))

lemma toInt_ofInt32 {n : ℤ} (h : FitsInt32 n) : (Int32.ofInt n).toInt = n :=
  Int32.toInt_ofInt_of_le h.1 h.2

lemma fitsInt32_toInt (a : Int32) : FitsInt32 a.toInt :=
  ⟨a.le_toInt, a.toInt_lt⟩

lemma fitsInt32_iff {n : ℤ} :
    FitsInt32 n ↔ Int32.minValue.toInt ≤ n ∧ n ≤ Int32.maxValue.toInt := by
  rw [FitsInt32, Int32.toInt_minValue, Int32.toInt_maxValue]
  omega

lemma toInt64_eq_ofInt (a : Int32) : a.toInt64 = Int64.ofInt a.toInt := by
  rw [← Int32.toInt_toInt64, Int64.ofInt_toInt]

/-- Narrowing a word to 32 bits gives the word of the same integer, if there is one. -/
lemma int32?_eq_some_iff {n : Int64} {w : Int32} : int32? n = some w ↔ n.toInt = w.toInt := by
  unfold int32?
  split_ifs with h
  all_goals rw [← fitsInt32_iff] at h
  · have hnarrow : n.toInt32.toInt = n.toInt := by
      obtain ⟨hlow, hhigh⟩ := h
      rw [Int64.toInt_toInt32, Int.bmod_eq_of_le (by omega) (by omega)]
    rw [Option.some.injEq, ← Int32.toInt_inj, hnarrow]
  · refine ⟨nofun, fun hw => absurd ?_ h⟩
    rw [hw]
    exact fitsInt32_toInt w

/-! ## Magnitudes -/

lemma abs_toInt_le (a : Int32) : |a.toInt| ≤ 2 ^ 31 :=
  abs_le.mpr ⟨a.le_toInt, a.toInt_lt.le⟩

/-- The magnitude of a 32-bit word is exact in 64 bits, that of the least word included. -/
lemma toInt_abs_toInt64 (a : Int32) : a.toInt64.abs.toInt = |a.toInt| := by
  have hne : a.toInt64.toBitVec ≠ BitVec.intMin 64 := by
    intro h
    have hmin : a.toInt = -2 ^ 63 := by
      rw [← Int32.toInt_toInt64, ← Int64.toInt_toBitVec, h]
      rfl
    have hle := a.le_toInt
    omega
  rw [← Int64.toInt_toBitVec, Int64.toBitVec_abs, BitVec.toInt_abs_eq_natAbs_of_ne_intMin hne,
    Int64.toInt_toBitVec, Int32.toInt_toInt64, Int.natCast_natAbs]

/-! ## Shifts -/

/-- Shifting a word to the right divides it by a power of two and rounds down. -/
lemma toInt_shiftRight (a : Int64) {n : ℕ} (h : n < 64) :
    (a >>> Int64.ofNat n).toInt = a.toInt / 2 ^ n := by
  have hn : ((Int64.ofNat n).toBitVec.smod 64).toNat = n := by
    have hnat : (BitVec.ofNat 64 n).toNat = n := by
      rw [BitVec.toNat_ofNat, Nat.mod_eq_of_lt (by omega)]
    have hmsb : (BitVec.ofNat 64 n).msb = false := by
      rw [BitVec.msb_eq_false_iff_two_mul_lt, hnat]
      omega
    have hbits : (64 : BitVec 64).msb = false := by decide
    rw [Int64.toBitVec_ofNat', BitVec.smod_eq, hmsb, hbits, BitVec.umod_eq, BitVec.toNat_umod, hnat]
    exact Nat.mod_eq_of_lt h
  rw [← Int64.toInt_toBitVec, Int64.toBitVec_shiftRight, BitVec.toInt_sshiftRight', hn,
    Int64.toInt_toBitVec, Int.shiftRight_eq_div_pow]
  norm_cast

end PlanarVideo.Numeric
