import PlanarVideo.Numeric.Rounding
import PlanarVideo.Proofs.Numeric.FloatValue
import PlanarVideo.Proofs.Numeric.Word

/-!
# The integer nearest to a float

`nearestInt?` works on the mantissa and the exponent of a double.  Here it is shown to round the
number that the double stands for, a half going away from zero, and to fail for infinities and NaN.
-/

namespace PlanarVideo.Numeric

open Float.Model (UnpackedFloat)
open Float.Model.UnpackedFloat

/-- The integer nearest to a real number, a half going away from zero. -/
noncomputable def roundAway (v : ℝ) : ℤ :=
  if 0 ≤ v then round v else -round (-v)

/-- The double is finite, and `n` is the integer nearest to it. -/
def RoundsTo (x : Float) (n : ℤ) : Prop :=
  x ≠ .nan ∧ ∃ v : ℝ, doubleValue x = v ∧ roundAway v = n

variable {x : Float} {m n : ℤ}

lemma RoundsTo.unique (hm : RoundsTo x m) (hn : RoundsTo x n) : m = n := by
  obtain ⟨-, v, hv, rfl⟩ := hm
  obtain ⟨-, w, hw, rfl⟩ := hn
  obtain rfl : v = w := EReal.coe_eq_coe_iff.mp (hv.symm.trans hw)
  rfl

/-- Half a unit is added and the fraction is cut off. -/
lemma nearestMagnitude_eq (mantissa : ℕ) (exponent : ℤ) :
    (nearestMagnitude mantissa exponent : ℤ) = round (mantissa * 2 ^ exponent : ℝ) := by
  rw [round_eq]
  unfold nearestMagnitude
  split_ifs with h
  · -- the number is an integer
    obtain ⟨e, rfl⟩ := Int.eq_ofNat_of_zero_le h
    have hvalue : (mantissa * 2 ^ (e : ℤ) : ℝ) = ((mantissa * 2 ^ e : ℕ) : ℝ) := by
      rw [zpow_natCast]
      push_cast
      rfl
    have hhalf : ⌊(1 / 2 : ℝ)⌋ = 0 := by norm_num
    rw [Int.toNat_natCast, Nat.shiftLeft_eq, hvalue, Int.floor_natCast_add, hhalf, add_zero]
  · obtain ⟨k, rfl⟩ : ∃ k : ℕ, exponent = -(k + 1 : ℕ) := ⟨(-exponent).toNat - 1, by omega⟩
    have hshift : (- -((k + 1 : ℕ) : ℤ)).toNat = k + 1 := by omega
    have hsum : (mantissa * 2 ^ (-((k + 1 : ℕ) : ℤ)) : ℝ) + 1 / 2
        = ((mantissa + 2 ^ k : ℕ) : ℝ) / (2 ^ (k + 1) : ℕ) := by
      rw [zpow_neg, zpow_natCast]
      push_cast
      field_simp
      ring
    rw [hshift, hsum, Int.floor_div_natCast, Int.floor_natCast, Nat.add_sub_cancel,
      Nat.one_shiftLeft, Nat.shiftRight_eq_div_pow]
    push_cast
    rfl

/-- Rounding a finite number rounds its magnitude. -/
lemma roundAway_signed (s : Sign) {mantissa : ℕ} (h : 0 < mantissa) (exponent : ℤ) :
    roundAway (signed s (mantissa * 2 ^ exponent))
      = s.apply (nearestMagnitude mantissa exponent) := by
  have hpos : (0 : ℝ) < mantissa * 2 ^ exponent := by positivity
  rw [nearestMagnitude_eq]
  cases s with
  | positive => rw [signed, roundAway, if_pos hpos.le, Sign.apply]
  | negative => rw [signed, roundAway, if_neg (by linarith), neg_neg, Sign.apply]

lemma nearestInt?_eq_some_iff : nearestInt? x = some n ↔ RoundsTo x n := by
  rw [RoundsTo, ne_eq, eq_nan_iff, doubleValue, nearestInt?]
  cases x.toModel.unpack with
  | notANumber => simp
  | infinity s => cases s <;> simp [value]
  | zero s =>
    have hzero : roundAway 0 = 0 := by norm_num [roundAway]
    have hvalue : value (.zero s) = (0 : ℝ) := rfl
    simp only [hvalue, EReal.coe_eq_coe_iff, exists_eq_left', hzero]
    simp
  | finite s mantissa exponent h =>
    simp only [value, EReal.coe_eq_coe_iff, exists_eq_left', roundAway_signed s h]
    simp

/-- A nearest word is found exactly if the double is finite and its nearest integer has a word. -/
lemma nearestInt32?_eq_some_iff {w : Int32} : nearestInt32? x = some w ↔ RoundsTo x w.toInt := by
  rw [← nearestInt?_eq_some_iff, nearestInt32?]
  cases nearestInt? x with
  | none => simp
  | some n =>
    dsimp only
    split_ifs with h
    all_goals rw [← fitsInt32_iff] at h
    · rw [Option.some.injEq, Option.some.injEq, ← Int32.toInt_inj, toInt_ofInt32 h]
    · refine ⟨nofun, fun hw => absurd ?_ h⟩
      rw [Option.some.inj hw]
      exact fitsInt32_toInt w

end PlanarVideo.Numeric
