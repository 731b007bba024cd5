import PlanarVideo.Proofs.Numeric.FloatConversion
import PlanarVideo.Proofs.SampleKind.Integer

/-!
# The order of samples

The samples of a kind are ordered as floats or as integers, with NaN apart.  A value that is clamped
between two samples is stored between them: narrowing to single precision keeps the order, and words
have nothing left to saturate.  NaN passes the clamp, and stays NaN.
-/

namespace PlanarVideo

open Numeric

namespace SampleKind

instance : (k : SampleKind) → LE k.Sample
  | float32 => inferInstanceAs (LE Float32)
  | uint16 => inferInstanceAs (LE UInt16)
  | uint8 => inferInstanceAs (LE UInt8)

/-- The sample is not a number. -/
def IsNaN : (k : SampleKind) → k.Sample → Prop
  | float32, x => x = .nan
  | uint16, _ => False
  | uint8, _ => False

/-- The sample lies between `low` and `high`, unless it is not a number. -/
def Within (k : SampleKind) (low high x : k.Sample) : Prop :=
  k.IsNaN x ∨ low ≤ x ∧ x ≤ high

end SampleKind

lemma IntegerKind.level_le_level_iff {k : IntegerKind} {x y : k.kind.Sample} :
    k.level x ≤ k.level y ↔ x ≤ y := by
  cases k with
  | word => exact Nat.cast_le.trans UInt16.le_iff_toNat_le.symm
  | byte => exact Nat.cast_le.trans UInt8.le_iff_toNat_le.symm

/-! ## What is stored for a clamped value -/

/-- A double that is clamped between two singles is stored between them. -/
lemma within_toSingle_clamp {low high : Float32} (h : low ≤ high) (v : Float) :
    SampleKind.float32.Within low high
      (toSingle (SampleKind.float32.clamp v (toDouble low) (toDouble high))) := by
  have hends := toDouble_le_toDouble_iff.mpr h
  obtain ⟨⟨hlow, hhigh⟩, -⟩ := le_iff_value.mp hends
  -- between the ends, narrowing goes no further than to them
  have hstored : ∀ w, toDouble low ≤ w → w ≤ toDouble high →
      SampleKind.float32.Within low high (toSingle w) := fun w hlow hhigh =>
    Or.inr ⟨toDouble_le_toDouble_iff.mp (le_toDouble_toSingle hlow),
      toDouble_le_toDouble_iff.mp (toDouble_toSingle_le hhigh)⟩
  unfold SampleKind.clamp
  split_ifs with hunder hover
  · exact hstored _ (double_le_refl hlow) hends
  · exact hstored _ hends (double_le_refl hhigh)
  · by_cases hv : v = .nan
    · exact Or.inl (toSingle_eq_nan_iff.mpr hv)
    · exact hstored v (double_le_of_not_lt hv hlow hunder) (double_le_of_not_lt hhigh hv hover)

/-- An integer that is clamped between two levels is one of the levels between them. -/
lemma IntegerKind.within_store_clamp (k : IntegerKind) {low high : k.kind.Sample} (h : low ≤ high)
    (v : k.kind.Acc) :
    k.kind.Within low high
      (k.kind.store (k.kind.clamp v (k.kind.load low) (k.kind.load high))) := by
  have hends := level_le_level_iff.mpr h
  have hclamped := clampLevel_mem_Icc (v := k.toInt v) (Set.left_mem_Icc.mpr hends)
    (Set.right_mem_Icc.mpr hends)
  have hlevel : clampLevel (k.toInt v) (k.level low) (k.level high) ∈ Set.Icc 0 k.top :=
    ⟨(k.level_mem_levels low).1.trans hclamped.1, hclamped.2.trans (k.level_mem_levels high).2⟩
  refine Or.inr ?_
  rw [← level_le_level_iff, ← level_le_level_iff, k.level_store, k.toInt_clamp, k.toInt_load,
    k.toInt_load, saturate_eq_self hlevel]
  exact hclamped

/-- A value that is clamped between two samples is stored between them, if it is a number. -/
lemma SampleKind.within_store_clamp (k : SampleKind) {low high : k.Sample} (h : low ≤ high)
    (v : k.Acc) : k.Within low high (k.store (k.clamp v (k.load low) (k.load high))) := by
  cases k with
  | float32 => exact within_toSingle_clamp h v
  | uint16 => exact IntegerKind.word.within_store_clamp h v
  | uint8 => exact IntegerKind.byte.within_store_clamp h v

end PlanarVideo
