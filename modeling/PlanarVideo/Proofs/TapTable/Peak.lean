import PlanarVideo.Proofs.Numeric.FloatValue
import PlanarVideo.TapTable.Build

/-!
# The tap of greatest magnitude

`RealTaps.peak` walks over the taps and keeps the one whose magnitude is no less than all before it.
What it ends with is the tap of greatest magnitude, and of several the last.
-/

namespace PlanarVideo

open Numeric

namespace RealTaps

variable {r : RealTaps} {n m k : ℕ}

/-- The magnitude of tap `k`. -/
def magnitude (r : RealTaps) (k : ℕ) : Float :=
  (r.taps.getD k 0).abs

/-- Of the first `n` taps, tap `m` has the greatest magnitude; of several, it is the last. -/
structure IsPeak (r : RealTaps) (n m : ℕ) : Prop where
  lt : m < n
  le : ∀ k < n, r.magnitude k ≤ r.magnitude m
  lt_of_lt : ∀ k < n, m < k → r.magnitude k < r.magnitude m

/-! ## The order of magnitudes -/

lemma tap_ne_nan (h : r.isFinite = true) (k : ℕ) : r.taps.getD k 0 ≠ .nan := by
  by_cases hk : k < r.taps.size
  · have htaps : r.taps.all Float.isFinite = true := by
      simp only [isFinite, Bool.and_eq_true] at h
      exact h.1.1
    rw [Array.getD_eq_getD_getElem?, Array.getElem?_eq_getElem hk, Option.getD_some]
    exact ne_nan_of_isFinite (Array.all_eq_true.mp htaps k hk)
  · rw [Array.getD_eq_getD_getElem?, Array.getElem?_eq_none (by omega), Option.getD_none]
    exact ne_nan_of_isFinite rfl

lemma magnitude_ne_nan (h : r.isFinite = true) (k : ℕ) : r.magnitude k ≠ .nan :=
  abs_ne_nan (tap_ne_nan h k)

lemma magnitude_le_iff (h : r.isFinite = true) {j k : ℕ} :
    r.magnitude j ≤ r.magnitude k ↔ doubleValue (r.magnitude j) ≤ doubleValue (r.magnitude k) :=
  le_iff_value.trans (and_iff_right ⟨magnitude_ne_nan h j, magnitude_ne_nan h k⟩)

lemma magnitude_lt_iff (h : r.isFinite = true) {j k : ℕ} :
    r.magnitude j < r.magnitude k ↔ doubleValue (r.magnitude j) < doubleValue (r.magnitude k) :=
  lt_iff_value.trans (and_iff_right ⟨magnitude_ne_nan h j, magnitude_ne_nan h k⟩)

lemma zero_le_magnitude (h : r.isFinite = true) (k : ℕ) : 0 ≤ r.magnitude k := by
  have hzero : (0 : Float) ≠ .nan := ne_nan_of_isFinite rfl
  rw [le_iff_value, doubleValue_zero]
  exact ⟨⟨hzero, magnitude_ne_nan h k⟩, doubleValue_abs_nonneg _⟩

/-- No peak comes later than another: it would be less, and not less. -/
lemma IsPeak.index_le (h : r.isFinite = true) (hm : r.IsPeak n m) (hk : r.IsPeak n k) : k ≤ m := by
  by_contra hlt
  have hless := hm.lt_of_lt k hk.lt (by omega)
  have hle := hk.le m hm.lt
  rw [magnitude_lt_iff h] at hless
  rw [magnitude_le_iff h] at hle
  exact absurd hless hle.not_gt

lemma IsPeak.unique (h : r.isFinite = true) (hm : r.IsPeak n m) (hk : r.IsPeak n k) : m = k :=
  le_antisymm (hk.index_le h hm) (hm.index_le h hk)

/-! ## The walk -/

/-- The tap kept after the first `n`, with its magnitude. -/
def leader (r : RealTaps) (n : ℕ) : ℕ × Float :=
  (List.range n).foldl
    (fun best k => if best.2 ≤ r.magnitude k then (k, r.magnitude k) else best) (0, 0)

lemma leader_succ (r : RealTaps) (n : ℕ) :
    r.leader (n + 1)
      = if (r.leader n).2 ≤ r.magnitude n then (n, r.magnitude n) else r.leader n := by
  rw [leader, List.range_succ, List.foldl_append]
  rfl

lemma peak_eq (r : RealTaps) : r.peak = (r.leader r.taps.size).1 := by
  have hzip : (List.range r.taps.size).zip r.taps.toList
      = (List.range r.taps.size).map fun k => (k, r.taps.getD k 0) := by
    refine List.ext_getElem (by simp) fun k hk hk' => ?_
    have hlt : k < r.taps.size := by simpa using hk'
    simp [hlt]
  rw [peak, hzip, List.foldl_map]
  rfl

/-- One more tap: it takes the lead, or is less than the leader. -/
lemma IsPeak.succ (h : r.isFinite = true) (hm : r.IsPeak n m) :
    r.IsPeak (n + 1) (if r.magnitude m ≤ r.magnitude n then n else m) := by
  split_ifs with hlead
  · refine ⟨n.lt_succ_self, fun k hk => ?_, fun k hk hlt => absurd hk (by omega)⟩
    rcases Nat.lt_succ_iff_lt_or_eq.mp hk with hk | rfl
    · have hle := hm.le k hk
      rw [magnitude_le_iff h] at hle hlead ⊢
      exact hle.trans hlead
    · exact (magnitude_le_iff h).mpr le_rfl
  · rw [magnitude_le_iff h, not_le, ← magnitude_lt_iff h] at hlead
    refine ⟨hm.lt.trans n.lt_succ_self, fun k hk => ?_, fun k hk hlt => ?_⟩
    · rcases Nat.lt_succ_iff_lt_or_eq.mp hk with hk | rfl
      · exact hm.le k hk
      · rw [magnitude_lt_iff h] at hlead
        exact (magnitude_le_iff h).mpr hlead.le
    · rcases Nat.lt_succ_iff_lt_or_eq.mp hk with hk | rfl
      · exact hm.lt_of_lt k hk hlt
      · exact hlead

/-- The invariant of the walk, from the first tap on. -/
lemma isPeak_leader (h : r.isFinite = true) (hn : 1 ≤ n) :
    r.IsPeak n (r.leader n).1 ∧ (r.leader n).2 = r.magnitude (r.leader n).1 := by
  induction n, hn using Nat.le_induction with
  | base =>
    have hfirst : r.leader 1 = (0, r.magnitude 0) := by
      rw [leader_succ]
      exact if_pos (zero_le_magnitude h 0)
    rw [hfirst]
    refine ⟨⟨one_pos, fun k hk => ?_, fun k hk hlt => absurd hk (by omega)⟩, rfl⟩
    obtain rfl : k = 0 := by omega
    exact (magnitude_le_iff h).mpr le_rfl
  | succ n _ ih =>
    obtain ⟨hpeak, hvalue⟩ := ih
    have hstep := hpeak.succ h
    rw [leader_succ, hvalue]
    split_ifs at hstep ⊢ with hlead
    · exact ⟨hstep, rfl⟩
    · exact ⟨hstep, hvalue⟩

lemma isPeak_iff_eq_peak (h : r.isFinite = true) (hsize : r.taps.size ≠ 0) :
    r.IsPeak r.taps.size m ↔ m = r.peak := by
  have hpeak := (isPeak_leader h (Nat.one_le_iff_ne_zero.mpr hsize)).1
  rw [← peak_eq] at hpeak
  constructor
  · exact fun hm => hm.unique h hpeak
  · rintro rfl
    exact hpeak

end RealTaps

end PlanarVideo
