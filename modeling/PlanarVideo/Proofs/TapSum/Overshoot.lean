import PlanarVideo.Proofs.TapSum.Exact

/-!
# How far integer filters overshoot

A table of unit gain takes weighted means of the levels under it.  With taps that are not negative
the mean would stay between the least and the greatest of these levels; every negative tap lets it
leave that range by its magnitude, as a share of the unit, times the width of the range.  The
bounds are shown for the exact sum, and survive the division by the unit, which rounds down.
-/

namespace PlanarVideo

open Numeric

namespace TapTable

variable {t : TapTable} {level : ℕ → ℤ} {pos last : ℕ} {low high : ℤ}

/-- The total magnitude of the negative taps of the integer form. -/
def negativeMass (t : TapTable) : ℤ :=
  ∑ j ∈ Finset.range t.size with t.integerTap j < 0, |t.integerTap j|

/-- The levels in the window of the table. -/
def windowSet (t : TapTable) (level : ℕ → ℤ) (pos last : ℕ) : Set ℤ :=
  {x | ∃ j < t.size, level (t.windowColumn pos j last) = x}

/-- The window of an accepted table has a least and a greatest level. -/
lemma exists_isLeast_isGreatest (h : t.Accepted) (level : ℕ → ℤ) (pos last : ℕ) :
    ∃ low high, IsLeast (t.windowSet level pos last) low ∧
      IsGreatest (t.windowSet level pos last) high := by
  let columns : Set ℕ := {j | j < t.size}
  have hfinite : columns.Finite := Set.finite_lt_nat t.size
  have hnonempty : columns.Nonempty := ⟨t.center, h.center_lt⟩
  obtain ⟨j, hj, hmin⟩ :=
    Set.exists_min_image columns (fun j => level (t.windowColumn pos j last)) hfinite hnonempty
  obtain ⟨k, hk, hmax⟩ :=
    Set.exists_max_image columns (fun j => level (t.windowColumn pos j last)) hfinite hnonempty
  refine ⟨_, _, ⟨⟨j, hj, rfl⟩, ?_⟩, ⟨⟨k, hk, rfl⟩, ?_⟩⟩
  · rintro _ ⟨i, hi, rfl⟩
    exact hmin i hi
  · rintro _ ⟨i, hi, rfl⟩
    exact hmax i hi

/-! ## Sums of unit gain -/

/-- A weighted sum of numbers up to `width` is no lower than its negative taps can make it. -/
lemma neg_negativeMass_mul_le {width : ℤ} {x : ℕ → ℤ} (hx : ∀ j < t.size, x j ∈ Set.Icc 0 width) :
    -(t.negativeMass * width) ≤ ∑ j ∈ Finset.range t.size, t.integerTap j * x j := by
  rw [negativeMass, Finset.sum_filter, Finset.sum_mul, ← Finset.sum_neg_distrib]
  refine Finset.sum_le_sum fun j hj => ?_
  obtain ⟨hlow, hhigh⟩ := hx j (Finset.mem_range.mp hj)
  split_ifs with hneg
  · -- a negative tap takes the most from the greatest number
    rw [abs_of_neg hneg]
    nlinarith
  · rw [zero_mul, neg_zero]
    exact mul_nonneg (not_lt.mp hneg) hlow

/-- The overshoot of the exact sum beyond the range of its levels, in units of the final shift. -/
lemma exactSum_mem_Icc (hgain : ∑ j ∈ Finset.range t.size, t.integerTap j = 2 ^ t.fixed.shift)
    (hlow : IsLeast (t.windowSet level pos last) low)
    (hhigh : IsGreatest (t.windowSet level pos last) high) :
    t.exactSum level pos last t.size ∈
      Set.Icc (low * 2 ^ t.fixed.shift - t.negativeMass * (high - low))
        (high * 2 ^ t.fixed.shift + t.negativeMass * (high - low)) := by
  have hrange : ∀ j < t.size, level (t.windowColumn pos j last) ∈ Set.Icc low high := fun j hj =>
    ⟨hlow.2 ⟨j, hj, rfl⟩, hhigh.2 ⟨j, hj, rfl⟩⟩
  -- the same bound for the distances from below and from above
  have hbelow : -(t.negativeMass * (high - low)) ≤
      ∑ j ∈ Finset.range t.size, t.integerTap j * (level (t.windowColumn pos j last) - low) :=
    neg_negativeMass_mul_le fun j hj => by
      obtain ⟨hle, hge⟩ := hrange j hj
      exact ⟨by linarith, by linarith⟩
  have habove : -(t.negativeMass * (high - low)) ≤
      ∑ j ∈ Finset.range t.size, t.integerTap j * (high - level (t.windowColumn pos j last)) :=
    neg_negativeMass_mul_le fun j hj => by
      obtain ⟨hle, hge⟩ := hrange j hj
      exact ⟨by linarith, by linarith⟩
  simp only [mul_sub, Finset.sum_sub_distrib, ← Finset.sum_mul, hgain] at hbelow habove
  simp only [Set.mem_Icc, exactSum, exactProduct]
  constructor <;> linarith

lemma negativeMass_eq_zero (h : ∀ j < t.size, 0 ≤ t.integerTap j) : t.negativeMass = 0 := by
  refine Finset.sum_eq_zero fun j hj => ?_
  obtain ⟨hj, hneg⟩ := Finset.mem_filter.mp hj
  exact absurd hneg (h j (Finset.mem_range.mp hj)).not_gt

end TapTable

/-- **Bounded overshoot.**  The integer taps of a built table sum to the unit `2 ^ shift`, and its
offset is less than the unit.  Then the result of an integer filter exceeds the range of the levels
under it by no more than the mass of the negative taps allows.  If these levels are all equal, it is
that level, and without negative taps it stays in their range. -/
theorem guarded_overshoot_le {t : TapTable} (h : t.IsBuilt)
    (hgain : ∑ j ∈ Finset.range t.size, t.integerTap j = 2 ^ t.fixed.shift)
    (hoffset : 0 ≤ t.fixed.offset.toInt) (hoffset' : t.fixed.offset.toInt < 2 ^ t.fixed.shift)
    (k : IntegerKind) (g : Option RangeGuard) (row : Array k.kind.Sample) (pos : ℕ) {last : ℕ}
    (hlast : last < row.size) :
    ∃ low high v, IsLeast (t.windowSet (k.levels row) pos last) low ∧
      IsGreatest (t.windowSet (k.levels row) pos last) high ∧
      guarded k.kind g row t pos last = .ok v ∧
      low + (t.fixed.offset.toInt - t.negativeMass * (high - low)) / 2 ^ t.fixed.shift
        ≤ k.toInt v ∧
      k.toInt v
        ≤ high + (t.negativeMass * (high - low) + t.fixed.offset.toInt) / 2 ^ t.fixed.shift ∧
      (low = high → k.toInt v = low) ∧
      ((∀ j < t.size, 0 ≤ t.integerTap j) → low ≤ k.toInt v ∧ k.toInt v ≤ high) := by
  have hacc := h.accepted
  obtain ⟨low, high, hlow, hhigh⟩ := t.exists_isLeast_isGreatest hacc (k.levels row) pos last
  obtain ⟨v, hrun, hv⟩ := exists_filtered_eq_ok hacc k row pos hlast
  obtain ⟨hbelow, habove⟩ := TapTable.exactSum_mem_Icc hgain hlow hhigh
  have hunit : (0 : ℤ) < 2 ^ t.fixed.shift := by positivity
  have hzero : t.fixed.offset.toInt / 2 ^ t.fixed.shift = 0 :=
    Int.ediv_eq_zero_of_lt hoffset hoffset'
  -- the bounds on the exact sum, with its offset, divided by the unit
  have hleast : low + (t.fixed.offset.toInt - t.negativeMass * (high - low)) / 2 ^ t.fixed.shift
      ≤ k.toInt v := by
    rw [hv, add_comm low, ← Int.add_mul_ediv_right _ _ hunit.ne']
    exact Int.ediv_le_ediv hunit (by linarith)
  have hmost : k.toInt v
      ≤ high + (t.negativeMass * (high - low) + t.fixed.offset.toInt) / 2 ^ t.fixed.shift := by
    rw [hv, add_comm high, ← Int.add_mul_ediv_right _ _ hunit.ne']
    exact Int.ediv_le_ediv hunit (by linarith)
  refine ⟨low, high, v, hlow, hhigh, ?_, hleast, hmost, ?_, ?_⟩
  · rwa [guarded_integerKind]
  · rintro rfl
    rw [sub_self, mul_zero, sub_zero, hzero, add_zero] at hleast
    rw [sub_self, mul_zero, zero_add, hzero, add_zero] at hmost
    exact le_antisymm hmost hleast
  · intro hnonneg
    rw [TapTable.negativeMass_eq_zero hnonneg] at hleast hmost
    rw [zero_mul, sub_zero, hzero, add_zero] at hleast
    rw [zero_mul, zero_add, hzero, add_zero] at hmost
    exact ⟨hleast, hmost⟩

/-- Left of a rising edge from ten to forty, sharpening gives the least that the bound allows. -/
theorem guarded_overshoot_le_edge :
    TapTable.sharpen.IsBuilt ∧
      ∑ j ∈ Finset.range TapTable.sharpen.size, TapTable.sharpen.integerTap j = 2 ^ 1 ∧
      0 ≤ TapTable.sharpen.fixed.offset.toInt ∧ TapTable.sharpen.fixed.offset.toInt < 2 ^ 1 ∧
      1 < (#[10, 40] : Array UInt16).size ∧
      ∃ v, guarded .uint16 none #[10, 40] .sharpen 0 1 = .ok v ∧ v.toInt = -5 ∧
        10 + (1 - 1 * (40 - 10)) / 2 ^ 1 ≤ v.toInt ∧
        v.toInt ≤ 40 + (1 * (40 - 10) + 1) / 2 ^ 1 := by
  have hbuilt := TapTable.isBuilt_iff_accepted.mpr TapTable.sharpen_accepted
  have hgain : ∑ j ∈ Finset.range TapTable.sharpen.size, TapTable.sharpen.integerTap j = 2 ^ 1 := by
    decide
  have hlast : 1 < (#[10, 40] : Array UInt16).size := by decide
  obtain ⟨low, high, v, hlow, hhigh, hrun, hleast, hmost, -⟩ :=
    guarded_overshoot_le hbuilt hgain (by decide) (by decide) .word none #[10, 40] 0 hlast
  -- the window holds both samples
  have hwindow : ∀ j < TapTable.sharpen.size,
      IntegerKind.word.levels #[10, 40] (TapTable.sharpen.windowColumn 0 j 1) ∈ Set.Icc 10 40 := by
    decide
  obtain rfl : 10 = low := by
    refine (hlow.unique ⟨⟨0, by decide, rfl⟩, ?_⟩).symm
    rintro _ ⟨j, hj, rfl⟩
    exact (hwindow j hj).1
  obtain rfl : 40 = high := by
    refine (hhigh.unique ⟨⟨1, by decide, rfl⟩, ?_⟩).symm
    rintro _ ⟨j, hj, rfl⟩
    exact (hwindow j hj).2
  obtain rfl : -5 = v := Except.ok.inj hrun
  exact ⟨hbuilt, hgain, by decide, by decide, hlast, -5, hrun, by decide, hleast, hmost⟩

end PlanarVideo
