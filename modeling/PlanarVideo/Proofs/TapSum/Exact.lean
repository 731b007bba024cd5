import PlanarVideo.Proofs.SampleKind.Integer
import PlanarVideo.Proofs.TapSum.Window
import PlanarVideo.RangeGuard

/-!
# Integer tap sums are exact

On words and bytes the accumulator is a 64-bit word, and its sums could wrap.  For a table that
has been built they do not: `TapTable.exactSum` forms the same sum over the integers, every prefix
of it is bounded by the reach of the table, and `guarded_exact` concludes that the result of the
filter is the rounded-down quotient of the exact sum.
-/

namespace PlanarVideo

open Numeric

/-! ## Exact sums -/

namespace TapTable

/-- Tap `j` of the integer form as an integer. -/
def integerTap (t : TapTable) (j : ℕ) : ℤ :=
  (t.fixed.taps.getD j 0).toInt

/-- The product of tap `j` with the level in its column. -/
def exactProduct (t : TapTable) (level : ℕ → ℤ) (pos last j : ℕ) : ℤ :=
  t.integerTap j * level (t.windowColumn pos j last)

/-- The sum of the first `n` products. -/
def exactSum (t : TapTable) (level : ℕ → ℤ) (pos last n : ℕ) : ℤ :=
  ∑ j ∈ Finset.range n, t.exactProduct level pos last j

lemma exactSum_succ (t : TapTable) (level : ℕ → ℤ) (pos last n : ℕ) :
    t.exactSum level pos last (n + 1)
      = t.exactSum level pos last n + t.exactProduct level pos last n :=
  Finset.sum_range_succ _ _

/-- No product, no prefix of the sum and no final sum leaves the accumulator. -/
structure SumsFit (t : TapTable) (level : ℕ → ℤ) (pos last : ℕ) : Prop where
  product : ∀ j < t.size, FitsInt64 (t.exactProduct level pos last j)
  sum : ∀ n ≤ t.size, FitsInt64 (t.exactSum level pos last n)
  settled : FitsInt64 (t.exactSum level pos last t.size + t.fixed.offset.toInt)

/-- The result of the integer form: the exact sum with its offset, divided and rounded down. -/
def exactResult (t : TapTable) (level : ℕ → ℤ) (pos last : ℕ) : ℤ :=
  (t.exactSum level pos last t.size + t.fixed.offset.toInt) / 2 ^ t.fixed.shift

/-! ## Bounds -/

variable {t : TapTable} {level : ℕ → ℤ}

lemma reach_eq (h : t.Accepted) :
    t.fixed.reach
      = |t.fixed.offset.toInt| + ∑ j ∈ Finset.range t.size, |t.integerTap j| * 65535 := by
  rw [FixedTaps.reach_eq, h.size_fixed]
  rfl

lemma abs_exactProduct_le (hlevel : ∀ c, level c ∈ Set.Icc 0 65535) (pos last j : ℕ) :
    |t.exactProduct level pos last j| ≤ |t.integerTap j| * 65535 := by
  obtain ⟨hlow, hhigh⟩ := hlevel (t.windowColumn pos j last)
  rw [exactProduct, abs_mul, abs_of_nonneg hlow]
  exact mul_le_mul_of_nonneg_left hhigh (abs_nonneg _)

/-- No prefix of the sum outgrows the reach of the table, even with the offset added. -/
lemma abs_exactSum_add_abs_offset_le (h : t.Accepted)
    (hlevel : ∀ c, level c ∈ Set.Icc 0 65535) (pos last : ℕ) {n : ℕ} (hn : n ≤ t.size) :
    |t.exactSum level pos last n| + |t.fixed.offset.toInt| ≤ t.fixed.reach := by
  have hprefix : |t.exactSum level pos last n| ≤ ∑ j ∈ Finset.range n, |t.integerTap j| * 65535 :=
    (Finset.abs_sum_le_sum_abs _ _).trans
      (Finset.sum_le_sum fun j _ => abs_exactProduct_le hlevel pos last j)
  have hwhole : ∑ j ∈ Finset.range n, |t.integerTap j| * 65535
      ≤ ∑ j ∈ Finset.range t.size, |t.integerTap j| * 65535 :=
    Finset.sum_le_sum_of_subset_of_nonneg (Finset.range_subset_range.mpr hn)
      fun j _ _ => by positivity
  rw [reach_eq h]
  linarith

lemma abs_integerTap_le_reach (h : t.Accepted) {j : ℕ} (hj : j < t.size) :
    |t.integerTap j| * 65535 ≤ t.fixed.reach := by
  have hsingle := Finset.single_le_sum (f := fun j => |t.integerTap j| * 65535)
    (fun j _ => by positivity) (Finset.mem_range.mpr hj)
  rw [reach_eq h]
  linarith [abs_nonneg t.fixed.offset.toInt]

end TapTable

/-! ## The sums of the machine -/

section Machine

variable {t : TapTable}

/-- Word arithmetic is a homomorphism from the integers, so each prefix of the machine's sum is
the word of the exact prefix, wrapped or not. -/
lemma foldl_eq_ofInt_exactSum (t : TapTable) (level : ℕ → ℤ) (pos last n : ℕ) :
    (List.range n).foldl
        (fun sum j => sum +
          (t.fixed.taps.getD j 0).toInt64 * Int64.ofInt (level (t.column pos j last)))
        (0 : Int64)
      = Int64.ofInt (t.exactSum level pos last n) := by
  induction n with
  | zero => rfl
  | succ n ih =>
    have htap : (t.fixed.taps.getD n 0).toInt64 = Int64.ofInt (t.integerTap n) :=
      toInt64_eq_ofInt _
    rw [List.range_succ, List.foldl_append, ih, TapTable.exactSum_succ, Int64.ofInt_add,
      TapTable.exactProduct, Int64.ofInt_mul, ← t.column_eq_windowColumn, ← htap]
    rfl

/-- The reach of an accepted table bounds every sum that it forms on words and bytes. -/
lemma sumsFit (h : t.Accepted) (k : IntegerKind) (row : Array k.kind.Sample) (pos last : ℕ) :
    t.SumsFit (k.levels row) pos last := by
  have hreach := h.fits.2
  have hlevel := k.levels_mem_Icc row
  have hsum := fun n => t.abs_exactSum_add_abs_offset_le (n := n) h hlevel pos last
  refine ⟨fun j hj => ?_, fun n hn => ?_, ?_⟩
  · have hproduct := t.abs_exactProduct_le hlevel pos last j
    have htap := t.abs_integerTap_le_reach h hj
    exact .of_abs_lt (by linarith)
  · exact .of_abs_lt (by linarith [hsum n hn, abs_nonneg t.fixed.offset.toInt])
  · exact .of_abs_lt ((abs_add_le _ _).trans_lt (by linarith [hsum t.size le_rfl]))

lemma toInt_weightedSum (h : t.Accepted) (k : IntegerKind) (row : Array k.kind.Sample)
    (pos last : ℕ) :
    k.toInt (k.kind.weightedSum (t.window k.kind (k.kind.levels row) pos last))
      = t.exactSum (k.levels row) pos last t.size := by
  have hsum := foldl_eq_ofInt_exactSum t (k.levels row) pos last t.size
  have hfits := (sumsFit h k row pos last).sum t.size le_rfl
  unfold SampleKind.weightedSum TapTable.window
  rw [List.foldl_map]
  cases k with
  | word => exact (congrArg Int64.toInt hsum).trans (toInt_ofInt hfits)
  | byte => exact (congrArg Int64.toInt hsum).trans (toInt_ofInt hfits)

/-- The shift of the integer form divides and rounds down. -/
lemma toInt_settle (f : FixedTaps) (hshift : f.shift ≤ maxShift) {sum : Int64}
    (hfits : FitsInt64 (sum.toInt + f.offset.toInt)) :
    (f.settle sum).toInt = (sum.toInt + f.offset.toInt) / 2 ^ f.shift := by
  have hbits : f.shift < 64 := hshift.trans_lt (by decide)
  rw [← Int32.toInt_toInt64] at hfits ⊢
  rw [FixedTaps.settle, toInt_shiftRight _ hbits, toInt_add hfits]

lemma exists_filtered_eq_ok (h : t.Accepted) (k : IntegerKind) (row : Array k.kind.Sample) (pos : ℕ)
    {last : ℕ} (hlast : last < row.size) :
    ∃ v, filtered k.kind row t pos last = .ok v ∧
      k.toInt v = (t.exactSum (k.levels row) pos last t.size + t.fixed.offset.toInt)
        / 2 ^ t.fixed.shift := by
  have hsum := toInt_weightedSum h k row pos last
  have hfits := (sumsFit h k row pos last).settled
  refine ⟨_, filtered_eq_ok h k.kind row pos hlast, ?_⟩
  rw [← hsum] at hfits ⊢
  cases k with
  | word => exact toInt_settle t.fixed h.shift_le hfits
  | byte => exact toInt_settle t.fixed h.shift_le hfits

lemma toInt_result (h : t.Accepted) (k : IntegerKind) (row : Array k.kind.Sample) (pos : ℕ)
    {last : ℕ} (hlast : last < row.size) :
    k.toInt (t.result k.kind (k.kind.levels row) pos last)
      = t.exactResult (k.levels row) pos last := by
  obtain ⟨v, hv, hexact⟩ := exists_filtered_eq_ok h k row pos hlast
  rw [filtered_eq_ok h k.kind row pos hlast] at hv
  rw [Except.ok.inj hv, hexact, TapTable.exactResult]

/-- Guards act on float samples only. -/
lemma guarded_integerKind (k : IntegerKind) (g : Option RangeGuard) (row : Array k.kind.Sample)
    (t : TapTable) (pos last : ℕ) :
    guarded k.kind g row t pos last = filtered k.kind row t pos last := by
  cases k <;> rfl

lemma exists_guarded_eq_ok (h : t.Accepted) (k : IntegerKind) (g : Option RangeGuard)
    (row : Array k.kind.Sample) (pos : ℕ) {last : ℕ} (hlast : last < row.size) :
    ∃ v, guarded k.kind g row t pos last = .ok v ∧
      k.toInt v = t.exactResult (k.levels row) pos last := by
  rw [guarded_integerKind]
  exact exists_filtered_eq_ok h k row pos hlast

end Machine

/-- **Integer filtering is exact.**  A built table reads only existing taps and columns; no product,
no prefix of the sum and no final sum leaves the accumulator, and whatever the guard, the result is
the exact sum with its offset, divided by a power of two and rounded down. -/
theorem guarded_exact {s : TapSpec} {t : TapTable} (h : s.build = .ok t) (k : IntegerKind)
    (g : Option RangeGuard) (row : Array k.kind.Sample) (pos : ℕ) {last : ℕ}
    (hlast : last < row.size) :
    (∀ j < t.size, j < t.fixed.taps.size ∧ t.column pos j last < row.size ∧
      FitsInt64 (t.exactProduct (k.levels row) pos last j)) ∧
    (∀ n ≤ t.size, FitsInt64 (t.exactSum (k.levels row) pos last n)) ∧
    FitsInt64 (t.exactSum (k.levels row) pos last t.size + t.fixed.offset.toInt) ∧
    ∃ v, guarded k.kind g row t pos last = .ok v ∧
      k.toInt v = (t.exactSum (k.levels row) pos last t.size + t.fixed.offset.toInt)
        / 2 ^ t.fixed.shift := by
  have hacc : t.Accepted := TapTable.IsBuilt.accepted ⟨s, h⟩
  have hfits := sumsFit hacc k row pos last
  refine ⟨fun j hj => ⟨?_, ?_, hfits.product j hj⟩, hfits.sum, hfits.settled, ?_⟩
  · rwa [hacc.size_fixed]
  · exact (t.column_le_last pos j last).trans_lt hlast
  · rw [guarded_integerKind]
    exact exists_filtered_eq_ok hacc k row pos hlast

/-- Left of a rising edge the sum is negative, and minus four and a half rounds down. -/
theorem guarded_exact_sharpen :
    (TapTable.sharpen.toSpec defaultPrecision).build = .ok .sharpen ∧
      1 < (#[10, 40] : Array UInt16).size ∧
      ∃ v, guarded .uint16 none #[10, 40] .sharpen 0 1 = .ok v ∧ v.toInt = -5 := by
  have hbuild := TapTable.sharpen_accepted.build_toSpec defaultPrecision
  have hlast : 1 < (#[10, 40] : Array UInt16).size := by decide
  obtain ⟨-, -, -, v, hrun, hv⟩ := guarded_exact hbuild .word none #[10, 40] 0 hlast
  exact ⟨hbuild, hlast, v, hrun, hv.trans (by decide)⟩

end PlanarVideo
