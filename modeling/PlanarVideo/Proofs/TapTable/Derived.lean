import PlanarVideo.Proofs.Numeric.FloatInteger
import PlanarVideo.Proofs.TapSum.Exact
import PlanarVideo.Proofs.TapTable.Peak

/-!
# Derived integer forms

`RealTaps.toFixed` rounds the taps, their sum and the offset of a filter, and lets the tap of
greatest magnitude repay what the rounded taps lack to the rounded sum.  Here the form is told by
its integers: `RealTaps.Rounded` says which integers are rounded to, and `RealTaps.FitsWords` that
they have words.  A table is built from them exactly if they have, and if its sums fit the
accumulator.
-/

namespace PlanarVideo

open Numeric

/-! ## What a derivation rounds -/

/-- Half a unit at a precision of `p` bits. -/
def halfUnit (p : ℕ) : ℤ :=
  if p = 0 then 0 else 2 ^ (p - 1)

namespace RealTaps

/-- The level `x` of the filter in units of `2 ^ -p`, in double precision. -/
def scaled (r : RealTaps) (p : ℕ) (x : Float) : Float :=
  x * r.scale * Float.ofNat (2 ^ p)

/-- The taps, their sum and the offset at a precision of `p` bits, rounded to integers. -/
structure Rounded (r : RealTaps) (p : ℕ) (x : ℕ → ℤ) (gain offset : ℤ) : Prop where
  tap : ∀ k < r.taps.size, RoundsTo (r.scaled p (r.taps.getD k 0)) (x k)
  gain : RoundsTo (r.scaled p r.total) gain
  offset : RoundsTo (r.scaled p r.offset) offset

/-- The integers `x`, with tap `m` repaying what the sum of all lacks to the gain. -/
def repaid (r : RealTaps) (m : ℕ) (x : ℕ → ℤ) (gain : ℤ) : ℕ → ℤ :=
  Function.update x m (x m + (gain - ∑ k ∈ Finset.range r.taps.size, x k))

/-- The rounded coefficients have 32-bit words, also after repayment and with half a unit added. -/
structure FitsWords (r : RealTaps) (p m : ℕ) (x : ℕ → ℤ) (gain offset : ℤ) : Prop where
  tap_fits : ∀ k < r.taps.size, FitsInt32 (x k)
  gain_fits : FitsInt32 gain
  offset_fits : FitsInt32 offset
  repaid_fits : FitsInt32 (x m + (gain - ∑ k ∈ Finset.range r.taps.size, x k))
  half_fits : FitsInt32 (offset + halfUnit p)

variable {r : RealTaps} {p m : ℕ} {x : ℕ → ℤ} {gain offset : ℤ}

lemma Rounded.unique {x' : ℕ → ℤ} {gain' offset' : ℤ} (h : r.Rounded p x gain offset)
    (h' : r.Rounded p x' gain' offset') :
    (∀ k < r.taps.size, x k = x' k) ∧ gain = gain' ∧ offset = offset' :=
  ⟨fun k hk => (h.tap k hk).unique (h'.tap k hk), h.gain.unique h'.gain,
    h.offset.unique h'.offset⟩

@[simp] lemma repaid_self (r : RealTaps) (m : ℕ) (x : ℕ → ℤ) (gain : ℤ) :
    r.repaid m x gain m = x m + (gain - ∑ k ∈ Finset.range r.taps.size, x k) :=
  Function.update_self ..

lemma repaid_of_ne {k : ℕ} (h : k ≠ m) (x : ℕ → ℤ) (gain : ℤ) : r.repaid m x gain k = x k :=
  Function.update_of_ne h ..

lemma repaid_congr {x' : ℕ → ℤ} (h : ∀ k < r.taps.size, x k = x' k) (gain : ℤ) {k : ℕ}
    (hm : m < r.taps.size) (hk : k < r.taps.size) : r.repaid m x gain k = r.repaid m x' gain k := by
  have hsum : ∑ j ∈ Finset.range r.taps.size, x j = ∑ j ∈ Finset.range r.taps.size, x' j :=
    Finset.sum_congr rfl fun j hj => h j (Finset.mem_range.mp hj)
  by_cases hkm : k = m
  · rw [hkm, repaid_self, repaid_self, hsum, h m hm]
  · rw [repaid_of_ne hkm, repaid_of_ne hkm, h k hk]

/-- The repaid taps sum to the gain. -/
lemma sum_repaid (hm : m < r.taps.size) (x : ℕ → ℤ) (gain : ℤ) :
    ∑ k ∈ Finset.range r.taps.size, r.repaid m x gain k = gain := by
  have hmem : m ∈ Finset.range r.taps.size := Finset.mem_range.mpr hm
  rw [repaid, Finset.sum_update_of_mem hmem]
  have hsplit := Finset.add_sum_erase (Finset.range r.taps.size) x hmem
  rw [← Finset.sdiff_singleton_eq_erase] at hsplit
  linarith

/-! ## The steps of a derivation -/

lemma scaled?_eq_some_iff {y : Float} {w : Int32} :
    r.scaled? p y = some w ↔ RoundsTo (r.scaled p y) w.toInt := by
  rw [scaled?, Nat.one_shiftLeft]
  exact nearestInt32?_eq_some_iff

lemma mapM_scaled?_eq_some_iff {words : Array Int32} :
    r.taps.mapM (r.scaled? p) = some words ↔
      words.size = r.taps.size ∧
        ∀ k < r.taps.size, RoundsTo (r.scaled p (r.taps.getD k 0)) (words.getD k 0).toInt := by
  rw [Array.mapM_eq_mapM_toList]
  constructor
  · intro h
    obtain ⟨list, hlist, rfl⟩ := Option.map_eq_some_iff.mp h
    obtain ⟨hlength, hget⟩ := List.forall₂_iff_get.mp (mapM_eq_some_iff.mp hlist)
    refine ⟨hlength.symm, fun k hk => ?_⟩
    have hk' : k < list.length := hlength ▸ hk
    simpa [hk, hk'] using scaled?_eq_some_iff.mp (hget k hk hk')
  · rintro ⟨hsize, hround⟩
    have hlength : r.taps.toList.length = words.toList.length := hsize.symm
    refine Option.map_eq_some_iff.mpr ⟨words.toList, mapM_eq_some_iff.mpr
      (List.forall₂_iff_get.mpr ⟨hlength, fun k hk hk' => ?_⟩), Array.toArray_toList⟩
    rw [scaled?_eq_some_iff]
    rw [Array.length_toList] at hk hk'
    simpa [hk, hk'] using hround k hk

/-- The sum of the rounded taps, wrapped or not. -/
lemma foldl_toInt64 (words : Array Int32) :
    words.foldl (fun sum tap => sum + tap.toInt64) 0
      = Int64.ofInt (∑ k ∈ Finset.range words.size, (words.getD k 0).toInt) := by
  have hfold : ∀ (taps : List Int32) (n : ℤ),
      taps.foldl (fun sum tap => sum + tap.toInt64) (Int64.ofInt n)
        = Int64.ofInt (n + (taps.map Int32.toInt).sum) := by
    intro taps
    induction taps with
    | nil => simp
    | cons tap taps ih =>
      intro n
      rw [List.foldl_cons, toInt64_eq_ofInt, ← Int64.ofInt_add, ih, List.map_cons, List.sum_cons,
        add_assoc]
  rw [← Array.foldl_toList, ← sum_map_toList_eq_sum_range words 0]
  simpa using hfold words.toList 0

/-- What fewer than `2 ^ 31` words lack to another is far from wrapping. -/
lemma abs_residual_le {words : Array Int32} (hsize : words.size < 2 ^ 31) (gain : Int32) :
    |gain.toInt - ∑ k ∈ Finset.range words.size, (words.getD k 0).toInt| ≤ 2 ^ 62 := by
  have hsum : |∑ k ∈ Finset.range words.size, (words.getD k 0).toInt| ≤ words.size * 2 ^ 31 := by
    refine (Finset.abs_sum_le_sum_abs _ _).trans ?_
    calc ∑ k ∈ Finset.range words.size, |(words.getD k 0).toInt|
        ≤ ∑ _k ∈ Finset.range words.size, 2 ^ 31 := Finset.sum_le_sum fun k _ => abs_toInt_le _
      _ = words.size * 2 ^ 31 := by simp
  have hgain := abs_toInt_le gain
  have hle := abs_sub gain.toInt (∑ k ∈ Finset.range words.size, (words.getD k 0).toInt)
  omega

lemma toInt_residual {words : Array Int32} (hsize : words.size < 2 ^ 31) (gain : Int32) :
    (gain.toInt64 - words.foldl (fun sum tap => sum + tap.toInt64) 0).toInt
      = gain.toInt - ∑ k ∈ Finset.range words.size, (words.getD k 0).toInt := by
  have hle := abs_residual_le hsize gain
  rw [foldl_toInt64, toInt64_eq_ofInt, ← Int64.ofInt_sub, toInt_ofInt (.of_abs_lt (by omega))]

/-- Repayment replaces one word, by itself if nothing is owed. -/
lemma repay?_eq {words : Array Int32} (hpeak : r.peak < words.size) (residual : Int64) :
    r.repay? words residual
      = (int32? (words[r.peak].toInt64 + residual)).map (words.setIfInBounds r.peak) := by
  by_cases h : residual = 0
  · have hword : int32? (words[r.peak].toInt64 + residual) = some words[r.peak] := by
      rw [int32?_eq_some_iff, h, Int64.add_zero, Int32.toInt_toInt64]
    rw [repay?, if_pos h, hword, Option.map_some, Array.setIfInBounds_def, dif_pos hpeak,
      Array.set_getElem_self]
  · rw [repay?, if_neg h, Array.getElem?_eq_getElem hpeak]

lemma getD_setIfInBounds {words : Array Int32} (hm : m < words.size) (w : Int32) (k : ℕ) :
    (words.setIfInBounds m w).getD k 0 = if k = m then w else words.getD k 0 := by
  simp only [Array.getD_eq_getD_getElem?, Array.getElem?_setIfInBounds]
  by_cases h : m = k
  · subst h
    simp [hm]
  · simp [h, Ne.symm h]

/-- Words that stand for the same integers are the same. -/
lemma eq_of_toInt_getD_eq {words words' : Array Int32} (hsize : words.size = words'.size)
    (h : ∀ k < words.size, (words.getD k 0).toInt = (words'.getD k 0).toInt) : words = words' := by
  refine Array.ext hsize fun k hk hk' => ?_
  simpa [hk, hk', Int32.toInt_inj] using h k hk

/-- Repayment in terms of the integers. -/
lemma repay?_eq_some_iff {words taps : Array Int32} (hwords : words.size = r.taps.size)
    (hsize : r.taps.size < 2 ^ 31) (hpeak : r.peak < r.taps.size) (gain : Int32) :
    r.repay? words (gain.toInt64 - words.foldl (fun sum tap => sum + tap.toInt64) 0) = some taps ↔
      taps.size = r.taps.size ∧ ∀ k < r.taps.size, (taps.getD k 0).toInt
        = r.repaid r.peak (fun k => (words.getD k 0).toInt) gain.toInt k := by
  have hpeak' : r.peak < words.size := hwords.symm ▸ hpeak
  have hsize' : words.size < 2 ^ 31 := hwords.symm ▸ hsize
  have hpaid : (words[r.peak].toInt64
      + (gain.toInt64 - words.foldl (fun sum tap => sum + tap.toInt64) 0)).toInt
      = r.repaid r.peak (fun k => (words.getD k 0).toInt) gain.toInt r.peak := by
    have hle := abs_le.mp (abs_residual_le hsize' gain)
    have htap := abs_le.mp (abs_toInt_le words[r.peak])
    have hfirst : (words.getD r.peak 0).toInt = words[r.peak].toInt := by
      simp [hpeak']
    have hfits : FitsInt64 (words[r.peak].toInt64.toInt
        + (gain.toInt64 - words.foldl (fun sum tap => sum + tap.toInt64) 0).toInt) := by
      rw [Int32.toInt_toInt64, toInt_residual hsize' gain]
      constructor <;> omega
    rw [toInt_add hfits, Int32.toInt_toInt64, toInt_residual hsize' gain, repaid_self, hwords,
      hfirst]
  rw [repay?_eq hpeak', Option.map_eq_some_iff]
  constructor
  · rintro ⟨w, hw, rfl⟩
    rw [int32?_eq_some_iff, hpaid] at hw
    refine ⟨Array.size_setIfInBounds.trans hwords, fun k _ => ?_⟩
    rw [getD_setIfInBounds hpeak']
    split_ifs with hk
    · rw [hk, hw]
    · rw [repaid_of_ne hk]
  · rintro ⟨htaps, hget⟩
    refine ⟨taps.getD r.peak 0, ?_, ?_⟩
    · rw [int32?_eq_some_iff, hpaid, hget r.peak hpeak]
    · refine eq_of_toInt_getD_eq (Array.size_setIfInBounds.trans (hwords.trans htaps.symm))
        fun k hk => ?_
      rw [Array.size_setIfInBounds, hwords] at hk
      rw [getD_setIfInBounds hpeak']
      split_ifs with hkm
      · rw [hkm]
      · rw [hget k hk, repaid_of_ne hkm]

lemma toInt_half (hp : p ≤ maxShift) :
    (if p = 0 then 0 else Int64.ofNat (1 <<< (p - 1))).toInt = halfUnit p ∧
      0 ≤ halfUnit p ∧ halfUnit p < 2 ^ 30 := by
  have hpow : 2 ^ (p - 1) < 2 ^ 30 := by
    rw [maxShift] at hp
    exact Nat.pow_lt_pow_right one_lt_two (by omega)
  unfold halfUnit
  split_ifs with hzero
  · exact ⟨rfl, le_rfl, by norm_num⟩
  · rw [Nat.one_shiftLeft, Int64.toInt_ofNat_of_lt (by omega)]
    exact ⟨by push_cast; rfl, by positivity, by exact_mod_cast hpow⟩

/-- The offset of the form in terms of the integers. -/
lemma offset_eq_some_iff (hp : p ≤ maxShift) {offset w : Int32} :
    int32? (offset.toInt64 + if p = 0 then 0 else Int64.ofNat (1 <<< (p - 1))) = some w ↔
      w.toInt = offset.toInt + halfUnit p := by
  obtain ⟨hhalf, hlow, hhigh⟩ := toInt_half hp
  have hfits : FitsInt64 (offset.toInt64.toInt
      + (if p = 0 then 0 else Int64.ofNat (1 <<< (p - 1))).toInt) := by
    obtain ⟨hlow', hhigh'⟩ := fitsInt32_toInt offset
    rw [Int32.toInt_toInt64, hhalf]
    constructor <;> omega
  rw [int32?_eq_some_iff, toInt_add hfits, Int32.toInt_toInt64, hhalf, eq_comm]

/-! ## The derived form -/

/-- The integer form of a filter with finite coefficients consists of the rounded integers, with the
peak repaying and half a unit added; there is one if these fit. -/
lemma toFixed_eq_ok_iff_rounded (hpeak : r.peak < r.taps.size) (hsize : r.taps.size < 2 ^ 31)
    (hp : p ≤ maxShift) {f : FixedTaps} :
    r.toFixed p = .ok f ↔ ∃ x gain offset, r.Rounded p x gain offset ∧
      r.FitsWords p r.peak x gain offset ∧ f.taps.size = r.taps.size ∧
      (∀ k < r.taps.size, (f.taps.getD k 0).toInt = r.repaid r.peak x gain k) ∧
      f.offset.toInt = offset + halfUnit p ∧ f.shift = p := by
  rw [toFixed_eq_ok_iff]
  constructor
  · rintro ⟨words, gain, offset, hwords, hgain, hrepay, hoffset, hword, hshift⟩
    rw [mapM_scaled?_eq_some_iff] at hwords
    rw [scaled?_eq_some_iff] at hgain hoffset
    rw [repay?_eq_some_iff hwords.1 hsize hpeak] at hrepay
    rw [offset_eq_some_iff hp] at hword
    refine ⟨_, gain.toInt, offset.toInt, ⟨hwords.2, hgain, hoffset⟩, ⟨?_, ?_, ?_, ?_, ?_⟩,
      hrepay.1, hrepay.2, hword, hshift⟩
    · exact fun k _ => fitsInt32_toInt _
    · exact fitsInt32_toInt gain
    · exact fitsInt32_toInt offset
    · have hpaid := (hrepay.2 r.peak hpeak).trans (r.repaid_self _ _ _)
      exact hpaid ▸ fitsInt32_toInt _
    · exact hword ▸ fitsInt32_toInt _
  · rintro ⟨x, gain, offset, hround, hfits, htaps, hrepaid, hoffset, hshift⟩
    let words : Array Int32 := Array.ofFn fun k : Fin r.taps.size => Int32.ofInt (x k)
    have hsize' : words.size = r.taps.size := Array.size_ofFn
    have hword : ∀ k < r.taps.size, (words.getD k 0).toInt = x k := by
      intro k hk
      simp [words, hk, toInt_ofInt32 (hfits.tap_fits k hk)]
    have hgain := toInt_ofInt32 hfits.gain_fits
    have hoffset' := toInt_ofInt32 hfits.offset_fits
    refine ⟨words, Int32.ofInt gain, Int32.ofInt offset, mapM_scaled?_eq_some_iff.mpr
      ⟨hsize', fun k hk => ?_⟩, ?_, (repay?_eq_some_iff hsize' hsize hpeak _).mpr
      ⟨htaps, fun k hk => ?_⟩, ?_, (offset_eq_some_iff hp).mpr ?_, hshift⟩
    · rw [hword k hk]
      exact hround.tap k hk
    · rw [scaled?_eq_some_iff, hgain]
      exact hround.gain
    · rw [hgain, hrepaid k hk]
      exact repaid_congr (fun j hj => (hword j hj).symm) gain hpeak hk
    · rw [scaled?_eq_some_iff, hoffset']
      exact hround.offset
    · rw [hoffset', hoffset]

/-- Where the integers fit, there is a form that consists of them. -/
lemma exists_toFixed_eq_ok (hpeak : r.peak < r.taps.size) (hsize : r.taps.size < 2 ^ 31)
    (hp : p ≤ maxShift) (hround : r.Rounded p x gain offset)
    (hfits : r.FitsWords p r.peak x gain offset) :
    ∃ f, r.toFixed p = .ok f ∧ f.taps.size = r.taps.size ∧
      (∀ k < r.taps.size, (f.taps.getD k 0).toInt = r.repaid r.peak x gain k) ∧
      f.offset.toInt = offset + halfUnit p ∧ f.shift = p := by
  have htap : ∀ k < r.taps.size, FitsInt32 (r.repaid r.peak x gain k) := by
    intro k hk
    by_cases hkm : k = r.peak
    · rw [hkm, repaid_self]
      exact hfits.repaid_fits
    · rw [repaid_of_ne hkm]
      exact hfits.tap_fits k hk
  let f : FixedTaps :=
    { taps := Array.ofFn fun k : Fin r.taps.size => Int32.ofInt (r.repaid r.peak x gain k)
      offset := Int32.ofInt (offset + halfUnit p)
      shift := p }
  have hread : ∀ k < r.taps.size, (f.taps.getD k 0).toInt = r.repaid r.peak x gain k := by
    intro k hk
    simp [f, hk, toInt_ofInt32 (htap k hk)]
  have hoffset : f.offset.toInt = offset + halfUnit p := toInt_ofInt32 hfits.half_fits
  exact ⟨f, (toFixed_eq_ok_iff_rounded hpeak hsize hp).mpr
    ⟨x, gain, offset, hround, hfits, Array.size_ofFn, hread, hoffset, rfl⟩,
    Array.size_ofFn, hread, hoffset, rfl⟩

/-- A derivation fails where a word is too wide, and nowhere else. -/
lemma exists_tooWide_of_toFixed {fault : TableFault} (h : r.toFixed p = .error fault) :
    ∃ c, fault = .tooWide c p := by
  unfold toFixed at h
  split at h
  · cases h
    exact ⟨_, rfl⟩
  split at h
  · cases h
    exact ⟨_, rfl⟩
  dsimp only at h
  split at h
  · cases h
    exact ⟨_, rfl⟩
  split at h
  · cases h
    exact ⟨_, rfl⟩
  · cases h

end RealTaps

/-! ## Derived tables -/

/-- The reach of a form that consists of the integers `y` and `offset`. -/
lemma FixedTaps.fitsInt64_reach_iff {f : FixedTaps} {n : ℕ} {y : ℕ → ℤ} {offset : ℤ}
    (htaps : f.taps.size = n) (hy : ∀ k < n, (f.taps.getD k 0).toInt = y k)
    (hoffset : f.offset.toInt = offset) :
    FitsInt64 f.reach ↔ |offset| + 65535 * ∑ k ∈ Finset.range n, |y k| ≤ 2 ^ 63 - 1 := by
  have hsum : ∑ k ∈ Finset.range n, |(f.taps.getD k 0).toInt| = ∑ k ∈ Finset.range n, |y k| :=
    Finset.sum_congr rfl fun k hk => by rw [hy k (Finset.mem_range.mp hk)]
  have hnonneg : 0 ≤ ∑ k ∈ Finset.range n, |y k| := Finset.sum_nonneg fun k _ => abs_nonneg _
  have hoffset' := abs_nonneg offset
  rw [reach_eq, htaps, hoffset, ← Finset.sum_mul, hsum, FitsInt64]
  omega

namespace TapSpec

variable {s : TapSpec}

/-- With its center and its coefficients in order, a filter is refused for want of an integer form,
for the shift of that form, or for its reach. -/
lemma build_eq_error (hcenter : s.center < s.size) (hfinite : s.real.isFinite = true)
    {fault : TableFault} (h : s.build = .error fault) :
    s.fixed = .error fault ∨ (∃ f, s.fixed = .ok f ∧ maxShift < f.shift) ∨
      fault = .accumulator := by
  rw [build, if_neg (by omega), if_neg (by omega), if_neg (by simp [hfinite])] at h
  split at h
  · rename_i hfixed
    cases h
    exact Or.inl hfixed
  · rename_i f hfixed
    split at h
    · rename_i hshift
      exact Or.inr (Or.inl ⟨f, hfixed, hshift⟩)
    · split at h
      · cases h
        exact Or.inr (Or.inr rfl)
      · cases h

end TapSpec

/-- A filter of three equal taps, whose gain of 64 is no multiple of three. -/
def TapSpec.thirds : TapSpec where
  real := { taps := #[1 / 3, 1 / 3, 1 / 3] }
  center := 1

end PlanarVideo
