import PlanarVideo.Proofs.Numeric.Word
import PlanarVideo.Proofs.Outcome
import PlanarVideo.TapTable.Build

/-!
# What an accepted table guarantees

`TapSpec.build` checks a stated filter step by step.  Here its outcome is read as one list of
properties, `TapTable.Accepted`: the center is a tap, the integer form has as many taps as the
float form, and the worst sum that 16-bit samples can produce fits the accumulator.  The last is
the meaning of the fold `FixedTaps.reach?`, whose early exit is shown to be a single comparison of
integers.
-/

namespace PlanarVideo

open Numeric

/-! ## The reach of an integer form -/

/-- A sum over an array, by index. -/
lemma sum_map_toList_eq_sum_range {α : Type} (a : Array α) (d : α) (f : α → ℤ) :
    (a.toList.map f).sum = ∑ k ∈ Finset.range a.size, f (a.getD k d) := by
  rw [← Array.length_toList, ← Fin.sum_univ_eq_sum_range (fun k => f (a.getD k d)),
    ← Fin.sum_univ_fun_getElem]
  simp

namespace FixedTaps

/-- The greatest magnitude that 16-bit samples can give to a sum of products with its offset. -/
def reach (f : FixedTaps) : ℤ :=
  |f.offset.toInt| + (f.taps.toList.map fun tap => |tap.toInt| * 65535).sum

lemma reach_eq (f : FixedTaps) :
    f.reach = |f.offset.toInt|
      + ∑ k ∈ Finset.range f.taps.size, |(f.taps.getD k 0).toInt| * 65535 := by
  rw [reach, sum_map_toList_eq_sum_range f.taps 0]

/-- One step of the fold of `reach?`. -/
def extendReach (reach : Int64) (tap : Int32) : Option Int64 :=
  (product? tap.toInt64.abs maxSample).bind (sum? reach)

lemma extendReach_ofInt {n : ℤ} (h : FitsInt64 n) (tap : Int32) :
    extendReach (Int64.ofInt n) tap = int64? (n + |tap.toInt| * 65535) := by
  have htap := abs_toInt_le tap
  have hfits : FitsInt64 (|tap.toInt| * 65535) := by
    constructor <;> nlinarith [abs_nonneg tap.toInt]
  have hproduct : product? tap.toInt64.abs maxSample
      = some (Int64.ofInt (|tap.toInt| * 65535)) := by
    have hmax : maxSample.toInt = 65535 := by decide
    rw [product?, toInt_abs_toInt64, hmax, int64?_eq_some hfits]
  rw [extendReach, hproduct, Option.bind_some, sum?, toInt_ofInt h, toInt_ofInt hfits]

/-- The sums of magnitudes only grow, so a fold that stops early would have ended too high. -/
lemma foldlM_extendReach (taps : List Int32) {n : ℤ} (h0 : 0 ≤ n) (h : FitsInt64 n) :
    taps.foldlM extendReach (Int64.ofInt n)
      = int64? (n + (taps.map fun tap => |tap.toInt| * 65535).sum) := by
  induction taps generalizing n with
  | nil => simp [int64?_eq_some h]
  | cons tap taps ih =>
    have htap : 0 ≤ |tap.toInt| * 65535 := by positivity
    rw [List.foldlM_cons, extendReach_ofInt h, List.map_cons, List.sum_cons, ← add_assoc]
    by_cases hstep : FitsInt64 (n + |tap.toInt| * 65535)
    · rw [int64?_eq_some hstep]
      exact ih (by omega) hstep
    · -- the fold stops here, and the terms that are left cannot bring the sum back
      have hrest : 0 ≤ (taps.map fun tap => |tap.toInt| * 65535).sum := by
        refine List.sum_nonneg fun x hx => ?_
        obtain ⟨tap, -, rfl⟩ := List.mem_map.mp hx
        positivity
      have hsum : ¬FitsInt64 (n + |tap.toInt| * 65535
          + (taps.map fun tap => |tap.toInt| * 65535).sum) := by
        simp only [FitsInt64] at *
        omega
      rw [int64?_eq_none hstep, int64?_eq_none hsum]
      rfl

lemma reach?_eq (f : FixedTaps) : f.reach? = int64? f.reach := by
  have habs := abs_toInt_le f.offset
  have hfits : FitsInt64 |f.offset.toInt| := by
    constructor <;> linarith [abs_nonneg f.offset.toInt]
  have hword : f.offset.toInt64.abs = Int64.ofInt |f.offset.toInt| := by
    rw [← toInt_abs_toInt64, Int64.ofInt_toInt]
  have hfold : f.reach? = f.taps.toList.foldlM extendReach f.offset.toInt64.abs := by
    rw [Array.foldlM_toList]
    rfl
  rw [hfold, hword, foldlM_extendReach _ (abs_nonneg _) hfits, reach]

end FixedTaps

/-! ## The length of the integer form -/

lemma RealTaps.size_of_repay? {r : RealTaps} {taps repaid : Array Int32} {residual : Int64}
    (h : r.repay? taps residual = some repaid) : repaid.size = taps.size := by
  unfold repay? at h
  split at h
  · obtain rfl := Option.some.inj h
    rfl
  · split at h
    · obtain rfl := Option.some.inj h
      rfl
    · obtain ⟨tap, -, rfl⟩ := Option.map_eq_some_iff.mp h
      exact Array.size_setIfInBounds

/-- The steps of a derivation that succeeds. -/
lemma RealTaps.toFixed_eq_ok_iff {r : RealTaps} {precision : ℕ} {f : FixedTaps} :
    r.toFixed precision = .ok f ↔
      ∃ rounded gain offset, r.taps.mapM (r.scaled? precision) = some rounded ∧
        r.scaled? precision r.total = some gain ∧
        r.repay? rounded (gain.toInt64 - rounded.foldl (fun sum tap => sum + tap.toInt64) 0)
          = some f.taps ∧
        r.scaled? precision r.offset = some offset ∧
        int32? (offset.toInt64
          + if precision = 0 then 0 else Int64.ofNat (1 <<< (precision - 1))) = some f.offset ∧
        f.shift = precision := by
  obtain ⟨taps, offset, shift⟩ := f
  unfold toFixed
  constructor
  · intro h
    split at h
    · cases h
    rename_i rounded hrounded
    split at h
    · cases h
    rename_i gain hgain
    dsimp only at h
    split at h
    · cases h
    rename_i taps hrepay
    split at h
    · cases h
    rename_i offset hoffset
    obtain ⟨rfl, rfl, rfl⟩ := FixedTaps.mk.inj (Except.ok.inj h)
    obtain ⟨word, hword, hhalf⟩ := Option.bind_eq_some_iff.mp hoffset
    exact ⟨rounded, gain, word, hrounded, hgain, hrepay, hword, hhalf, rfl⟩
  · rintro ⟨rounded, gain, word, hrounded, hgain, hrepay, hword, hhalf, rfl⟩
    simp only [hrounded, hgain, hrepay, hword, Option.bind_some, hhalf]

/-- The derived form has one integer tap for each float tap. -/
lemma RealTaps.size_of_toFixed {r : RealTaps} {precision : ℕ} {f : FixedTaps}
    (h : r.toFixed precision = .ok f) : f.taps.size = r.taps.size := by
  obtain ⟨rounded, _, _, hrounded, -, hrepay, -⟩ := toFixed_eq_ok_iff.mp h
  rw [Array.mapM_eq_mapM_toList] at hrounded
  obtain ⟨list, hlist, rfl⟩ := Option.map_eq_some_iff.mp hrounded
  exact (size_of_repay? hrepay).trans (mapM_eq_some_iff.mp hlist).length_eq.symm

lemma TapSpec.size_of_fixed {s : TapSpec} {f : FixedTaps} (h : s.fixed = .ok f) :
    f.taps.size = s.size := by
  unfold fixed at h
  split at h
  · split at h
    · obtain rfl := Except.ok.inj h
      assumption
    · cases h
  · split at h
    · exact RealTaps.size_of_toFixed h
    · cases h

/-! ## Accepted tables -/

/-- What the checks of `TapSpec.build` establish of a table. -/
structure TapTable.Accepted (t : TapTable) : Prop where
  center_lt : t.center < t.size
  isFinite : t.real.isFinite = true
  size_fixed : t.fixed.taps.size = t.size
  shift_le : t.fixed.shift ≤ maxShift
  fits : FitsInt64 t.fixed.reach

/-- The table is the outcome of building a stated filter. -/
def TapTable.IsBuilt (t : TapTable) : Prop :=
  ∃ s : TapSpec, s.build = .ok t

/-- A statement builds a table exactly if that table holds its data and passes the checks. -/
theorem TapSpec.build_eq_ok_iff {s : TapSpec} {t : TapTable} :
    s.build = .ok t ↔
      s.fixed = .ok t.fixed ∧ t.center = s.center ∧ t.real = s.real ∧ t.clip = s.clip ∧
        t.Accepted := by
  obtain ⟨center, real, fixed, clip⟩ := t
  constructor
  · intro h
    unfold build at h
    -- the checks in turn; that there are taps follows from the one after it
    split at h
    · cases h
    split at h
    · cases h
    rename_i hcenter
    split at h
    · cases h
    rename_i hfinite
    split at h
    · cases h
    rename_i fixed' hfixed
    split at h
    · cases h
    rename_i hshift
    split at h
    · cases h
    rename_i hreach
    obtain ⟨rfl, rfl, rfl, rfl⟩ := TapTable.mk.inj (Except.ok.inj h)
    refine ⟨hfixed, rfl, rfl, rfl, Nat.not_le.mp hcenter, by simpa using hfinite,
      size_of_fixed hfixed, Nat.not_lt.mp hshift, ?_⟩
    rw [← isSome_int64?_iff, ← FixedTaps.reach?_eq, Option.isSome_iff_ne_none]
    simpa using hreach
  · rintro ⟨hfixed, rfl, rfl, rfl, h⟩
    have hcenter : s.center < s.size := h.center_lt
    have hfinite : s.real.isFinite = true := h.isFinite
    have hreach : fixed.reach?.isNone = false := by
      rw [FixedTaps.reach?_eq, int64?_eq_some h.fits, Option.isNone_some]
    rw [build, if_neg (by omega), if_neg (by omega), if_neg (by simp [hfinite]), hfixed]
    exact (if_neg (Nat.not_lt.mpr h.shift_le)).trans (if_neg (by simp [hreach]))

namespace TapTable

lemma IsBuilt.accepted {t : TapTable} (h : t.IsBuilt) : t.Accepted := by
  obtain ⟨s, hs⟩ := h
  exact (TapSpec.build_eq_ok_iff.mp hs).2.2.2.2

/-- An accepted table is built again from its own data, at whatever precision. -/
lemma Accepted.build_toSpec {t : TapTable} (h : t.Accepted) (precision : ℕ) :
    (t.toSpec precision).build = .ok t :=
  TapSpec.build_eq_ok_iff.mpr ⟨if_pos h.size_fixed, rfl, rfl, rfl, h⟩

lemma isBuilt_iff_accepted {t : TapTable} : t.IsBuilt ↔ t.Accepted :=
  ⟨IsBuilt.accepted, fun h => ⟨t.toSpec defaultPrecision, h.build_toSpec _⟩⟩

/-- Whether a table clips is not among the things that are checked. -/
lemma Accepted.withClip {t : TapTable} (h : t.Accepted) (clip : Bool) :
    { t with clip := clip }.Accepted :=
  ⟨h.center_lt, h.isFinite, h.size_fixed, h.shift_le, h.fits⟩

/-- A table of unit gain that overshoots to the left of a rising edge. -/
def sharpen : TapTable where
  center := 0
  real := { taps := #[1.5, -0.5] }
  fixed := { taps := #[3, -1], offset := 1, shift := 1 }
  clip := true

lemma sharpen_accepted : sharpen.Accepted where
  center_lt := by decide
  isFinite := by decide +kernel
  size_fixed := rfl
  shift_le := by decide
  fits := by decide

end TapTable

end PlanarVideo
