import PlanarVideo.Proofs.RangeGuard.LocalRange

/-!
# Nested windows

A window that lies inside another one has fewer levels, and so a narrower range.  A result that
leaves the wider range leaves the narrower one too, at every anchor: the border repeats samples, but
it repeats the same ones for both windows.  This compares the two corrections that substitute the
fallback result, which differ in their standard window only.
-/

namespace PlanarVideo

open Numeric

/-! ## Tables with nested windows -/

/-- The taps of `t` reach at least as far to both sides of the anchor as those of `t'`. -/
structure TapTable.Covers (t t' : TapTable) : Prop where
  left : t'.center ≤ t.center
  right : t'.size - t'.center ≤ t.size - t.center

namespace TapTable

variable {t t' : TapTable}

/-- Each tap of the narrower table has a tap of the wider one that reads the same column. -/
lemma Covers.exists_windowColumn_eq (h : t.Covers t') (hcenter : t'.center < t'.size) {j : ℕ}
    (hj : j < t'.size) (pos last : ℕ) :
    ∃ i < t.size, t.windowColumn pos i last = t'.windowColumn pos j last := by
  obtain ⟨hleft, hright⟩ := h
  refine ⟨j + (t.center - t'.center), by omega, ?_⟩
  have hanchor : (pos : ℤ) + (j + (t.center - t'.center) : ℕ) - t.center = pos + j - t'.center := by
    omega
  rw [windowColumn, windowColumn, hanchor]

lemma Covers.windowLevels_subset (h : t.Covers t') (hcenter : t'.center < t'.size)
    (level : ℕ → Float) (pos last : ℕ) :
    t'.windowLevels level pos last ⊆ t.windowLevels level pos last := by
  intro x hx
  obtain ⟨j, hj, rfl⟩ := List.mem_map.mp hx
  obtain ⟨i, hi, hcolumn⟩ := h.exists_windowColumn_eq hcenter (List.mem_range.mp hj) pos last
  exact List.mem_map.mpr ⟨i, List.mem_range.mpr hi, congrArg level hcolumn⟩

end TapTable

/-- The value is above the highest level or below the lowest. -/
def Leaves (levels : List Float) (value : Float) : Prop :=
  highest levels < value ∨ value < lowest levels

/-- What leaves the range of some levels leaves that of fewer ones. -/
lemma Leaves.of_subset {levels levels' : List Float} {value : Float} (h : Leaves levels value)
    (hsubset : levels' ⊆ levels) : Leaves levels' value := by
  rcases h with hover | hunder
  · exact Or.inl (double_lt_of_le_of_lt (highest_le_highest hsubset) hover)
  · exact Or.inr (double_lt_of_lt_of_le hunder (lowest_le_lowest hsubset))

/-! ## Corrected results -/

namespace RangeGuard

variable {g : RangeGuard} {primary : TapTable} {row : Array Float32} {pos last : ℕ}

/-- The guard that a correction gets if no window is named. -/
def standard (correction : Correction) (fallback : TapTable) : RangeGuard where
  correction
  fallback
  window := .standard (some correction)

lemma ofPolicy_eq_standard (correction : Correction) (fallback : TapTable) :
    ofPolicy (some correction) (some fallback) none = .ok (some (standard correction fallback)) :=
  rfl

/-- The levels in the window that gives the guard its range. -/
def rangeLevels (g : RangeGuard) (row : Array Float32) (primary : TapTable) (pos last : ℕ) :
    List Float :=
  (g.rangeTable primary).windowLevels (SampleKind.float32.levels row) pos last

/-- The primary result leaves the range of the guard, which does not keep it then. -/
def Corrects (g : RangeGuard) (row : Array Float32) (primary : TapTable) (pos last : ℕ) : Prop :=
  ∃ value, filtered .float32 row primary pos last = .ok value ∧
    Leaves (g.rangeLevels row primary pos last) value

lemma corrects_iff (hprimary : primary.Accepted) (hlast : last < row.size) :
    g.Corrects row primary pos last ↔
      Leaves (g.rangeLevels row primary pos last)
        (primary.result .float32 (SampleKind.float32.levels row) pos last) := by
  rw [Corrects, filtered_eq_ok hprimary .float32 row pos hlast]
  simp

/-- Another correction than clamping puts in the fallback result where the guard corrects. -/
lemma guarded_of_corrects (hprimary : primary.Accepted) (hfallback : g.fallback.Accepted)
    (hlast : last < row.size) (hg : g.correction ≠ .clamp) (h : g.Corrects row primary pos last) :
    guarded .float32 (some g) row primary pos last
      = .ok (g.fallback.result .float32 (SampleKind.float32.levels row) pos last) := by
  rw [corrects_iff hprimary hlast] at h
  rw [guarded, corrected_eq_ok hprimary hfallback row pos hlast, plain]
  cases hcorrection : g.correction with
  | recompute | blend => exact congrArg Except.ok (if_pos h)
  | clamp => exact absurd hcorrection hg

/-- It keeps the primary result elsewhere. -/
lemma guarded_of_not_corrects (hprimary : primary.Accepted) (hfallback : g.fallback.Accepted)
    (hlast : last < row.size) (hg : g.correction ≠ .clamp) (h : ¬g.Corrects row primary pos last) :
    guarded .float32 (some g) row primary pos last
      = .ok (primary.result .float32 (SampleKind.float32.levels row) pos last) := by
  rw [corrects_iff hprimary hlast] at h
  rw [guarded, corrected_eq_ok hprimary hfallback row pos hlast, plain]
  cases hcorrection : g.correction with
  | recompute | blend => exact congrArg Except.ok (if_neg h)
  | clamp => exact absurd hcorrection hg

/-- What leaves the range under the primary table leaves that under a fallback table inside it. -/
lemma corrects_of_covers {fallback : TapTable} (hprimary : primary.Accepted)
    (hfallback : fallback.Accepted) (hcovers : primary.Covers fallback) (hlast : last < row.size)
    (h : (standard .recompute fallback).Corrects row primary pos last) :
    (standard .blend fallback).Corrects row primary pos last := by
  rw [corrects_iff hprimary hlast] at h ⊢
  exact h.of_subset (hcovers.windowLevels_subset hfallback.center_lt _ _ _)

end RangeGuard

/-- A table of unit gain that overshoots on both sides of an edge. -/
def TapTable.crisp : TapTable where
  center := 1
  real := { taps := #[-0.5, 2, -0.5] }
  fixed := { taps := #[-1, 4, -1], offset := 1, shift := 1 }
  clip := false

lemma TapTable.crisp_accepted : crisp.Accepted where
  center_lt := by decide
  isFinite := by decide +kernel
  size_fixed := rfl
  shift_le := by decide
  fits := by decide

end PlanarVideo
