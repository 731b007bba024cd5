import PlanarVideo.Proofs.Numeric.FloatConversion
import PlanarVideo.Proofs.RangeGuard.Plain

/-!
# The local range

The range that a guard compares with is folded from infinities on and passes over NaN.  It is shown
to be the range of the levels that are not NaN, as far as there are any.  There is one for sure
where the primary result is a number: every window of a built table covers the anchor column, and a
NaN there would have spoilt the sum.
-/

namespace PlanarVideo

open Numeric

/-! ## Ranges of levels -/

/-- `low` and `high` are the least and the greatest of the levels that are not NaN. -/
structure IsRange (levels : List Float) (low high : Float) : Prop where
  low_mem : low ∈ levels
  high_mem : high ∈ levels
  low_ne_nan : low ≠ .nan
  high_ne_nan : high ≠ .nan
  low_le : ∀ x ∈ levels, x ≠ .nan → low ≤ x
  le_high : ∀ x ∈ levels, x ≠ .nan → x ≤ high

variable {levels : List Float} {low high : Float}

/-- Levels that are not all NaN have a range. -/
lemma exists_isRange {x : Float} (hx : x ∈ levels) (hnan : x ≠ .nan) :
    ∃ low high, IsRange levels low high := by
  have hfinite : {x | x ∈ levels ∧ x ≠ .nan}.Finite := levels.finite_toSet.subset fun _ h => h.1
  have hnonempty : {x | x ∈ levels ∧ x ≠ .nan}.Nonempty := ⟨x, hx, hnan⟩
  obtain ⟨low, ⟨hlow, hlow'⟩, hmin⟩ := Set.exists_min_image _ doubleValue hfinite hnonempty
  obtain ⟨high, ⟨hhigh, hhigh'⟩, hmax⟩ := Set.exists_max_image _ doubleValue hfinite hnonempty
  exact ⟨low, high, hlow, hhigh, hlow', hhigh',
    fun y hy hy' => le_iff_value.mpr ⟨⟨hlow', hy'⟩, hmin y ⟨hy, hy'⟩⟩,
    fun y hy hy' => le_iff_value.mpr ⟨⟨hy', hhigh'⟩, hmax y ⟨hy, hy'⟩⟩⟩

/-- A fold that moves on to every better number ends with one that is as good as all. -/
lemma foldl_better {κ : Type} [LinearOrder κ] (key : Float → κ) (better : Float → Float → Prop)
    [DecidableRel better]
    (hbetter : ∀ x b, b ≠ .nan → (better x b ↔ x ≠ .nan ∧ key x < key b))
    (levels : List Float) {b : Float} (hb : b ≠ .nan) :
    let best := levels.foldl (fun b x => if better x b then x else b) b
    best ≠ .nan ∧ key best ≤ key b ∧ (∀ x ∈ levels, x ≠ .nan → key best ≤ key x) ∧
      (best = b ∨ best ∈ levels) := by
  induction levels generalizing b with
  | nil => simp [hb]
  | cons x levels ih =>
    simp only [List.foldl_cons, List.mem_cons, forall_eq_or_imp]
    by_cases h : better x b
    · obtain ⟨hx, hlt⟩ := (hbetter x b hb).mp h
      obtain ⟨hnan, hle, hall, hmem⟩ := ih hx
      rw [if_pos h]
      exact ⟨hnan, hle.trans hlt.le, ⟨fun _ => hle, hall⟩, Or.inr hmem⟩
    · obtain ⟨hnan, hle, hall, hmem⟩ := ih hb
      rw [if_neg h]
      refine ⟨hnan, hle, ⟨fun hx => ?_, hall⟩, hmem.imp_right Or.inr⟩
      -- the level that was passed over is no better than the one that was kept
      rw [hbetter x b hb, not_and, not_lt] at h
      exact hle.trans (h hx)

/-- The fold for the least level ends with a number that no level is below; it is one of the levels,
or the infinity that the fold starts from. -/
lemma lowest_spec (levels : List Float) :
    lowest levels ≠ .nan ∧
      (∀ x ∈ levels, x ≠ .nan → doubleValue (lowest levels) ≤ doubleValue x) ∧
      (lowest levels = 1 / 0 ∨ lowest levels ∈ levels) := by
  have hbetter : ∀ x b : Float, b ≠ .nan → (x < b ↔ x ≠ .nan ∧ doubleValue x < doubleValue b) := by
    intro x b hb
    rw [lt_iff_value, and_iff_left hb]
  obtain ⟨hnan, -, hall, hmem⟩ :=
    foldl_better doubleValue (fun x b => x < b) hbetter levels infinity_ne_nan
  exact ⟨hnan, hall, hmem⟩

/-- The fold for the greatest level ends with a number that no level is above. -/
lemma highest_spec (levels : List Float) :
    highest levels ≠ .nan ∧
      (∀ x ∈ levels, x ≠ .nan → doubleValue x ≤ doubleValue (highest levels)) ∧
      (highest levels = -1 / 0 ∨ highest levels ∈ levels) := by
  have hbetter : ∀ x b : Float, b ≠ .nan →
      (b < x ↔ x ≠ .nan ∧ OrderDual.toDual (doubleValue x) < OrderDual.toDual (doubleValue b)) := by
    intro x b hb
    rw [lt_iff_value, and_iff_right hb, OrderDual.toDual_lt_toDual]
  obtain ⟨hnan, -, hall, hmem⟩ := foldl_better (OrderDual.toDual ∘ doubleValue)
    (fun x b => b < x) hbetter levels neg_infinity_ne_nan
  exact ⟨hnan, hall, hmem⟩

/-- The fold for the least level finds it, if there is a number. -/
lemma IsRange.lowest (h : IsRange levels low high) :
    lowest levels ≠ .nan ∧ doubleValue (lowest levels) = doubleValue low := by
  obtain ⟨hnan, hall, hmem⟩ := lowest_spec levels
  refine ⟨hnan, le_antisymm (hall low h.low_mem h.low_ne_nan) ?_⟩
  rcases hmem with heq | hmem
  · rw [heq, doubleValue_infinity]
    exact le_top
  · exact (le_iff_value.mp (h.low_le _ hmem hnan)).2

/-- The fold for the greatest level finds it, if there is a number. -/
lemma IsRange.highest (h : IsRange levels low high) :
    highest levels ≠ .nan ∧ doubleValue (highest levels) = doubleValue high := by
  obtain ⟨hnan, hall, hmem⟩ := highest_spec levels
  refine ⟨hnan, le_antisymm ?_ (hall high h.high_mem h.high_ne_nan)⟩
  rcases hmem with heq | hmem
  · rw [heq, doubleValue_neg_infinity]
    exact bot_le
  · exact (le_iff_value.mp (h.le_high _ hmem hnan)).2

/-- Fewer levels have a greater least one. -/
lemma lowest_le_lowest {levels' : List Float} (h : levels' ⊆ levels) :
    lowest levels ≤ lowest levels' := by
  obtain ⟨hnan, hall, -⟩ := lowest_spec levels
  obtain ⟨hnan', -, hmem⟩ := lowest_spec levels'
  refine le_iff_value.mpr ⟨⟨hnan, hnan'⟩, ?_⟩
  rcases hmem with heq | hmem
  · rw [heq, doubleValue_infinity]
    exact le_top
  · exact hall _ (h hmem) hnan'

/-- Fewer levels have a smaller greatest one. -/
lemma highest_le_highest {levels' : List Float} (h : levels' ⊆ levels) :
    highest levels' ≤ highest levels := by
  obtain ⟨hnan, hall, -⟩ := highest_spec levels
  obtain ⟨hnan', -, hmem⟩ := highest_spec levels'
  refine le_iff_value.mpr ⟨⟨hnan', hnan⟩, ?_⟩
  rcases hmem with heq | hmem
  · rw [heq, doubleValue_neg_infinity]
    exact bot_le
  · exact hall _ (h hmem) hnan'

/-! ## Clamping -/

/-- A number that is clamped to the range of some levels lies in it, and stays if it did before. -/
lemma IsRange.clamp (h : IsRange levels low high) {value : Float} (hvalue : value ≠ .nan)
    (substitute : Float) :
    let result := Correction.clamp.choose value substitute (PlanarVideo.lowest levels)
      (PlanarVideo.highest levels)
    low ≤ result ∧ result ≤ high ∧ (low ≤ value → value ≤ high → result = value) := by
  obtain ⟨hlow, hlow'⟩ := h.lowest
  obtain ⟨hhigh, hhigh'⟩ := h.highest
  have hrange := (le_iff_value.mp (h.low_le high h.high_mem h.high_ne_nan)).2
  have hnan := h.low_ne_nan
  have hnan' := h.high_ne_nan
  intro result
  rcases lt_or_ge (doubleValue high) (doubleValue value) with hover | hover
  · -- above the range, the upper end takes its place
    have hresult : result = PlanarVideo.highest levels :=
      if_pos (lt_iff_value.mpr ⟨⟨hhigh, hvalue⟩, hhigh'.trans_lt hover⟩)
    rw [hresult]
    refine ⟨le_iff_value.mpr ⟨⟨hnan, hhigh⟩, hrange.trans_eq hhigh'.symm⟩,
      le_iff_value.mpr ⟨⟨hhigh, hnan'⟩, hhigh'.le⟩, fun _ hle => ?_⟩
    exact absurd (le_iff_value.mp hle).2 hover.not_ge
  · have hkeep : ¬PlanarVideo.highest levels < value := fun hlt =>
      hover.not_gt (hhigh'.symm.trans_lt (lt_iff_value.mp hlt).2)
    rcases lt_or_ge (doubleValue value) (doubleValue low) with hunder | hunder
    · have hresult : result = PlanarVideo.lowest levels :=
        (if_neg hkeep).trans
          (if_pos (lt_iff_value.mpr ⟨⟨hvalue, hlow⟩, hunder.trans_eq hlow'.symm⟩))
      rw [hresult]
      refine ⟨le_iff_value.mpr ⟨⟨hnan, hlow⟩, hlow'.ge⟩,
        le_iff_value.mpr ⟨⟨hlow, hnan'⟩, hlow'.trans_le hrange⟩, fun hle => ?_⟩
      exact absurd (le_iff_value.mp hle).2 hunder.not_ge
    · have hresult : result = value :=
        (if_neg hkeep).trans
          (if_neg fun hlt => hunder.not_gt ((lt_iff_value.mp hlt).2.trans_eq hlow'))
      rw [hresult]
      exact ⟨le_iff_value.mpr ⟨⟨hnan, hvalue⟩, hunder⟩, le_iff_value.mpr ⟨⟨hvalue, hnan'⟩, hover⟩,
        fun _ _ => rfl⟩

/-! ## The anchor column -/

/-- A sum with a NaN among its levels is NaN. -/
lemma weightedSum_eq_nan {window : List (Float × Float)} (h : .nan ∈ window.map Prod.snd) :
    SampleKind.float32.weightedSum window = .nan := by
  have hstuck : ∀ rest : List (Float × Float),
      rest.foldl (fun sum p => sum + p.1 * p.2) .nan = .nan := fun rest => by
    induction rest with
    | nil => rfl
    | cons p rest ih => rwa [List.foldl_cons, nan_add]
  have hfold : ∀ (rest : List (Float × Float)) (sum : Float), .nan ∈ rest.map Prod.snd →
      rest.foldl (fun sum p => sum + p.1 * p.2) sum = .nan := fun rest => by
    induction rest with
    | nil => simp
    | cons p rest ih =>
      intro sum hrest
      rw [List.map_cons, List.mem_cons] at hrest
      rw [List.foldl_cons]
      rcases hrest with hp | hrest
      · rw [← hp, mul_nan, add_nan, hstuck]
      · exact ih _ hrest
  exact hfold window 0 h

namespace TapTable

variable {t t' : TapTable} {level : ℕ → Float} {pos last : ℕ}

/-- The tap at the center reads the anchor column, or the last one of a row that ends before. -/
lemma anchor_mem_windowLevels (h : t.Accepted) (level : ℕ → Float) (pos last : ℕ) :
    level (min pos last) ∈ t.windowLevels level pos last := by
  refine List.mem_map.mpr ⟨t.center, List.mem_range.mpr h.center_lt, ?_⟩
  rw [← column_eq_windowColumn, column, Nat.add_sub_cancel]

lemma result_eq_nan (h : .nan ∈ t.windowLevels level pos last) :
    t.result .float32 level pos last = .nan := by
  rw [← map_snd_window] at h
  show (SampleKind.float32.weightedSum _ + t.real.offset) * t.real.scale = .nan
  rw [weightedSum_eq_nan h, nan_add, nan_mul]

/-- All windows at an anchor hold the anchor column, so where one table gives a number, the levels
under every other have a range. -/
lemma exists_isRange_of_result_ne_nan (h : t.Accepted) (h' : t'.Accepted)
    (hresult : t.result .float32 level pos last ≠ .nan) :
    ∃ low high, IsRange (t'.windowLevels level pos last) low high := by
  refine exists_isRange (anchor_mem_windowLevels h' level pos last) fun hnan => hresult ?_
  exact result_eq_nan (hnan ▸ anchor_mem_windowLevels h level pos last)

end TapTable

end PlanarVideo
