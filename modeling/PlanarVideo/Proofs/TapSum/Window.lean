import PlanarVideo.Proofs.Outcome
import PlanarVideo.Proofs.TapTable.Accepted
import PlanarVideo.TapSum

/-!
# The window of a filter

A tap sum in plain terms, free of checked accesses.  The window of a table at an anchor column is
the list of its taps, each beside the level in its column, and `weightedSum` adds up the products
in tap order.  An accepted table never fails inside a row, and what it gives is this plain sum: a
filter knows a row only by the levels in its window.
-/

namespace PlanarVideo

namespace SampleKind

/-- The levels of a row by column. -/
def levels (k : SampleKind) (row : Array k.Sample) (c : ℕ) : k.Acc :=
  k.load (row.getD c k.blank)

/-- The coefficient of tap `j` in the form that the kind uses. -/
def coefficient : (k : SampleKind) → TapTable → ℕ → k.Acc
  | float32, t, j => t.real.taps.getD j 0
  | uint16, t, j => (t.fixed.taps.getD j 0).toInt64
  | uint8, t, j => (t.fixed.taps.getD j 0).toInt64

/-- The sum of the products of coefficients and levels, in order. -/
def weightedSum (k : SampleKind) (window : List (k.Acc × k.Acc)) : k.Acc :=
  window.foldl (fun sum p => sum + p.1 * p.2) k.zero

end SampleKind

namespace TapTable

/-- The column `pos + j - center`, moved into `[0, last]`. -/
def windowColumn (t : TapTable) (pos j last : ℕ) : ℕ :=
  (max 0 (min ((pos : ℤ) + j - t.center) last)).toNat

lemma column_eq_windowColumn (t : TapTable) (pos j last : ℕ) :
    t.column pos j last = t.windowColumn pos j last := by
  simp only [column, windowColumn]
  omega

lemma windowColumn_le_last (t : TapTable) (pos j last : ℕ) : t.windowColumn pos j last ≤ last := by
  rw [← column_eq_windowColumn]
  exact t.column_le_last pos j last

variable {t : TapTable} {k : SampleKind} {level level' : ℕ → k.Acc} {pos pos' last last' : ℕ}

/-- The coefficients of the table, each with the level in its column. -/
def window (t : TapTable) (k : SampleKind) (level : ℕ → k.Acc) (pos last : ℕ) :
    List (k.Acc × k.Acc) :=
  (List.range t.size).map fun j => (k.coefficient t j, level (t.column pos j last))

/-- The result of the table on the levels in its window. -/
def result (t : TapTable) (k : SampleKind) (level : ℕ → k.Acc) (pos last : ℕ) : k.Acc :=
  k.settle t (k.weightedSum (t.window k level pos last))

/-- Two rows hold the same levels in the windows of the table at two anchors. -/
def SameWindow {α : Type} (t : TapTable) (level : ℕ → α) (pos last : ℕ) (level' : ℕ → α)
    (pos' last' : ℕ) : Prop :=
  ∀ j < t.size, level (t.column pos j last) = level' (t.column pos' j last')

lemma window_congr (h : t.SameWindow level pos last level' pos' last') :
    t.window k level pos last = t.window k level' pos' last' := by
  refine List.map_congr_left fun j hj => ?_
  rw [h j (List.mem_range.mp hj)]

lemma result_congr (h : t.SameWindow level pos last level' pos' last') :
    t.result k level pos last = t.result k level' pos' last' := by
  rw [result, result, window_congr h]

end TapTable

/-! ## The checked accesses succeed -/

section

variable {t : TapTable}

lemma tap_eq_ok (h : t.Accepted) (k : SampleKind) {j : ℕ} (hj : j < t.size) :
    k.tap t j = .ok (k.coefficient t j) := by
  have hreal : j < t.real.taps.size := hj
  have hfixed : j < t.fixed.taps.size := by rwa [h.size_fixed]
  cases k <;> simp [SampleKind.tap, SampleKind.coefficient, fetch_eq_ok, hreal, hfixed, Except.map]

lemma fetch_column_eq_ok {α : Type} (t : TapTable) (row : Array α) (d : α) (pos j : ℕ) {last : ℕ}
    (hlast : last < row.size) :
    fetch row (t.column pos j last) = .ok (row.getD (t.column pos j last) d) := by
  have hcolumn : t.column pos j last < row.size := (t.column_le_last pos j last).trans_lt hlast
  simp [fetch_eq_ok, hcolumn]

/-- A walk over the taps of a table and the samples in their columns is a fold over its window. -/
lemma foldlM_taps_eq_ok {β : Type} (h : t.Accepted) (k : SampleKind) (f : β → k.Acc → k.Acc → β)
    (row : Array k.Sample) (pos : ℕ) {last : ℕ} (hlast : last < row.size) (b : β) :
    (List.range t.size).foldlM
        (fun b j => do
          let tap ← k.tap t j
          let x ← fetch row (t.column pos j last)
          return f b tap (k.load x))
        b
      = (.ok ((t.window k (k.levels row) pos last).foldl (fun b p => f b p.1 p.2) b) :
          Except DecimationError β) := by
  rw [TapTable.window, List.foldl_map]
  refine foldlM_eq_ok_foldl (fun j hj b => ?_) b
  -- neither access of the step fails
  rw [tap_eq_ok h k (List.mem_range.mp hj), fetch_column_eq_ok t row k.blank pos j hlast]
  rfl

lemma tapSum_eq_ok (h : t.Accepted) (k : SampleKind) (row : Array k.Sample) (pos : ℕ) {last : ℕ}
    (hlast : last < row.size) :
    tapSum k row t pos last = .ok (k.weightedSum (t.window k (k.levels row) pos last)) :=
  foldlM_taps_eq_ok h k (fun sum tap x => sum + tap * x) row pos hlast k.zero

lemma filtered_eq_ok (h : t.Accepted) (k : SampleKind) (row : Array k.Sample) (pos : ℕ) {last : ℕ}
    (hlast : last < row.size) :
    filtered k row t pos last = .ok (t.result k (k.levels row) pos last) := by
  rw [filtered, tapSum_eq_ok h k row pos hlast]
  rfl

end

end PlanarVideo
