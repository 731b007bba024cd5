import PlanarVideo.Proofs.TapSum.Window
import PlanarVideo.RangeGuard

/-!
# Range guards in plain terms

A guard walks a window once, for the tap sum and the local range together, and keeps the sum for
the filter that needs it.  Said plainly, there are two filter results and a range: the range is a
fold of `<` over the levels of one window, and the correction chooses between the results and the
ends of the range.  The two are shown to agree, operation by operation and in the same order, so
that no law of floating-point arithmetic is needed.
-/

namespace PlanarVideo

/-! ## The range of a window -/

/-- The least of the levels, found by `<` from positive infinity on; NaN is passed over. -/
def lowest (levels : List Float) : Float :=
  levels.foldl (fun low x => if x < low then x else low) (1 / 0)

/-- The greatest of the levels, found by `<` from negative infinity on; NaN is passed over. -/
def highest (levels : List Float) : Float :=
  levels.foldl (fun high x => if high < x then x else high) (-1 / 0)

namespace TapTable

/-- The levels in the window of the table, in tap order. -/
def windowLevels (t : TapTable) (level : ℕ → Float) (pos last : ℕ) : List Float :=
  (List.range t.size).map fun j => level (t.windowColumn pos j last)

/-- The tap sum of a window and its range, each found by a walk of its own. -/
def plainSurvey (t : TapTable) (level : ℕ → Float) (pos last : ℕ) : Survey where
  sum := SampleKind.float32.weightedSum (t.window .float32 level pos last)
  low := lowest (t.windowLevels level pos last)
  high := highest (t.windowLevels level pos last)

lemma map_snd_window (t : TapTable) (level : ℕ → Float) (pos last : ℕ) :
    (t.window .float32 level pos last).map Prod.snd = t.windowLevels level pos last := by
  simp [window, windowLevels, column_eq_windowColumn]

lemma plainSurvey_congr {t : TapTable} {level level' : ℕ → Float} {pos pos' last last' : ℕ}
    (h : t.SameWindow level pos last level' pos' last') :
    t.plainSurvey level pos last = t.plainSurvey level' pos' last' := by
  have hwindow : t.window .float32 level pos last = t.window .float32 level' pos' last' :=
    window_congr h
  simp only [plainSurvey, ← map_snd_window, hwindow]

end TapTable

/-- One walk for three quantities gives what three walks give. -/
lemma foldl_push (window : List (Float × Float)) (w : Survey) :
    window.foldl (fun w p => w.push p.1 p.2) w =
      { sum := window.foldl (fun sum p => sum + p.1 * p.2) w.sum
        low := (window.map Prod.snd).foldl (fun low x => if x < low then x else low) w.low
        high := (window.map Prod.snd).foldl (fun top x => if top < x then x else top) w.high } := by
  induction window generalizing w with
  | nil => rfl
  | cons p window ih => exact ih (w.push p.1 p.2)

lemma survey_eq_ok {t : TapTable} (h : t.Accepted) (row : Array Float32) (pos : ℕ) {last : ℕ}
    (hlast : last < row.size) :
    survey row t pos last = .ok (t.plainSurvey (SampleKind.float32.levels row) pos last) := by
  have hwalk := foldlM_taps_eq_ok h .float32 Survey.push row pos hlast .empty
  rw [foldl_push, TapTable.map_snd_window] at hwalk
  exact hwalk

lemma Survey.excludes_iff {w : Survey} {value : Float} :
    w.excludes value = true ↔ w.high < value ∨ value < w.low := by
  simp [excludes]

/-! ## Corrections -/

/-- What becomes of a result beside the local range `[low, high]`, given the result that may take
its place.  A result that is NaN is outside no range. -/
def Correction.choose (correction : Correction) (value substitute low high : Float) : Float :=
  match correction with
  | recompute | blend => if high < value ∨ value < low then substitute else value
  | clamp => if high < value then high else if value < low then low else value

namespace RangeGuard

variable {g : RangeGuard} {primary : TapTable}

/-- The table in whose window the local range is taken. -/
def rangeTable (g : RangeGuard) (primary : TapTable) : TapTable :=
  match g.window with
  | .primary => primary
  | .fallback => g.fallback

/-- The guarded result in plain terms. -/
def plain (g : RangeGuard) (primary : TapTable) (level : ℕ → Float) (pos last : ℕ) : Float :=
  let range := (g.rangeTable primary).plainSurvey level pos last
  g.correction.choose (primary.result .float32 level pos last)
    (g.fallback.result .float32 level pos last) range.low range.high

/-- Whether the samples under the fallback table can have an influence. -/
def ReadsFallback (g : RangeGuard) : Prop :=
  g.correction ≠ .clamp ∨ g.window = .fallback

/-- A guard reads the primary window, and also the fallback window unless it clamps to the range of
the primary one. -/
lemma plain_congr {level level' : ℕ → Float} {pos pos' last last' : ℕ}
    (hprimary : primary.SameWindow level pos last level' pos' last')
    (hfallback : g.ReadsFallback → g.fallback.SameWindow level pos last level' pos' last') :
    g.plain primary level pos last = g.plain primary level' pos' last' := by
  have hvalue : primary.result .float32 level pos last
      = primary.result .float32 level' pos' last' := TapTable.result_congr hprimary
  have hrange : (g.rangeTable primary).plainSurvey level pos last
      = (g.rangeTable primary).plainSurvey level' pos' last' := by
    unfold rangeTable
    cases hwindow : g.window with
    | primary => exact TapTable.plainSurvey_congr hprimary
    | fallback => exact TapTable.plainSurvey_congr (hfallback (Or.inr hwindow))
  unfold plain
  cases hcorrection : g.correction with
  | recompute | blend =>
    have hreads : g.ReadsFallback := Or.inl (by simp [hcorrection])
    have hsubstitute : g.fallback.result .float32 level pos last
        = g.fallback.result .float32 level' pos' last' := TapTable.result_congr (hfallback hreads)
    rw [hvalue, hrange, hsubstitute]
  | clamp =>
    -- the substitute is not looked at, and may differ
    simp only [hvalue, hrange, Correction.choose]

/-- The survey of the primary window holds the sum of the primary table. -/
lemma valueAndSurvey_eq_ok (hprimary : primary.Accepted) (hfallback : g.fallback.Accepted)
    (row : Array Float32) (pos : ℕ) {last : ℕ} (hlast : last < row.size) :
    g.valueAndSurvey row primary pos last =
      let level := SampleKind.float32.levels row
      .ok (primary.result .float32 level pos last,
        (g.rangeTable primary).plainSurvey level pos last) := by
  unfold valueAndSurvey rangeTable
  cases g.window with
  | primary =>
    rw [survey_eq_ok hprimary row pos hlast]
    rfl
  | fallback =>
    rw [filtered_eq_ok hprimary .float32 row pos hlast, survey_eq_ok hfallback row pos hlast]
    rfl

/-- The survey of the fallback window holds the sum of the fallback table. -/
lemma substitute_eq_ok (primary : TapTable) (hfallback : g.fallback.Accepted)
    (row : Array Float32) (pos : ℕ) {last : ℕ} (hlast : last < row.size) :
    g.substitute row ((g.rangeTable primary).plainSurvey (SampleKind.float32.levels row) pos last)
        pos last = .ok (g.fallback.result .float32 (SampleKind.float32.levels row) pos last) := by
  unfold substitute rangeTable
  cases g.window with
  | primary => exact filtered_eq_ok hfallback .float32 row pos hlast
  | fallback => rfl

lemma corrected_eq_ok (hprimary : primary.Accepted) (hfallback : g.fallback.Accepted)
    (row : Array Float32) (pos : ℕ) {last : ℕ} (hlast : last < row.size) :
    g.corrected row primary pos last
      = .ok (g.plain primary (SampleKind.float32.levels row) pos last) := by
  have hsubstitute := substitute_eq_ok primary hfallback row pos hlast
  rw [corrected, valueAndSurvey_eq_ok hprimary hfallback row pos hlast, ok_bind]
  unfold plain
  cases g.correction with
  | recompute | blend =>
    simp only [hsubstitute, Survey.excludes_iff, Correction.choose]
    exact (apply_ite Except.ok _ _ _).symm
  | clamp => rfl

end RangeGuard

/-! ## Guarded filters -/

/-- The guarded result of any kind in plain terms; integer samples are not corrected. -/
def plainGuarded : (k : SampleKind) → Option RangeGuard → TapTable → (level : ℕ → k.Acc) →
    (pos last : ℕ) → k.Acc
  | .float32, some g, primary, level, pos, last => g.plain primary level pos last
  | .float32, none, primary, level, pos, last => primary.result .float32 level pos last
  | .uint16, _, primary, level, pos, last => primary.result .uint16 level pos last
  | .uint8, _, primary, level, pos, last => primary.result .uint8 level pos last

section

variable {primary : TapTable} {guard : Option RangeGuard}

lemma plainGuarded_congr {k : SampleKind} {level level' : ℕ → k.Acc} {pos pos' last last' : ℕ}
    (hprimary : primary.SameWindow level pos last level' pos' last')
    (hfallback : k = .float32 → ∀ g ∈ guard, g.ReadsFallback →
      g.fallback.SameWindow level pos last level' pos' last') :
    plainGuarded k guard primary level pos last
      = plainGuarded k guard primary level' pos' last' := by
  cases k with
  | float32 =>
    cases guard with
    | none => exact TapTable.result_congr hprimary
    | some g => exact RangeGuard.plain_congr hprimary (hfallback rfl g rfl)
  | uint16 => exact TapTable.result_congr hprimary
  | uint8 => exact TapTable.result_congr hprimary

lemma guarded_eq_ok (hprimary : primary.Accepted) (hguard : ∀ g ∈ guard, g.fallback.Accepted)
    (k : SampleKind) (row : Array k.Sample) (pos : ℕ) {last : ℕ} (hlast : last < row.size) :
    guarded k guard row primary pos last
      = .ok (plainGuarded k guard primary (k.levels row) pos last) := by
  cases k with
  | float32 =>
    cases guard with
    | none => exact filtered_eq_ok hprimary .float32 row pos hlast
    | some g => exact RangeGuard.corrected_eq_ok hprimary (hguard g rfl) row pos hlast
  | uint16 => exact filtered_eq_ok hprimary .uint16 row pos hlast
  | uint8 => exact filtered_eq_ok hprimary .uint8 row pos hlast

/-- **The fused walk agrees with the plain definition.**  For built tables, `value` and
`substitute` the results of the two tables, and the range found by folding `<` over the levels of
the configured window in tap order, the guarded result is `value` without a guard; `substitute`
under a recomputing or blending guard if `value` leaves the range; and the nearer end of the range
under a clamping one. -/
theorem guarded_eq_choose (hprimary : primary.IsBuilt) (hguard : ∀ g ∈ guard, g.fallback.IsBuilt)
    (row : Array Float32) (pos : ℕ) {last : ℕ} (hlast : last < row.size) :
    ∃ value, filtered .float32 row primary pos last = .ok value ∧
      (guard = none → guarded .float32 guard row primary pos last = .ok value) ∧
      ∀ g ∈ guard, ∃ substitute, filtered .float32 row g.fallback pos last = .ok substitute ∧
        let range := (g.rangeTable primary).windowLevels (SampleKind.float32.levels row) pos last
        guarded .float32 guard row primary pos last
          = .ok (g.correction.choose value substitute (lowest range) (highest range)) := by
  have hvalue := filtered_eq_ok hprimary.accepted .float32 row pos hlast
  refine ⟨_, hvalue, ?_, ?_⟩
  · rintro rfl
    exact hvalue
  · intro g hg
    have hfallback := (hguard g hg).accepted
    obtain rfl := Option.mem_def.mp hg
    exact ⟨_, filtered_eq_ok hfallback .float32 row pos hlast,
      RangeGuard.corrected_eq_ok hprimary.accepted hfallback row pos hlast⟩

end

/-- A table of two equal taps. -/
def TapTable.mean : TapTable where
  center := 0
  real := { taps := #[0.5, 0.5] }
  fixed := { taps := #[1, 1], offset := 1, shift := 1 }
  clip := false

lemma TapTable.mean_accepted : mean.Accepted where
  center_lt := by decide
  isFinite := by decide +kernel
  size_fixed := rfl
  shift_le := by decide
  fits := by decide

/-- Left of a rising edge the sharpened level, minus five, leaves the range from ten to forty, and
the mean takes its place. -/
theorem guarded_eq_choose_edge :
    TapTable.sharpen.IsBuilt ∧ TapTable.mean.IsBuilt ∧ 1 < (#[10, 40] : Array Float32).size ∧
      guarded .float32 (some { correction := .recompute, fallback := .mean, window := .primary })
        #[10, 40] .sharpen 0 1 = .ok 25 := by
  have hsharpen := TapTable.isBuilt_iff_accepted.mpr TapTable.sharpen_accepted
  have hmean := TapTable.isBuilt_iff_accepted.mpr TapTable.mean_accepted
  have hlast : 1 < (#[10, 40] : Array Float32).size := by decide
  have hguard : ∀ g ∈ some { correction := .recompute, fallback := .mean, window := .primary },
      (RangeGuard.fallback g).IsBuilt := by
    rintro _ ⟨⟩
    exact hmean
  obtain ⟨value, hvalue, -, hguarded⟩ := guarded_eq_choose hsharpen hguard #[10, 40] 0 hlast
  obtain ⟨substitute, hsubstitute, hrun⟩ := hguarded _ rfl
  obtain rfl : -5 = value := Except.ok.inj hvalue
  obtain rfl : 25 = substitute := Except.ok.inj hsubstitute
  exact ⟨hsharpen, hmean, hlast, hrun.trans (by decide +kernel)⟩

end PlanarVideo
