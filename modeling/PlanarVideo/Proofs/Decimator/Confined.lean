import PlanarVideo.Proofs.Decimator.Row
import PlanarVideo.Proofs.RangeGuard.LocalRange

/-!
# Clamped samples stay in the local range

A clamping guard confines a filtered sample to the range of the samples around it, and so does the
row that stores it: neither the clamp to a wider nominal range nor the narrowing to single precision
leads out of the local range again, since its ends are singles themselves.
-/

namespace PlanarVideo

open Numeric

/-! ## Results -/

section

variable {primary : TapTable} {g : RangeGuard} {level : ℕ → Float} {pos last : ℕ} {low high : Float}

/-- No correction replaces NaN. -/
lemma Correction.choose_nan (correction : Correction) (substitute low high : Float) :
    correction.choose .nan substitute low high = .nan := by
  have hlt : ∀ x : Float, ¬x < .nan := fun x h => (lt_iff_value.mp h).1.2 rfl
  have hgt : ∀ x : Float, ¬.nan < x := fun x h => (lt_iff_value.mp h).1.1 rfl
  cases correction <;> simp [choose, hlt, hgt]

namespace RangeGuard

lemma rangeTable_accepted (hprimary : primary.Accepted) (hfallback : g.fallback.Accepted) :
    (g.rangeTable primary).Accepted := by
  unfold rangeTable
  cases g.window with
  | primary => exact hprimary
  | fallback => exact hfallback

lemma plain_eq_nan (h : primary.result .float32 level pos last = .nan) :
    g.plain primary level pos last = .nan := by
  rw [plain, h]
  exact g.correction.choose_nan _ _ _

/-- A clamping guard moves a number into the local range, and not at all if it was there. -/
lemma plain_mem_range (hclamp : g.correction = .clamp)
    (hvalue : primary.result .float32 level pos last ≠ .nan)
    (hrange : IsRange ((g.rangeTable primary).windowLevels level pos last) low high) :
    low ≤ g.plain primary level pos last ∧ g.plain primary level pos last ≤ high ∧
      (low ≤ primary.result .float32 level pos last →
        primary.result .float32 level pos last ≤ high →
        g.plain primary level pos last = primary.result .float32 level pos last) := by
  rw [plain, hclamp]
  exact hrange.clamp hvalue _

end RangeGuard

end

/-! ## Stored samples -/

section

variable {t : TapTable} {row : Array Float32} {pos last : ℕ} {value low high bottom top : Float}

/-- Clamping to a wider range changes nothing. -/
lemma clamp_eq_self (hlow : low ≤ value) (hhigh : value ≤ high) (hbottom : bottom ≤ low)
    (htop : high ≤ top) : SampleKind.float32.clamp value bottom top = value := by
  have hbelow : ¬value < bottom := fun h =>
    (lt_iff_value.mp h).2.not_ge ((le_iff_value.mp hbottom).2.trans (le_iff_value.mp hlow).2)
  have habove : ¬top < value := fun h =>
    (lt_iff_value.mp h).2.not_ge ((le_iff_value.mp hhigh).2.trans (le_iff_value.mp htop).2)
  exact (if_neg hbelow).trans (if_neg habove)

/-- What is stored for a value between the ends of a range of samples lies between them too. -/
lemma IsRange.store (h : IsRange (t.windowLevels (SampleKind.float32.levels row) pos last) low high)
    (hlow : low ≤ value) (hhigh : value ≤ high) {clip : Bool}
    (hnominal : clip = false ∨ bottom ≤ low ∧ high ≤ top) :
    let x := SampleKind.float32.store
      (if clip then SampleKind.float32.clamp value bottom top else value)
    low ≤ toDouble x ∧ toDouble x ≤ high := by
  have hkeep : (if clip then SampleKind.float32.clamp value bottom top else value) = value := by
    rcases hnominal with rfl | ⟨hbottom, htop⟩
    · rfl
    · rw [clamp_eq_self hlow hhigh hbottom htop, ite_self]
  rw [hkeep]
  -- both ends are samples of the row
  obtain ⟨j, -, rfl⟩ := List.mem_map.mp h.low_mem
  obtain ⟨k, -, rfl⟩ := List.mem_map.mp h.high_mem
  exact ⟨le_toDouble_toSingle hlow, toDouble_toSingle_le hhigh⟩

end

/-- **A clamping guard confines to the local range.**  Take built tables, either range window, and a
row that may hold NaN and infinities.  Where the primary result is NaN, so is the guarded one.
Anywhere else some sample under the range window is not NaN; the guarded result lies between the
least and the greatest of these, and is the primary result if that does.  The sample stored for it
lies there too, unless the primary table clips and the nominal range is not wider. -/
theorem clamp_confines {primary : TapTable} {g : RangeGuard} (hprimary : primary.IsBuilt)
    (hfallback : g.fallback.IsBuilt) (hclamp : g.correction = .clamp) (phase : Phase)
    (row : Array Float32) :
    let levels := (g.rangeTable primary).windowLevels (SampleKind.float32.levels row)
    let d : Decimator := { phase, primary, guard := some g }
    (∀ pos last, last < row.size → ∃ value result,
      filtered .float32 row primary pos last = .ok value ∧
      guarded .float32 (some g) row primary pos last = .ok result ∧
      (value = .nan → result = .nan) ∧
      (value ≠ .nan → (∃ low high, IsRange (levels pos last) low high) ∧
        ∀ low high, IsRange (levels pos last) low high →
          low ≤ result ∧ result ≤ high ∧ (low ≤ value → value ≤ high → result = value))) ∧
    (∀ (dst : Array Float32) (bottom top : Float) (i : ℕ), row.size ≠ 0 → i < dst.size →
      ∃ value out x, filtered .float32 row primary (2 * i) (row.size - 1) = .ok value ∧
        d.halveRow .float32 dst row bottom top = .ok out ∧ out[i]? = some x ∧
        (value ≠ .nan → ∀ low high, IsRange (levels (2 * i) (row.size - 1)) low high →
          primary.clip = false ∨ bottom ≤ low ∧ high ≤ top →
          low ≤ toDouble x ∧ toDouble x ≤ high)) := by
  intro levels d
  have hrange := g.rangeTable_accepted hprimary.accepted hfallback.accepted
  constructor
  · intro pos last hlast
    refine ⟨_, _, filtered_eq_ok hprimary.accepted .float32 row pos hlast,
      RangeGuard.corrected_eq_ok hprimary.accepted hfallback.accepted row pos hlast,
      RangeGuard.plain_eq_nan, fun hvalue => ⟨?_, fun low high h => ?_⟩⟩
    · exact TapTable.exists_isRange_of_result_ne_nan hprimary.accepted hrange hvalue
    · exact RangeGuard.plain_mem_range hclamp hvalue h
  · intro dst bottom top i hrow hi
    have hd : d.IsBuilt := ⟨hprimary, by rintro _ ⟨⟩; exact hfallback⟩
    obtain ⟨out, hout⟩ := Decimator.exists_halveRow (k := .float32) hd dst row bottom top
    refine ⟨_, out, _, filtered_eq_ok hprimary.accepted .float32 row (2 * i) (by omega), hout,
      Decimator.getElem?_of_halveRow hd hrow hout hi, fun hvalue low high h hnominal => ?_⟩
    obtain ⟨hlow, hhigh, -⟩ := RangeGuard.plain_mem_range hclamp hvalue h
    exact h.store hlow hhigh hnominal

/-- Left of a rising edge from ten to forty, sharpening goes down to minus five; what is stored is
not below ten. -/
theorem clamp_confines_edge :
    TapTable.sharpen.IsBuilt ∧ TapTable.mean.IsBuilt ∧ (#[10, 40] : Array Float32).size ≠ 0 ∧
      ∃ out x, Decimator.halveRow
          { phase := .coSited, primary := .sharpen,
            guard := some { correction := .clamp, fallback := .mean, window := .fallback } }
          .float32 #[0] #[10, 40] (0 : Float) (255 : Float) = .ok out ∧
        out[0]? = some x ∧ 10 ≤ toDouble x ∧ toDouble x ≤ 40 := by
  have hsharpen := TapTable.isBuilt_iff_accepted.mpr TapTable.sharpen_accepted
  have hmean := TapTable.isBuilt_iff_accepted.mpr TapTable.mean_accepted
  have hrow : (#[10, 40] : Array Float32).size ≠ 0 := by decide
  obtain ⟨-, hstore⟩ := clamp_confines
    (g := { correction := .clamp, fallback := .mean, window := .fallback }) hsharpen hmean rfl
    .coSited #[10, 40]
  obtain ⟨value, out, x, hvalue, hout, hx, hconfined⟩ := hstore #[0] 0 255 0 hrow (by decide)
  obtain rfl : -5 = value := Except.ok.inj hvalue
  have hlevels :
      TapTable.mean.windowLevels (SampleKind.float32.levels #[10, 40]) 0 1 = [10, 40] := by
    decide +kernel
  have hrange : IsRange [10, 40] 10 40 :=
    { low_mem := by simp
      high_mem := by simp
      low_ne_nan := by decide +kernel
      high_ne_nan := by decide +kernel
      low_le := by decide +kernel
      le_high := by decide +kernel }
  exact ⟨hsharpen, hmean, hrow, out, x, hout, hx,
    hconfined (by decide +kernel) 10 40 (hlevels ▸ hrange) (Or.inr (by decide +kernel))⟩

end PlanarVideo
