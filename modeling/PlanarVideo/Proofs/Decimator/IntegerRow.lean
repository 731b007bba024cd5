import PlanarVideo.Proofs.Decimator.Row
import PlanarVideo.Proofs.TapSum.Exact

/-!
# Integer rows

On words and bytes an output sample is a number computed from numbers: the exact result of the
primary table, moved into the clip range if the table clips, then into the range of the kind.
`Decimator.exactSample` is this number, and the sample that a built decimator stores stands for it.
Each step is a map of the integers, and what all steps preserve carries over to rows:

* `halveRow_monotone`: without negative taps, lower rows give lower rows;
* `guarded_raise`: at unit gain, raising all levels by a constant raises all results by it.
-/

namespace PlanarVideo

open Numeric

/-! ## Exact results -/

namespace TapTable

variable {t : TapTable} {level level' : ℕ → ℤ} {last : ℕ}

/-- Taps that are not negative keep the order of two rows, and so does rounding down. -/
lemma exactResult_le_exactResult (hnonneg : ∀ j < t.size, 0 ≤ t.integerTap j)
    (h : ∀ c ≤ last, level c ≤ level' c) (pos : ℕ) :
    t.exactResult level pos last ≤ t.exactResult level' pos last := by
  have hsum : t.exactSum level pos last t.size ≤ t.exactSum level' pos last t.size := by
    refine Finset.sum_le_sum fun j hj => ?_
    exact mul_le_mul_of_nonneg_left (h _ (t.windowColumn_le_last pos j last))
      (hnonneg j (Finset.mem_range.mp hj))
  exact Int.ediv_le_ediv (by positivity) (by linarith)

/-- At unit gain, a constant that is added to all levels comes out of the sum as a multiple of the
unit, and passes the division whole. -/
lemma exactResult_raise (hgain : ∑ j ∈ Finset.range t.size, t.integerTap j = 2 ^ t.fixed.shift)
    {c : ℤ} (h : ∀ i ≤ last, level' i = level i + c) (pos : ℕ) :
    t.exactResult level' pos last = t.exactResult level pos last + c := by
  have hunit : (2 : ℤ) ^ t.fixed.shift ≠ 0 := by positivity
  have hsum : t.exactSum level' pos last t.size
      = t.exactSum level pos last t.size + c * 2 ^ t.fixed.shift :=
    calc t.exactSum level' pos last t.size
        = ∑ j ∈ Finset.range t.size,
            (t.exactProduct level pos last j + t.integerTap j * c) := by
          refine Finset.sum_congr rfl fun j _ => ?_
          rw [exactProduct, h _ (t.windowColumn_le_last pos j last), mul_add, exactProduct]
      _ = t.exactSum level pos last t.size + c * 2 ^ t.fixed.shift := by
          rw [Finset.sum_add_distrib, ← Finset.sum_mul, hgain, exactSum, mul_comm c]
  rw [exactResult, hsum, add_right_comm, Int.add_mul_ediv_right _ _ hunit, exactResult]

end TapTable

/-! ## Exact samples -/

namespace Decimator

variable {d : Decimator} {k : IntegerKind}

/-- Output sample `i` as a number, for a row given by its levels and its final column. -/
def exactSample (d : Decimator) (k : IntegerKind) (level : ℕ → ℤ) (last : ℕ) (low high : ℤ)
    (i : ℕ) : ℤ :=
  let value := d.primary.exactResult level (2 * i) last
  k.saturate (if d.primary.clip then clampLevel value low high else value)

lemma level_plainSample (hd : d.IsBuilt) {src : Array k.kind.Sample} (hsrc : src.size ≠ 0)
    (low high : k.kind.Acc) (i : ℕ) :
    k.level (d.plainSample k.kind (k.kind.levels src) (src.size - 1) low high i)
      = d.exactSample k (k.levels src) (src.size - 1) (k.toInt low) (k.toInt high) i := by
  have hlast : src.size - 1 < src.size := by omega
  have hvalue : plainGuarded k.kind d.guard d.primary (k.kind.levels src) (2 * i) (src.size - 1)
      = d.primary.result k.kind (k.kind.levels src) (2 * i) (src.size - 1) := by
    cases k <;> rfl
  have hresult := toInt_result hd.primary.accepted k src (2 * i) hlast
  rw [plainSample, k.level_store, hvalue, exactSample, ← hresult]
  split_ifs
  · rw [k.toInt_clamp]
  · rfl

/-- The levels that a built decimator writes. -/
lemma levels_of_halveRow (hd : d.IsBuilt) {src dst row : Array k.kind.Sample}
    {low high : k.kind.Acc} (hsrc : src.size ≠ 0)
    (h : d.halveRow k.kind dst src low high = .ok row) {i : ℕ} (hi : i < dst.size) :
    k.levels row i
      = d.exactSample k (k.levels src) (src.size - 1) (k.toInt low) (k.toInt high) i := by
  rw [IntegerKind.levels, Array.getD_eq_getD_getElem?, getElem?_of_halveRow hd hsrc h hi,
    Option.getD_some, level_plainSample hd hsrc]

/-- No step of the way from a window to a sample turns the order of two rows round. -/
lemma exactSample_le_exactSample {level level' : ℕ → ℤ} {last : ℕ} {low high : ℤ}
    (hnonneg : ∀ j < d.primary.size, 0 ≤ d.primary.integerTap j)
    (h : ∀ c ≤ last, level c ≤ level' c) (hclip : d.primary.clip = true → low ≤ high) (i : ℕ) :
    d.exactSample k level last low high i ≤ d.exactSample k level' last low high i := by
  have hvalue := d.primary.exactResult_le_exactResult hnonneg h (2 * i)
  refine k.saturate_le_saturate ?_
  split_ifs with hclips
  · exact clampLevel_le_clampLevel (hclip hclips) hvalue
  · exact hvalue

end Decimator

/-- Takes the mean of two columns, and clips. -/
def Decimator.mean : Decimator :=
  .ofTable { TapTable.mean with clip := true }

lemma Decimator.mean_isBuilt : Decimator.mean.IsBuilt :=
  isBuilt_ofTable (TapTable.mean_accepted.withClip true)

/-- **Integer filtering is monotone.**  The primary table has no negative tap, and if it clips, its
range is not inverted.  Then if no sample of a row exceeds its counterpart in a second row of the
same length, no sample written for the first row exceeds its counterpart for the second, whatever
the destinations held. -/
theorem halveRow_monotone {d : Decimator} (hd : d.IsBuilt)
    (hnonneg : ∀ j < d.primary.size, 0 ≤ d.primary.integerTap j) (k : IntegerKind)
    (dst₁ dst₂ src₁ src₂ : Array k.kind.Sample) (low high : k.kind.Acc)
    (hdst : dst₂.size = dst₁.size) (hsrc : src₁.size ≠ 0) (hsize : src₂.size = src₁.size)
    (hle : ∀ c < src₁.size, k.levels src₁ c ≤ k.levels src₂ c)
    (hclip : d.primary.clip = true → k.toInt low ≤ k.toInt high) :
    ∃ row₁ row₂, d.halveRow k.kind dst₁ src₁ low high = .ok row₁ ∧
      d.halveRow k.kind dst₂ src₂ low high = .ok row₂ ∧
      row₁.size = dst₁.size ∧ row₂.size = dst₁.size ∧
      ∀ i < dst₁.size, k.levels row₁ i ≤ k.levels row₂ i := by
  have hsrc₂ : src₂.size ≠ 0 := by rwa [hsize]
  obtain ⟨row₁, hrow₁⟩ := Decimator.exists_halveRow (k := k.kind) hd dst₁ src₁ low high
  obtain ⟨row₂, hrow₂⟩ := Decimator.exists_halveRow (k := k.kind) hd dst₂ src₂ low high
  refine ⟨row₁, row₂, hrow₁, hrow₂, Decimator.size_of_halveRow hrow₁,
    (Decimator.size_of_halveRow hrow₂).trans hdst, ?_⟩
  intro i hi
  rw [Decimator.levels_of_halveRow hd hsrc hrow₁ hi,
    Decimator.levels_of_halveRow hd hsrc₂ hrow₂ (by rwa [hdst]), hsize]
  exact Decimator.exactSample_le_exactSample hnonneg (fun c hc => hle c (by omega)) hclip i

/-- The second byte is raised by one.  So is the mean of both; the mean at the border, which repeats
that byte, is at the top of the clip range already and stays there. -/
theorem halveRow_monotone_mean :
    Decimator.mean.IsBuilt ∧
      (∀ j < Decimator.mean.primary.size, 0 ≤ Decimator.mean.primary.integerTap j) ∧
      (#[10, 40] : Array UInt8).size ≠ 0 ∧
      (∀ c < 2, IntegerKind.byte.levels #[10, 40] c ≤ IntegerKind.byte.levels #[10, 41] c) ∧
      Decimator.mean.halveRow .uint8 #[0, 0] #[10, 40] 16 40 = .ok #[25, 40] ∧
      Decimator.mean.halveRow .uint8 #[7, 7] #[10, 41] 16 40 = .ok #[26, 40] ∧
      ∀ i < 2, IntegerKind.byte.levels #[25, 40] i ≤ IntegerKind.byte.levels #[26, 40] i := by
  have hnonneg : ∀ j < Decimator.mean.primary.size, 0 ≤ Decimator.mean.primary.integerTap j := by
    decide
  have hsrc : (#[10, 40] : Array UInt8).size ≠ 0 := by decide
  have hle : ∀ c < 2,
      IntegerKind.byte.levels #[10, 40] c ≤ IntegerKind.byte.levels #[10, 41] c := by
    decide
  obtain ⟨row₁, row₂, hrow₁, hrow₂, -, -, hrows⟩ :=
    halveRow_monotone Decimator.mean_isBuilt hnonneg .byte #[0, 0] #[7, 7] #[10, 40] #[10, 41]
      16 40 rfl hsrc rfl hle (fun _ => by decide)
  obtain rfl : #[25, 40] = row₁ := Except.ok.inj hrow₁
  obtain rfl : #[26, 40] = row₂ := Except.ok.inj hrow₂
  exact ⟨Decimator.mean_isBuilt, hnonneg, hsrc, hle, hrow₁, hrow₂, hrows⟩

/-! ## Raised rows -/

namespace IntegerKind

variable {k : IntegerKind} {c : ℤ}

/-- The sample `c` levels above a sample. -/
def raise (k : IntegerKind) (c : ℤ) (x : k.kind.Sample) : k.kind.Sample :=
  k.ofLevel (k.level x + c)

lemma level_raise {x : k.kind.Sample} (h : k.level x + c ∈ Set.Icc 0 k.top) :
    k.level (k.raise c x) = k.level x + c :=
  level_ofLevel h

lemma levels_map_raise {row : Array k.kind.Sample}
    (h : ∀ x ∈ row, k.level x + c ∈ Set.Icc 0 k.top) {i : ℕ} (hi : i < row.size) :
    k.levels (row.map (k.raise c)) i = k.levels row i + c := by
  have hraise := level_raise (h row[i] (Array.getElem_mem hi))
  simpa [levels, hi] using hraise

end IntegerKind

/-- What a table of unit gain makes of a raised row. -/
lemma TapTable.exactResult_map_raise {t : TapTable}
    (hgain : ∑ j ∈ Finset.range t.size, t.integerTap j = 2 ^ t.fixed.shift) {k : IntegerKind}
    {row : Array k.kind.Sample} {c : ℤ} (hrow : ∀ x ∈ row, k.level x + c ∈ Set.Icc 0 k.top)
    (pos : ℕ) {last : ℕ} (hlast : last < row.size) :
    t.exactResult (k.levels (row.map (k.raise c))) pos last
      = t.exactResult (k.levels row) pos last + c :=
  exactResult_raise hgain (fun _ hi => IntegerKind.levels_map_raise hrow (by omega)) pos

/-- Between ends that are samples, clamping leaves nothing to saturate. -/
lemma Decimator.levels_of_halveRow_of_clip {d : Decimator} (hclip : d.primary.clip = true)
    {k : IntegerKind} {src dst row : Array k.kind.Sample} {low high : k.kind.Sample}
    (hsrc : src.size ≠ 0)
    (h : d.halveRow k.kind dst src (k.kind.load low) (k.kind.load high) = .ok row) {i : ℕ}
    (hi : i < dst.size) {v : k.kind.Acc}
    (hv : guarded k.kind d.guard src d.primary (2 * i) (src.size - 1) = .ok v) :
    k.levels row i = clampLevel (k.toInt v) (k.level low) (k.level high) := by
  obtain ⟨hsize, hget⟩ := (halveRow_eq_ok_iff hsrc).mp h
  have hi' : i < row.size := by rwa [hsize]
  have hsample := hget i hi'
  rw [sampleAt, hv, ok_bind, if_pos hclip] at hsample
  have hstored : k.kind.store (k.kind.clamp v (k.kind.load low) (k.kind.load high)) = row[i] :=
    Except.ok.inj hsample
  have hclamped := clampLevel_mem_Icc (v := k.toInt v) (k.level_mem_levels low)
    (k.level_mem_levels high)
  have hlevel : k.levels row i = k.level row[i] := by simp [IntegerKind.levels, hi']
  rw [hlevel, ← hstored, k.level_store, k.toInt_clamp, k.toInt_load, k.toInt_load,
    IntegerKind.saturate_eq_self hclamped]

/-- **Levels shift through the integer path.**  Let the integer taps of a built table sum to the
unit `2 ^ shift`, and let `c` be such that all samples of a row can be raised by `c`.  Then the
result on the raised row is the result on the row plus `c`, at every anchor and final column.  If
the table clips, to ends that can be raised by `c` as well, every stored sample is the clamped
result itself, in both runs, and the samples of the raised row are those of the row plus `c`. -/
theorem guarded_raise {t : TapTable} (ht : t.IsBuilt)
    (hgain : ∑ j ∈ Finset.range t.size, t.integerTap j = 2 ^ t.fixed.shift) (k : IntegerKind)
    {g : Option RangeGuard} (hg : ∀ guard ∈ g, guard.fallback.IsBuilt) (phase : Phase)
    {row : Array k.kind.Sample} {c : ℤ} (hrow : ∀ x ∈ row, k.level x + c ∈ Set.Icc 0 k.top) :
    let raised := row.map (k.raise c)
    let d : Decimator := { phase, primary := t, guard := g }
    (∀ pos last, last < row.size → ∃ v w, guarded k.kind g row t pos last = .ok v ∧
      guarded k.kind g raised t pos last = .ok w ∧ k.toInt w = k.toInt v + c) ∧
    (t.clip = true → ∀ (dst dst' : Array k.kind.Sample) (low high : k.kind.Sample),
      dst'.size = dst.size →
      k.level low + c ∈ Set.Icc 0 k.top → k.level high + c ∈ Set.Icc 0 k.top →
      ∃ out out', d.halveRow k.kind dst row (k.kind.load low) (k.kind.load high) = .ok out ∧
        d.halveRow k.kind dst' raised (k.kind.load (k.raise c low)) (k.kind.load (k.raise c high))
          = .ok out' ∧
        out.size = dst.size ∧ out'.size = dst.size ∧
        (row.size ≠ 0 → ∀ i < dst.size, k.levels out' i = k.levels out i + c ∧
          ∃ v w, guarded k.kind g row t (2 * i) (row.size - 1) = .ok v ∧
            guarded k.kind g raised t (2 * i) (row.size - 1) = .ok w ∧
            k.levels out i = clampLevel (k.toInt v) (k.level low) (k.level high) ∧
            k.levels out' i
              = clampLevel (k.toInt w) (k.level low + c) (k.level high + c))) := by
  intro raised d
  have hd : d.IsBuilt := ⟨ht, hg⟩
  have hsize : raised.size = row.size := Array.size_map
  have hresult : ∀ pos last, last < row.size → ∃ v w, guarded k.kind g row t pos last = .ok v ∧
      guarded k.kind g raised t pos last = .ok w ∧ k.toInt w = k.toInt v + c := by
    intro pos last hlast
    obtain ⟨v, hv, hexactv⟩ := exists_guarded_eq_ok ht.accepted k g row pos hlast
    obtain ⟨w, hw, hexactw⟩ :=
      exists_guarded_eq_ok ht.accepted k g raised pos (hlast.trans_eq hsize.symm)
    refine ⟨v, w, hv, hw, ?_⟩
    rw [hexactw, hexactv, TapTable.exactResult_map_raise hgain hrow pos hlast]
  refine ⟨hresult, ?_⟩
  intro hclip dst dst' low high hdst hlow hhigh
  obtain ⟨out, hout⟩ := Decimator.exists_halveRow (k := k.kind) hd dst row (k.kind.load low)
    (k.kind.load high)
  obtain ⟨out', hout'⟩ := Decimator.exists_halveRow (k := k.kind) hd dst' raised
    (k.kind.load (k.raise c low)) (k.kind.load (k.raise c high))
  refine ⟨out, out', hout, hout', Decimator.size_of_halveRow hout,
    (Decimator.size_of_halveRow hout').trans hdst, ?_⟩
  intro hempty i hi
  obtain ⟨v, w, hv, hw, hraise⟩ := hresult (2 * i) (row.size - 1) (by omega)
  have hlevel := Decimator.levels_of_halveRow_of_clip (d := d) hclip hempty hout hi hv
  have hlevel' := Decimator.levels_of_halveRow_of_clip (d := d) hclip (hsize.trans_ne hempty)
    hout' (hi.trans_eq hdst.symm) (hsize ▸ hw)
  rw [IntegerKind.level_raise hlow, IntegerKind.level_raise hhigh] at hlevel'
  refine ⟨?_, v, w, hv, hw, hlevel, hlevel'⟩
  rw [hlevel', hlevel, hraise, clampLevel_add]

/-- Left of a rising edge, sharpening goes down to minus five and is clamped to twenty; thirty
levels higher, it goes down to twenty-five and is clamped to fifty. -/
theorem guarded_raise_edge :
    TapTable.sharpen.IsBuilt ∧
      ∑ j ∈ Finset.range TapTable.sharpen.size, TapTable.sharpen.integerTap j = 2 ^ 1 ∧
      (∀ x ∈ (#[10, 40] : Array UInt8), IntegerKind.byte.level x + 30 ∈ Set.Icc 0 255) ∧
      (∃ v w, guarded .uint8 none #[10, 40] .sharpen 0 1 = .ok v ∧
        guarded .uint8 none #[40, 70] .sharpen 0 1 = .ok w ∧ w.toInt = v.toInt + 30) ∧
      TapTable.sharpen.clip = true ∧
      ∃ out out', (Decimator.ofTable .sharpen).halveRow .uint8 #[0] #[10, 40] 20 220 = .ok out ∧
        (Decimator.ofTable .sharpen).halveRow .uint8 #[0] #[40, 70] 50 250 = .ok out' ∧
        IntegerKind.byte.levels out' 0 = IntegerKind.byte.levels out 0 + 30 := by
  have hbuilt := TapTable.isBuilt_iff_accepted.mpr TapTable.sharpen_accepted
  have hgain : ∑ j ∈ Finset.range TapTable.sharpen.size, TapTable.sharpen.integerTap j = 2 ^ 1 := by
    decide
  have hrow : ∀ x ∈ (#[10, 40] : Array UInt8),
      IntegerKind.byte.level x + 30 ∈ Set.Icc 0 255 := by
    intro x hx
    obtain rfl | rfl : x = 10 ∨ x = 40 := by simpa using hx
    · decide
    · decide
  have hraised : (#[10, 40] : Array UInt8).map (IntegerKind.byte.raise 30) = #[40, 70] := by
    simp only [List.map_toArray, List.map_cons, List.map_nil]
    rfl
  obtain ⟨hresult, hclipped⟩ :=
    guarded_raise hbuilt hgain .byte (g := none) (by simp) .coSited hrow
  rw [hraised] at hresult hclipped
  obtain ⟨out, out', hout, hout', -, -, hlevels⟩ :=
    hclipped rfl #[0] #[0] 20 220 rfl (by decide) (by decide)
  exact ⟨hbuilt, hgain, hrow, hresult 0 1 (by decide), rfl, out, out', hout, hout',
    (hlevels (by decide) 0 (by decide)).1⟩

end PlanarVideo
