import PlanarVideo.Proofs.Decimator.Row
import PlanarVideo.Decimator.Plane

/-!
# Planes row by row

`halvePlane` overwrites the rows of an output plane one after the other.  `RowsWritten` says what
the buffer looks like after the first `n` rows: each of them is the halved row of the input, and
nothing else has changed.  One step keeps it, hence every successful run ends with all rows
written, whatever the buffer held before.
-/

namespace PlanarVideo

open Numeric

/-! ## Rows of a buffer -/

section Rows

variable {α : Type}

/-- Row `y` of a buffer with rows of `width` samples. -/
def rowOf (samples : Array α) (width y : ℕ) : Array α :=
  samples.extract (width * y) (width * y + width)

variable {a b : Array α} {width height y : ℕ}

lemma mul_add_le_of_lt (hy : y < height) : width * y + width ≤ width * height :=
  Nat.mul_succ width y ▸ Nat.mul_le_mul_left width hy

lemma size_rowOf (h : width * y + width ≤ a.size) : (rowOf a width y).size = width := by
  rw [rowOf, Array.size_extract]
  omega

lemma getElem?_rowOf (a : Array α) (width y : ℕ) {j : ℕ} (hj : j < width) :
    (rowOf a width y)[j]? = a[width * y + j]? := by
  rw [rowOf, Array.getElem?_extract]
  split
  · rfl
  · rw [Array.getElem?_eq_none]
    omega

/-- Each index of a plane stands in a row and a column of it. -/
lemma exists_row_column {i : ℕ} (hi : i < width * height) :
    ∃ y < height, ∃ j < width, width * y + j = i := by
  have hwidth : 0 < width := Nat.pos_of_ne_zero (by rintro rfl; simp at hi)
  exact ⟨i / width, Nat.div_lt_of_lt_mul hi, i % width, Nat.mod_lt i hwidth,
    Nat.div_add_mod i width⟩

/-- Two buffers that consist of the same rows are equal. -/
lemma eq_of_rowOf_eq (ha : a.size = width * height) (hb : b.size = width * height)
    (h : ∀ y < height, rowOf a width y = rowOf b width y) : a = b := by
  refine Array.ext_getElem? fun i => ?_
  by_cases hi : i < width * height
  · obtain ⟨y, hy, j, hj, rfl⟩ := exists_row_column hi
    have hrow := congrArg (·[j]?) (h y hy)
    simpa only [getElem?_rowOf _ _ _ hj] using hrow
  · rw [Array.getElem?_eq_none (by omega), Array.getElem?_eq_none (by omega)]

lemma rowOf_overwrite_self {row : Array α} (hrow : row.size = width)
    (h : width * y + width ≤ a.size) : rowOf (overwrite a (width * y) row) width y = row := by
  refine Array.ext_getElem? fun j => ?_
  by_cases hj : j < width
  · rw [getElem?_rowOf _ _ _ hj, getElem?_overwrite, if_pos (by omega), Nat.add_sub_cancel_left]
  · rw [Array.getElem?_eq_none, Array.getElem?_eq_none (by omega)]
    rw [size_rowOf (by rwa [size_overwrite])]
    omega

lemma rowOf_congr (h : ∀ j < width, a[width * y + j]? = b[width * y + j]?) :
    rowOf a width y = rowOf b width y := by
  refine Array.ext_getElem? fun j => ?_
  by_cases hj : j < width
  · rw [getElem?_rowOf _ _ _ hj, getElem?_rowOf _ _ _ hj, h j hj]
  · have hsize : ∀ c : Array α, (rowOf c width y).size ≤ width := fun c => by
      rw [rowOf, Array.size_extract]
      omega
    rw [Array.getElem?_eq_none ((hsize a).trans (by omega)),
      Array.getElem?_eq_none ((hsize b).trans (by omega))]

lemma rowOf_map {β : Type} (f : α → β) (a : Array α) (width y : ℕ) :
    rowOf (a.map f) width y = (rowOf a width y).map f :=
  Array.map_extract.symm

lemma rowOf_overwrite_of_lt {row : Array α} {z : ℕ} (hz : z < y) :
    rowOf (overwrite a (width * y) row) width z = rowOf a width z := by
  have hle : width * z + width ≤ width * y := mul_add_le_of_lt hz
  refine rowOf_congr fun j hj => ?_
  rw [getElem?_overwrite, if_neg (by omega)]

end Rows

/-! ## Writing one row -/

namespace Decimator

variable {d : Decimator} {k : SampleKind} {inp out mid out' : Array k.Sample}
  {width height n : ℕ} {low high : k.Acc}

lemma writeRow_eq_ok_iff {y : ℕ} :
    d.writeRow k inp width low high y mid = .ok () out' ↔
      ∃ row, d.halveRow k (rowOf mid width y) (rowOf inp (2 * width) y) low high = .ok row ∧
        overwrite mid (width * y) row = out' := by
  rw [writeRow, run_get_bind, run_ofExcept_bind_eq_ok_iff]
  simp [run_set, rowOf]

/-! ## Writing the rows of a plane -/

/-- The first `n` rows of `out'` are the halved rows of `inp`, and `out'` is `out` elsewhere. -/
structure RowsWritten (d : Decimator) (k : SampleKind) (inp : Array k.Sample) (width : ℕ)
    (low high : k.Acc) (n : ℕ) (out out' : Array k.Sample) : Prop where
  size_eq : out'.size = out.size
  row_eq : ∀ y < n, ∀ old : Array k.Sample, old.size = width →
    d.halveRow k old (rowOf inp (2 * width) y) low high = .ok (rowOf out' width y)
  tail_eq : ∀ i, width * n ≤ i → out'[i]? = out[i]?

lemma RowsWritten.zero : RowsWritten d k inp width low high 0 out out :=
  ⟨rfl, fun y hy => absurd hy y.not_lt_zero, fun _ _ => rfl⟩

/-- Writing row `n` after the rows before it. -/
lemma RowsWritten.step (h : RowsWritten d k inp width low high n out mid) (hwidth : 0 < width)
    (hinp : 2 * width * (n + 1) ≤ inp.size) (hout : width * (n + 1) ≤ out.size)
    (hrun : d.writeRow k inp width low high n mid = .ok () out') :
    RowsWritten d k inp width low high (n + 1) out out' := by
  obtain ⟨row, hrow, rfl⟩ := writeRow_eq_ok_iff.mp hrun
  have hmid : width * n + width ≤ mid.size := by rw [h.size_eq]; linarith
  have hsize : row.size = width := (size_of_halveRow hrow).trans (size_rowOf hmid)
  refine ⟨(size_overwrite _ _ _).trans h.size_eq, fun y hy old hold => ?_, fun i hi => ?_⟩
  · rcases Nat.lt_succ_iff_lt_or_eq.mp hy with hlt | rfl
    · rw [rowOf_overwrite_of_lt hlt]
      exact h.row_eq y hlt old hold
    · -- the row just written: its source is not empty, so what it has replaced does not matter
      have hsrc : (rowOf inp (2 * width) y).size ≠ 0 := by
        rw [size_rowOf (by linarith)]
        omega
      rw [rowOf_overwrite_self hsize hmid, ← hrow]
      exact halveRow_congr_dst hsrc (hold.trans (size_rowOf hmid).symm)
  · rw [Nat.mul_succ] at hi
    rw [getElem?_overwrite, if_neg (by omega)]
    exact h.tail_eq i (by omega)

/-- The invariant of the loop over the rows. -/
lemma rowsWritten_of_forM (hwidth : 0 < width) (hinp : 2 * width * n ≤ inp.size)
    (hout : width * n ≤ out.size)
    (hrun : (List.range n).forM (d.writeRow k inp width low high) out = .ok () out') :
    RowsWritten d k inp width low high n out out' := by
  induction n generalizing out' with
  | zero =>
    cases hrun
    exact .zero
  | succ n ih =>
    obtain ⟨mid, hinit, hstep⟩ := forM_range_succ_eq_ok_iff.mp hrun
    exact (ih (by linarith) (by linarith) hinit).step hwidth hinp hout hstep

lemma exists_forM_writeRow (hout : width * height ≤ out.size)
    (hrows : ∀ y < height, ∀ old : Array k.Sample, old.size = width →
      ∃ row, d.halveRow k old (rowOf inp (2 * width) y) low high = .ok row) :
    ∃ out', (List.range height).forM (d.writeRow k inp width low high) out = .ok () out' := by
  have hstep : ∀ y ∈ List.range height, ∀ mid : Array k.Sample, mid.size = out.size →
      ∃ t, d.writeRow k inp width low high y mid = .ok () t ∧ t.size = out.size := by
    intro y hy mid hmid
    have hle : width * y + width ≤ mid.size := by
      rw [hmid]
      exact (mul_add_le_of_lt (List.mem_range.mp hy)).trans hout
    obtain ⟨row, hrow⟩ := hrows y (List.mem_range.mp hy) _ (size_rowOf hle)
    exact ⟨_, writeRow_eq_ok_iff.mpr ⟨row, hrow, rfl⟩, (size_overwrite _ _ _).trans hmid⟩
  obtain ⟨out', hrun, -⟩ := exists_forM_eq_ok hstep rfl
  exact ⟨out', hrun⟩

/-- The rows determine a buffer that has no sample beyond them. -/
lemma RowsWritten.unique {out₁ out₂ out₁' out₂' : Array k.Sample}
    (h₁ : RowsWritten d k inp width low high height out₁ out₁')
    (h₂ : RowsWritten d k inp width low high height out₂ out₂')
    (hout₁ : out₁.size = width * height) (hout₂ : out₂.size = width * height) : out₁' = out₂' := by
  refine eq_of_rowOf_eq (h₁.size_eq.trans hout₁) (h₂.size_eq.trans hout₂) fun y hy => ?_
  have hsize : (Array.replicate width k.blank).size = width := Array.size_replicate
  exact Except.ok.inj ((h₁.row_eq y hy _ hsize).symm.trans (h₂.row_eq y hy _ hsize))

/-! ## The outcome of a plane -/

lemma sizeProduct?_eq_some {a b : ℕ} (h : a * b < addressable) : sizeProduct? a b = some (a * b) :=
  if_pos h

lemma sizeProduct?_eq_none {a b : ℕ} (h : ¬a * b < addressable) : sizeProduct? a b = none :=
  if_neg h

/-- Buffers are accepted exactly if all lengths are sizes and both buffers reach them. -/
lemma bufferFault?_eq_none_iff {held given : ℕ} :
    bufferFault? width height held given = none ↔
      width * 2 < addressable ∧ width * height < addressable ∧
        width * 2 * height < addressable ∧ width * height ≤ held ∧
          width * 2 * height ≤ given := by
  unfold bufferFault?
  by_cases hwide : width * 2 < addressable
  · by_cases hout : width * height < addressable
    · by_cases hinp : width * 2 * height < addressable
      · by_cases hheld : held < width * height
        · simp [sizeProduct?_eq_some, hwide, hout, hinp, hheld]
        · simp [sizeProduct?_eq_some, hwide, hout, hinp, hheld, Nat.not_lt.mp hheld]
      · simp [sizeProduct?_eq_some, sizeProduct?_eq_none, hwide, hout, hinp]
    · simp [sizeProduct?_eq_some, sizeProduct?_eq_none, hwide, hout]
  · simp [sizeProduct?_eq_none, hwide]

variable {bottom top : k.Sample}

lemma halvePlane_of_empty (h : width = 0 ∨ height = 0) :
    d.halvePlane k inp width height bottom top out = .ok () out := by
  rw [halvePlane, if_pos h]
  rfl

lemma halvePlane_of_fault {fault : BufferFault} (h : ¬(width = 0 ∨ height = 0))
    (hfault : bufferFault? width height out.size inp.size = some fault) :
    d.halvePlane k inp width height bottom top out = .error (.invalidDimensions fault) out := by
  rw [halvePlane, if_neg h, run_get_bind]
  simp only [hfault, run_throw]

lemma halvePlane_of_accepted (h : ¬(width = 0 ∨ height = 0))
    (hfault : bufferFault? width height out.size inp.size = none) :
    d.halvePlane k inp width height bottom top out
      = (List.range height).forM (d.writeRow k inp width (k.load bottom) (k.load top)) out := by
  rw [halvePlane, if_neg h, run_get_bind]
  simp only [hfault]

/-- A run that succeeds on a plane with samples has accepted its buffers. -/
lemma bufferFault?_of_halvePlane
    (h : d.halvePlane k inp width height bottom top out = .ok () out')
    (hempty : ¬(width = 0 ∨ height = 0)) :
    bufferFault? width height out.size inp.size = none := by
  cases hfault : bufferFault? width height out.size inp.size with
  | none => rfl
  | some fault =>
    rw [halvePlane_of_fault hempty hfault] at h
    cases h

/-- A run that succeeds has written every row. -/
lemma rowsWritten_of_halvePlane
    (h : d.halvePlane k inp width height bottom top out = .ok () out') :
    RowsWritten d k inp width (k.load bottom) (k.load top) height out out' := by
  by_cases hempty : width = 0 ∨ height = 0
  · rw [halvePlane_of_empty hempty] at h
    cases h
    refine ⟨rfl, fun y hy old hold => ?_, fun _ _ => rfl⟩
    -- there are rows, so they are empty
    obtain rfl : width = 0 := by omega
    rw [halveRow_of_size_eq_zero (by simp [rowOf]), Array.eq_empty_of_size_eq_zero hold]
    simp [rowOf]
  · have hfault := bufferFault?_of_halvePlane h hempty
    rw [halvePlane_of_accepted hempty hfault] at h
    obtain ⟨-, -, -, hout, hinp⟩ := bufferFault?_eq_none_iff.mp hfault
    exact rowsWritten_of_forM (by omega) (by rwa [Nat.mul_comm 2]) hout h

/-- The input rows of a run that succeeds are whole. -/
lemma size_rowOf_of_halvePlane (h : d.halvePlane k inp width height bottom top out = .ok () out')
    (hwidth : width ≠ 0) {y : ℕ} (hy : y < height) :
    (rowOf inp (2 * width) y).size = 2 * width := by
  have hfault := bufferFault?_of_halvePlane h (by omega)
  obtain ⟨-, -, -, -, hinp⟩ := bufferFault?_eq_none_iff.mp hfault
  rw [Nat.mul_comm width 2] at hinp
  exact size_rowOf ((mul_add_le_of_lt hy).trans hinp)

/-- What a run writes at column `i` of row `y` is a sample of input row `y`. -/
lemma getElem?_of_halvePlane (hd : d.IsBuilt)
    (h : d.halvePlane k inp width height bottom top out = .ok () out') {y i : ℕ} (hy : y < height)
    (hi : i < width) :
    out'[width * y + i]? = some (d.plainSample k (k.levels (rowOf inp (2 * width) y))
      (2 * width - 1) (k.load bottom) (k.load top) i) := by
  have hsize := size_rowOf_of_halvePlane h (by omega) hy
  have hblank : (Array.replicate width k.blank).size = width := Array.size_replicate
  have hrow := (rowsWritten_of_halvePlane h).row_eq y hy _ hblank
  have hsample := getElem?_of_halveRow hd (by omega) hrow (hblank.symm ▸ hi)
  rwa [getElem?_rowOf _ _ _ hi, hsize] at hsample

/-- What a run writes into a buffer that is just filled does not depend on what it held. -/
lemma halvePlane_congr {out₁ out₂ : Array k.Sample}
    (h : d.halvePlane k inp width height bottom top out₁ = .ok () out')
    (hout₁ : out₁.size = width * height) (hout₂ : out₂.size = width * height) :
    d.halvePlane k inp width height bottom top out₂ = .ok () out' := by
  have hwritten := rowsWritten_of_halvePlane h
  obtain ⟨out₂', hrun⟩ :
      ∃ out₂', d.halvePlane k inp width height bottom top out₂ = .ok () out₂' := by
    by_cases hempty : width = 0 ∨ height = 0
    · exact ⟨out₂, halvePlane_of_empty hempty⟩
    · have hfault := bufferFault?_of_halvePlane h hempty
      rw [halvePlane_of_accepted hempty (by rw [hout₂, ← hout₁, hfault])]
      exact exists_forM_writeRow hout₂.ge fun y hy old hold => ⟨_, hwritten.row_eq y hy old hold⟩
  rw [hrun, (rowsWritten_of_halvePlane hrun).unique hwritten hout₂ hout₁]

/-- A built decimator fills every plane whose buffers are accepted. -/
lemma exists_halvePlane_of_accepted (hd : d.IsBuilt) (h : ¬(width = 0 ∨ height = 0))
    (hfault : bufferFault? width height out.size inp.size = none) (bottom top : k.Sample) :
    ∃ out', d.halvePlane k inp width height bottom top out = .ok () out' := by
  obtain ⟨-, -, -, hout, -⟩ := bufferFault?_eq_none_iff.mp hfault
  rw [halvePlane_of_accepted h hfault]
  exact exists_forM_writeRow hout fun y _ old _ => exists_halveRow hd old _ _ _

/-- A built decimator fills a plane from a buffer that holds twice as many samples. -/
lemma exists_halvePlane (hd : d.IsBuilt) (hout : out.size = width * height)
    (hinp : inp.size = 2 * width * height) (hsize : inp.size < 2 ^ 63) (bottom top : k.Sample) :
    ∃ out', d.halvePlane k inp width height bottom top out = .ok () out' := by
  by_cases hempty : width = 0 ∨ height = 0
  · exact ⟨out, halvePlane_of_empty hempty⟩
  · refine exists_halvePlane_of_accepted hd hempty ?_ bottom top
    have hwide : width * 2 ≤ width * 2 * height := Nat.le_mul_of_pos_right _ (by omega)
    have hcomm : 2 * width * height = width * 2 * height := by ring
    have htwice : width * 2 * height = 2 * (width * height) := by ring
    have hbound : (2 : ℕ) ^ 63 ≤ addressable := by decide
    rw [bufferFault?_eq_none_iff]
    omega

/-! ## Buffers of any length -/

/-- A run reads the rows of the input plane and nothing else of its buffer. -/
lemma forM_writeRow_congr {inp₂ : Array k.Sample}
    (h : ∀ i < 2 * width * height, inp₂[i]? = inp[i]?) :
    (List.range height).forM (d.writeRow k inp₂ width low high)
      = (List.range height).forM (d.writeRow k inp width low high) := by
  refine forM_congr fun y hy => ?_
  -- input row `y` ends no later than the input plane
  have hle : 2 * width * y + 2 * width ≤ 2 * width * height :=
    mul_add_le_of_lt (List.mem_range.mp hy)
  have hrow : rowOf inp₂ (2 * width) y = rowOf inp (2 * width) y :=
    rowOf_congr fun j hj => h _ (by omega)
  unfold rowOf at hrow
  unfold writeRow
  rw [hrow]

/-- Buffers of `held` and of `given` samples do not do for an output plane of `width` by `height`:
a length is beyond all addresses, or a buffer is too short. -/
def Unfit (width height held given : ℕ) : Prop :=
  2 ^ 64 ≤ 2 * width ∨ 2 ^ 64 ≤ width * height ∨ 2 ^ 64 ≤ 2 * width * height ∨
    held < width * height ∨ given < 2 * width * height

lemma bufferFault?_eq_none_iff_not_unfit {held given : ℕ} :
    bufferFault? width height held given = none ↔ ¬Unfit width height held given := by
  have hsize : addressable = 2 ^ 64 := rfl
  have hcomm : width * 2 = 2 * width := Nat.mul_comm width 2
  rw [bufferFault?_eq_none_iff, Unfit, hsize, hcomm]
  omega

end Decimator

/-- **What becomes of a plane.**  An output plane without samples is left alone.  Any other is
refused, and left alone, exactly if a length is beyond all addresses or a buffer is too short.
Otherwise the run succeeds: every row of the plane is what the row filter makes of the input row of
twice the length, what lies beyond the plane is as it was, and what lies beyond the input plane
makes no difference.  The anchor columns then stay far below the end of the address space. -/
theorem halvePlane_outcome {d : Decimator} (hd : d.IsBuilt) (k : SampleKind)
    (inp out : Array k.Sample) (hinp : inp.size < 2 ^ 63) (width height : ℕ) (low high : k.Sample) :
    ((width = 0 ∨ height = 0) → d.halvePlane k inp width height low high out = .ok () out) ∧
    (width ≠ 0 → height ≠ 0 →
      ((∃ fault, d.halvePlane k inp width height low high out
          = .error (.invalidDimensions fault) out) ↔
        Decimator.Unfit width height out.size inp.size)) ∧
    (width ≠ 0 → height ≠ 0 → ¬Decimator.Unfit width height out.size inp.size →
      2 * width < 2 ^ 63 ∧
      ∃ out', d.halvePlane k inp width height low high out = .ok () out' ∧
        Decimator.RowsWritten d k inp width (k.load low) (k.load high) height out out' ∧
        ∀ inp₂ : Array k.Sample, 2 * width * height ≤ inp₂.size →
          (∀ i < 2 * width * height, inp₂[i]? = inp[i]?) →
          d.halvePlane k inp₂ width height low high out = .ok () out') := by
  refine ⟨Decimator.halvePlane_of_empty, ?_, ?_⟩
  · intro hwidth hheight
    have hempty : ¬(width = 0 ∨ height = 0) := by omega
    constructor
    · rintro ⟨fault, hrun⟩
      by_contra hfit
      have hfault := Decimator.bufferFault?_eq_none_iff_not_unfit.mpr hfit
      obtain ⟨out', hok⟩ := Decimator.exists_halvePlane_of_accepted hd hempty hfault low high
      rw [hrun] at hok
      cases hok
    · intro hunfit
      cases hfault : bufferFault? width height out.size inp.size with
      | none => exact absurd hunfit (Decimator.bufferFault?_eq_none_iff_not_unfit.mp hfault)
      | some fault => exact ⟨fault, Decimator.halvePlane_of_fault hempty hfault⟩
  · intro hwidth hheight hfit
    have hempty : ¬(width = 0 ∨ height = 0) := by omega
    have hfault := Decimator.bufferFault?_eq_none_iff_not_unfit.mpr hfit
    obtain ⟨out', hrun⟩ := Decimator.exists_halvePlane_of_accepted hd hempty hfault low high
    simp only [Decimator.Unfit] at hfit
    refine ⟨?_, out', hrun, Decimator.rowsWritten_of_halvePlane hrun, ?_⟩
    · have hwide : 2 * width ≤ 2 * width * height := Nat.le_mul_of_pos_right _ (by omega)
      omega
    · -- any other input that holds the same rows is accepted as well
      intro inp₂ hinp₂ hsame
      have hfault₂ : bufferFault? width height out.size inp₂.size = none := by
        rw [Decimator.bufferFault?_eq_none_iff_not_unfit, Decimator.Unfit]
        omega
      rw [Decimator.halvePlane_of_accepted hempty hfault₂, Decimator.forM_writeRow_congr hsame,
        ← Decimator.halvePlane_of_accepted hempty hfault, hrun]

/-- One column is halved; the sample behind it stays, and that behind its two inputs is not read. -/
theorem halvePlane_outcome_tail :
    Decimator.sharpen.IsBuilt ∧ (#[40, 10, 7] : Array UInt8).size < 2 ^ 63 ∧
      ¬Decimator.Unfit 1 1 2 3 ∧
      ∃ out', Decimator.sharpen.halvePlane .uint8 #[40, 10, 7] 1 1 0 255 #[1, 2] = .ok () out' ∧
        Decimator.RowsWritten .sharpen .uint8 #[40, 10, 7] 1 0 255 1 #[1, 2] out' ∧
        Decimator.sharpen.halvePlane .uint8 #[40, 10] 1 1 0 255 #[1, 2] = .ok () out' := by
  have hsize : (#[40, 10, 7] : Array UInt8).size < 2 ^ 63 := by decide
  have hfit : ¬Decimator.Unfit 1 1 2 3 := by
    simp [Decimator.Unfit]
  obtain ⟨-, -, hok⟩ := halvePlane_outcome Decimator.sharpen_isBuilt .uint8 #[40, 10, 7] #[1, 2]
    hsize 1 1 (0 : UInt8) (255 : UInt8)
  obtain ⟨-, out', hrun, hrows, hshort⟩ := hok (by decide) (by decide) hfit
  refine ⟨Decimator.sharpen_isBuilt, hsize, hfit, out', hrun, hrows, ?_⟩
  refine hshort #[40, 10] (by decide) ?_
  intro i hi
  interval_cases i <;> rfl

end PlanarVideo
