import Mathlib
import PlanarVideo.SampleKind

/-!
# Samples and accumulated values as integers

Words and bytes are the levels from zero to a top, and what is summed of them is an integer.  Here
a sample is read as its level and an accumulated value as its integer; storing a value saturates
it, loading a sample keeps its level, and clamping a value clamps its integer.
-/

namespace PlanarVideo

/-! ## Integer kinds -/

/-- The kinds whose samples are unsigned integers. -/
inductive IntegerKind
  /-- Words of 16 bits. -/
  | word
  /-- Bytes. -/
  | byte
deriving DecidableEq, Repr

namespace IntegerKind

/-- The integer kind as a kind of samples. -/
@[reducible] def kind : IntegerKind → SampleKind
  | word => .uint16
  | byte => .uint8

/-- The integer that a sample stands for. -/
def level : (k : IntegerKind) → k.kind.Sample → ℤ
  | word, x => x.toNat
  | byte, x => x.toNat

/-- The integer that an accumulated value stands for. -/
def toInt : (k : IntegerKind) → k.kind.Acc → ℤ
  | word, v => v.toInt
  | byte, v => v.toInt

/-- The levels of a row by column. -/
def levels (k : IntegerKind) (row : Array k.kind.Sample) (c : ℕ) : ℤ :=
  k.level (row.getD c k.kind.blank)

/-- The greatest level of the kind. -/
def top : IntegerKind → ℤ
  | word => 65535
  | byte => 255

lemma top_le (k : IntegerKind) : k.top ≤ 65535 := by
  cases k <;> decide

lemma level_mem_levels (k : IntegerKind) (x : k.kind.Sample) : k.level x ∈ Set.Icc 0 k.top := by
  cases k with
  | word =>
    have h := UInt16.toNat_lt x
    exact ⟨Int.natCast_nonneg _, by simp only [level, top]; omega⟩
  | byte =>
    have h := UInt8.toNat_lt x
    exact ⟨Int.natCast_nonneg _, by simp only [level, top]; omega⟩

lemma level_mem_Icc (k : IntegerKind) (x : k.kind.Sample) : k.level x ∈ Set.Icc 0 65535 := by
  obtain ⟨hlow, hhigh⟩ := k.level_mem_levels x
  exact ⟨hlow, hhigh.trans k.top_le⟩

lemma levels_mem_Icc (k : IntegerKind) (row : Array k.kind.Sample) (c : ℕ) :
    k.levels row c ∈ Set.Icc 0 65535 :=
  k.level_mem_Icc _

/-- An accumulated value is determined by its integer. -/
lemma toInt_injective (k : IntegerKind) {v w : k.kind.Acc} (h : k.toInt v = k.toInt w) : v = w := by
  cases k with
  | word => exact Int64.toInt_inj.mp h
  | byte => exact Int64.toInt_inj.mp h

end IntegerKind

/-! ## Storing a level -/

lemma toNat_wordOfNatClamp (n : ℕ) : (UInt16.ofNatClamp n).toNat = min n 65535 := by
  unfold UInt16.ofNatClamp
  split_ifs with h
  · rw [UInt16.toNat_ofNatLT, min_eq_left (Nat.le_of_lt_succ h)]
  · rw [min_eq_right ((Nat.le_succ _).trans (not_lt.mp h))]
    rfl

lemma toNat_byteOfNatClamp (n : ℕ) : (UInt8.ofNatClamp n).toNat = min n 255 := by
  unfold UInt8.ofNatClamp
  split_ifs with h
  · rw [UInt8.toNat_ofNatLT, min_eq_left (Nat.le_of_lt_succ h)]
  · rw [min_eq_right ((Nat.le_succ _).trans (not_lt.mp h))]
    rfl

namespace IntegerKind

/-- The level of the kind that is nearest to an integer. -/
def saturate (k : IntegerKind) (n : ℤ) : ℤ :=
  max 0 (min n k.top)

lemma saturate_le_saturate (k : IntegerKind) {m n : ℤ} (h : m ≤ n) : k.saturate m ≤ k.saturate n :=
  max_le_max_left 0 (min_le_min_right k.top h)

lemma saturate_eq_self {k : IntegerKind} {n : ℤ} (h : n ∈ Set.Icc 0 k.top) : k.saturate n = n := by
  obtain ⟨hlow, hhigh⟩ := h
  rw [saturate, min_eq_left hhigh, max_eq_right hlow]

/-- A sample of the kind stores the nearest level to an accumulated value. -/
lemma level_store (k : IntegerKind) (v : k.kind.Acc) :
    k.level (k.kind.store v) = k.saturate (k.toInt v) := by
  cases k with
  | word =>
    show ((UInt16.ofNatClamp (Int64.toInt v).toNat).toNat : ℤ) = max 0 (min (Int64.toInt v) 65535)
    rw [toNat_wordOfNatClamp]
    omega
  | byte =>
    show ((UInt8.ofNatClamp (Int64.toInt v).toNat).toNat : ℤ) = max 0 (min (Int64.toInt v) 255)
    rw [toNat_byteOfNatClamp]
    omega

lemma toInt_load (k : IntegerKind) (x : k.kind.Sample) : k.toInt (k.kind.load x) = k.level x := by
  have hlevel := k.level_mem_Icc x
  cases k with
  | word => exact Int64.toInt_ofNat_of_lt (by simp only [level, Set.mem_Icc] at hlevel; omega)
  | byte => exact Int64.toInt_ofNat_of_lt (by simp only [level, Set.mem_Icc] at hlevel; omega)

/-- The sample of the kind at a level. -/
def ofLevel : (k : IntegerKind) → ℤ → k.kind.Sample
  | word, n => UInt16.ofNat n.toNat
  | byte, n => UInt8.ofNat n.toNat

lemma level_ofLevel {k : IntegerKind} {n : ℤ} (h : n ∈ Set.Icc 0 k.top) :
    k.level (k.ofLevel n) = n := by
  obtain ⟨hlow, hhigh⟩ := h
  cases k with
  | word =>
    simp only [top] at hhigh
    show ((UInt16.ofNat n.toNat).toNat : ℤ) = n
    rw [UInt16.toNat_ofNat', Nat.mod_eq_of_lt (by omega), Int.toNat_of_nonneg hlow]
  | byte =>
    simp only [top] at hhigh
    show ((UInt8.ofNat n.toNat).toNat : ℤ) = n
    rw [UInt8.toNat_ofNat', Nat.mod_eq_of_lt (by omega), Int.toNat_of_nonneg hlow]

end IntegerKind

/-! ## Clamping a level -/

/-- `value` moved into `[low, high]`, the low end first; the two ends may stand the wrong way
round. -/
def clampLevel (value low high : ℤ) : ℤ :=
  if value < low then low else if high < value then high else value

lemma IntegerKind.toInt_clamp (k : IntegerKind) (v low high : k.kind.Acc) :
    k.toInt (k.kind.clamp v low high) = clampLevel (k.toInt v) (k.toInt low) (k.toInt high) := by
  have hword : ∀ a b c : Int64, (if a < b then b else if c < a then c else a).toInt
      = clampLevel a.toInt b.toInt c.toInt := by
    intro a b c
    simp only [clampLevel, Int64.lt_iff_toInt_lt]
    split_ifs <;> rfl
  cases k with
  | word => exact hword v low high
  | byte => exact hword v low high

section Clamp

variable {v w low high : ℤ}

/-- Between ends that stand the right way round, clamping is monotone. -/
lemma clampLevel_le_clampLevel (h : low ≤ high) (hvw : v ≤ w) :
    clampLevel v low high ≤ clampLevel w low high := by
  unfold clampLevel
  split_ifs <;> omega

lemma clampLevel_add (v low high c : ℤ) :
    clampLevel (v + c) (low + c) (high + c) = clampLevel v low high + c := by
  unfold clampLevel
  split_ifs <;> omega

/-- Clamping ends between two levels that both ends keep to, whichever way round they stand. -/
lemma clampLevel_mem_Icc {bottom top : ℤ} (hlow : low ∈ Set.Icc bottom top)
    (hhigh : high ∈ Set.Icc bottom top) : clampLevel v low high ∈ Set.Icc bottom top := by
  simp only [Set.mem_Icc] at *
  unfold clampLevel
  split_ifs <;> omega

end Clamp

end PlanarVideo
