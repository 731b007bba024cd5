import PlanarVideo.Proofs.RangeGuard.Plain
import PlanarVideo.Decimator.Row

/-!
# Rows of built decimators

A decimator whose tables have been built gives a value at every column of a non-empty row:
neither the primary nor the fallback window ever leaves the row, nor the list of taps.  The value
is `plainSample`, a function of the levels in the two windows.  Filling a row therefore succeeds,
and what it writes depends on the source row and on the length of the destination, but not on what
the destination held.
-/

namespace PlanarVideo

/-! ## Built decimators -/

/-- A table that is generated from a kernel has been built. -/
lemma TapTable.isBuilt_of_halving {kernel : Kernel} {phase : Phase} {t : TapTable}
    (h : halving kernel phase = .ok t) : t.IsBuilt := by
  unfold halving at h
  split at h
  · cases h
  · split at h
    · cases h
    · exact ⟨_, h⟩

namespace Decimator

/-- The tables of the decimator have been built. -/
structure IsBuilt (d : Decimator) : Prop where
  primary : d.primary.IsBuilt
  fallback : ∀ g ∈ d.guard, g.fallback.IsBuilt

/-- Built tables make built decimators, whatever the policy. -/
lemma isBuilt_of_ofTables {phase : Phase} {primary : TapTable} {fallback : Option TapTable}
    {policy : Option Correction} {window : Option RangeSource} {d : Decimator}
    (hprimary : primary.IsBuilt) (hfallback : ∀ t ∈ fallback, t.IsBuilt)
    (h : ofTables phase primary fallback policy window = .ok d) : d.IsBuilt := by
  obtain ⟨guard, hguard, rfl⟩ := map_eq_ok_iff.mp h
  refine ⟨hprimary, fun g hg => ?_⟩
  unfold RangeGuard.ofPolicy at hguard
  split at hguard
  · cases hguard
    cases hg
  · split at hguard
    · cases hguard
    · cases hguard
      cases hg
      exact hfallback _ rfl

/-- What settings ask for is built, since the tables that are generated for it are. -/
lemma isBuilt_of_ofSettings {s : Settings} {d : Decimator} (h : ofSettings s = .ok d) :
    d.IsBuilt := by
  obtain ⟨primary, hprimary, h⟩ := bind_eq_ok_iff.mp h
  have hprimary := TapTable.isBuilt_of_halving (mapError_eq_ok_iff.mp hprimary)
  cases hpolicy : s.policy with
  | none =>
    simp only [hpolicy, pure_bind] at h
    exact isBuilt_of_ofTables hprimary (by simp) h
  | some correction =>
    simp only [hpolicy] at h
    obtain ⟨fallback, hfallback, h⟩ := bind_eq_ok_iff.mp h
    obtain ⟨t, ht, rfl⟩ := map_eq_ok_iff.mp hfallback
    refine isBuilt_of_ofTables hprimary ?_ h
    rintro _ ⟨⟩
    exact TapTable.isBuilt_of_halving (mapError_eq_ok_iff.mp ht)

/-- The sharpening table, guarded by its own window. -/
def sharpen : Decimator where
  phase := .coSited
  primary := .sharpen
  guard := some { correction := .clamp, fallback := .sharpen, window := .primary }

lemma sharpen_isBuilt : sharpen.IsBuilt where
  primary := TapTable.isBuilt_iff_accepted.mpr TapTable.sharpen_accepted
  fallback := by
    rintro _ ⟨⟩
    exact TapTable.isBuilt_iff_accepted.mpr TapTable.sharpen_accepted

/-- The decimator of a table that needs no guard. -/
def ofTable (t : TapTable) : Decimator where
  phase := .coSited
  primary := t
  guard := none

lemma isBuilt_ofTable {t : TapTable} (h : t.Accepted) : (ofTable t).IsBuilt :=
  ⟨TapTable.isBuilt_iff_accepted.mpr h, nofun⟩

variable {d : Decimator}

/-- Output sample `i` in plain terms, for a row given by its levels and its final column. -/
def plainSample (d : Decimator) (k : SampleKind) (level : ℕ → k.Acc) (last : ℕ)
    (low high : k.Acc) (i : ℕ) : k.Sample :=
  let value := plainGuarded k d.guard d.primary level (2 * i) last
  k.store (if d.primary.clip then k.clamp value low high else value)

lemma sampleAt_eq_ok (hd : d.IsBuilt) {k : SampleKind} {src : Array k.Sample} (hsrc : src.size ≠ 0)
    (low high : k.Acc) (i : ℕ) :
    d.sampleAt k src low high i
      = .ok (d.plainSample k (k.levels src) (src.size - 1) low high i) := by
  have hlast : src.size - 1 < src.size := by omega
  rw [sampleAt, guarded_eq_ok hd.primary.accepted (fun g hg => (hd.fallback g hg).accepted) k src
    (2 * i) hlast]
  rfl

/-! ## Filling a row -/

variable {k : SampleKind} {src dst row : Array k.Sample} {low high : k.Acc}

lemma halveRow_of_size_eq_zero (hsrc : src.size = 0) (dst : Array k.Sample) (low high : k.Acc) :
    d.halveRow k dst src low high = .ok dst :=
  if_pos hsrc

/-- From a non-empty source row, filling gives the row of the samples at each index. -/
lemma halveRow_eq_ok_iff (hsrc : src.size ≠ 0) :
    d.halveRow k dst src low high = .ok row ↔
      row.size = dst.size ∧
        ∀ i (hi : i < row.size), d.sampleAt k src low high i = .ok row[i] := by
  rw [halveRow, if_neg hsrc, map_eq_ok_iff]
  constructor
  · rintro ⟨samples, hsamples, rfl⟩
    obtain ⟨hlength, hget⟩ := List.forall₂_iff_get.mp (mapM_eq_ok_iff.mp hsamples)
    rw [List.length_range] at hlength
    refine ⟨hlength.symm, fun i hi => ?_⟩
    simpa using hget i (by simpa [hlength] using hi) hi
  · rintro ⟨hsize, hget⟩
    refine ⟨row.toList, mapM_eq_ok_iff.mpr (List.forall₂_iff_get.mpr ⟨?_, fun i hi hrow => ?_⟩),
      rfl⟩
    · rw [List.length_range, Array.length_toList, hsize]
    · simpa using hget i hrow

lemma exists_halveRow (hd : d.IsBuilt) (dst src : Array k.Sample) (low high : k.Acc) :
    ∃ row, d.halveRow k dst src low high = .ok row := by
  by_cases hsrc : src.size = 0
  · exact ⟨dst, halveRow_of_size_eq_zero hsrc dst low high⟩
  · have hstep : ∀ i ∈ List.range dst.size, ∃ x, d.sampleAt k src low high i = .ok x :=
      fun i _ => ⟨_, sampleAt_eq_ok hd hsrc low high i⟩
    obtain ⟨samples, hsamples⟩ := exists_mapM_eq_ok hstep
    exact ⟨samples.toArray, (if_neg hsrc).trans (map_eq_ok_iff.mpr ⟨samples, hsamples, rfl⟩)⟩

lemma size_of_halveRow (h : d.halveRow k dst src low high = .ok row) : row.size = dst.size := by
  by_cases hsrc : src.size = 0
  · rw [halveRow_of_size_eq_zero hsrc] at h
    rw [Except.ok.inj h]
  · exact ((halveRow_eq_ok_iff hsrc).mp h).1

/-- The samples that a built decimator writes. -/
lemma getElem?_of_halveRow (hd : d.IsBuilt) (hsrc : src.size ≠ 0)
    (h : d.halveRow k dst src low high = .ok row) {i : ℕ} (hi : i < dst.size) :
    row[i]? = some (d.plainSample k (k.levels src) (src.size - 1) low high i) := by
  obtain ⟨hsize, hget⟩ := (halveRow_eq_ok_iff hsrc).mp h
  have hi' : i < row.size := by rwa [hsize]
  have hsample := hget i hi'
  rw [sampleAt_eq_ok hd hsrc] at hsample
  rw [Array.getElem?_eq_getElem hi', Except.ok.inj hsample]

/-- Filling ignores what the destination held. -/
lemma halveRow_congr_dst {dst' : Array k.Sample} (hsrc : src.size ≠ 0)
    (hsize : dst.size = dst'.size) :
    d.halveRow k dst src low high = d.halveRow k dst' src low high := by
  rw [halveRow, halveRow, if_neg hsrc, if_neg hsrc, hsize]

end Decimator
end PlanarVideo
