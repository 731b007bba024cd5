import PlanarVideo.Proofs.Decimator.IntegerRow
import PlanarVideo.Proofs.Decimator.Plane

/-!
# Bytes in words

A plane of bytes is a plane of words that happen to be small.  Its samples and its nominal range
widen without a change of level, so the two kinds compute the same exact results and clamp them to
the same ends; only the range in which a result is stored is another one.  What is left of the
difference is said by `halvePlane_bytes_of_words`: the bytes are the words, saturated once more.
-/

namespace PlanarVideo

/-! ## Levels of both kinds -/

namespace IntegerKind

lemma level_toUInt16 (x : UInt8) : word.level x.toUInt16 = byte.level x := by
  show ((x.toUInt16.toNat : ℕ) : ℤ) = x.toNat
  rw [UInt8.toNat_toUInt16]

lemma levels_map_toUInt16 (row : Array UInt8) :
    word.levels (row.map UInt8.toUInt16) = byte.levels row := by
  funext c
  by_cases hc : c < row.size
  · simpa [levels, hc] using level_toUInt16 row[c]
  · have hblank : word.level SampleKind.uint16.blank = byte.level SampleKind.uint8.blank := rfl
    simpa [levels, hc] using hblank

/-- Every byte is a word, so saturating in words first does not matter. -/
lemma saturate_byte (n : ℤ) : byte.saturate n = min 255 (word.saturate n) := by
  simp only [saturate, top]
  omega

end IntegerKind

namespace Decimator

variable {d : Decimator} {k : IntegerKind} {inp out out' : Array k.kind.Sample} {width height : ℕ}
  {low high : k.kind.Sample}

/-- The level that a run stores at column `i` of row `y`. -/
lemma exists_level_of_halvePlane (hd : d.IsBuilt)
    (h : d.halvePlane k.kind inp width height low high out = .ok () out') {y i : ℕ}
    (hy : y < height) (hi : i < width) :
    ∃ x, out'[width * y + i]? = some x ∧
      k.level x = d.exactSample k (k.levels (rowOf inp (2 * width) y)) (2 * width - 1)
        (k.level low) (k.level high) i := by
  have hsize := size_rowOf_of_halvePlane h (by omega) hy
  have hrow : (rowOf inp (2 * width) y).size ≠ 0 := by omega
  have hlevel := level_plainSample hd hrow (k.kind.load low) (k.kind.load high) i
  rw [hsize, k.toInt_load, k.toInt_load] at hlevel
  exact ⟨_, getElem?_of_halvePlane hd h hy hi, hlevel⟩

/-- On the same levels, a byte is a word saturated once more. -/
lemma exactSample_byte (d : Decimator) (level : ℕ → ℤ) (last : ℕ) (low high : ℤ) (i : ℕ) :
    d.exactSample .byte level last low high i
      = min 255 (d.exactSample .word level last low high i) :=
  IntegerKind.saturate_byte _

/-- Where both runs succeed, they have stored the same levels, up to saturation. -/
lemma exists_eq_min_of_halvePlane (hd : d.IsBuilt) {inp out out' : Array UInt8}
    {wide wide' : Array UInt16} {low high : UInt8}
    (hbytes : d.halvePlane .uint8 inp width height low high out = .ok () out')
    (hwords : d.halvePlane .uint16 (inp.map UInt8.toUInt16) width height low.toUInt16
      high.toUInt16 wide = .ok () wide') {i : ℕ} (hi : i < width * height) :
    ∃ x y, out'[i]? = some x ∧ wide'[i]? = some y ∧ x.toNat = min 255 y.toNat := by
  obtain ⟨row, hrow, column, hcolumn, rfl⟩ := exists_row_column hi
  obtain ⟨x, hx, hlevelx⟩ := exists_level_of_halvePlane (k := .byte) hd hbytes hrow hcolumn
  obtain ⟨y, hy, hlevely⟩ := exists_level_of_halvePlane (k := .word) hd hwords hrow hcolumn
  rw [rowOf_map, IntegerKind.levels_map_toUInt16, IntegerKind.level_toUInt16,
    IntegerKind.level_toUInt16] at hlevely
  rw [exactSample_byte, ← hlevely] at hlevelx
  simp only [IntegerKind.level] at hlevelx
  exact ⟨x, y, hx, hy, by omega⟩

end Decimator

/-- **The 8-bit and the 16-bit path agree.**  A plane of bytes is halved as it is, and widened to
words with the same dimensions and the same nominal range.  Either both runs refuse the buffers for
the same reason, or both succeed; then each byte of the output plane is the lesser of 255 and the
word in its place. -/
theorem halvePlane_bytes_of_words {d : Decimator} (hd : d.IsBuilt) (inp : Array UInt8)
    {out : Array UInt8} {wide : Array UInt16} (hwide : wide.size = out.size) (width height : ℕ)
    (low high : UInt8) :
    let byteRun := d.halvePlane .uint8 inp width height low high out
    let wordRun := d.halvePlane .uint16 (inp.map UInt8.toUInt16) width height low.toUInt16
      high.toUInt16 wide
    (∃ fault, byteRun = .error (.invalidDimensions fault) out ∧
      wordRun = .error (.invalidDimensions fault) wide) ∨
    ∃ out' wide', byteRun = .ok () out' ∧ wordRun = .ok () wide' ∧
      ∀ i < width * height, ∃ x y, out'[i]? = some x ∧ wide'[i]? = some y ∧
        x.toNat = min 255 y.toNat := by
  intro byteRun wordRun
  by_cases hempty : width = 0 ∨ height = 0
  · -- nothing is written, and there is no sample to compare
    refine Or.inr ⟨out, wide, Decimator.halvePlane_of_empty hempty,
      Decimator.halvePlane_of_empty hempty, fun i hi => ?_⟩
    rcases hempty with rfl | rfl
    · simp at hi
    · simp at hi
  have hsize : (inp.map UInt8.toUInt16).size = inp.size := Array.size_map
  cases hfault : bufferFault? width height out.size inp.size with
  | some fault =>
    refine Or.inl ⟨fault, Decimator.halvePlane_of_fault hempty hfault,
      Decimator.halvePlane_of_fault hempty ?_⟩
    rw [hwide, hsize, hfault]
  | none =>
    have hfault' : bufferFault? width height wide.size (inp.map UInt8.toUInt16).size = none := by
      rw [hwide, hsize, hfault]
    obtain ⟨out', hbytes⟩ :=
      Decimator.exists_halvePlane_of_accepted (k := .uint8) hd hempty hfault low high
    obtain ⟨wide', hwords⟩ := Decimator.exists_halvePlane_of_accepted (k := .uint16) hd hempty
      hfault' low.toUInt16 high.toUInt16
    exact Or.inr ⟨out', wide', hbytes, hwords, fun i hi =>
      Decimator.exists_eq_min_of_halvePlane hd hbytes hwords hi⟩

/-- Sharpens without a clip range. -/
def Decimator.unclipped : Decimator :=
  .ofTable { TapTable.sharpen with clip := false }

lemma Decimator.unclipped_isBuilt : Decimator.unclipped.IsBuilt :=
  isBuilt_ofTable (TapTable.sharpen_accepted.withClip false)

/-- Left of a falling edge from 200 to ten, sharpening goes up to 295, which a word can hold; left
of a rising edge from zero it goes below zero, which neither kind can. -/
theorem halvePlane_bytes_of_words_edge :
    Decimator.unclipped.IsBuilt ∧ (#[0, 0] : Array UInt16).size = (#[0, 0] : Array UInt8).size ∧
      Decimator.unclipped.halvePlane .uint8 #[200, 10, 0, 90] 1 2 0 255 #[0, 0]
        = .ok () #[255, 0] ∧
      Decimator.unclipped.halvePlane .uint16 #[200, 10, 0, 90] 1 2 0 255 #[0, 0]
        = .ok () #[295, 0] ∧
      ∀ i < 1 * 2, ∃ x y, (#[255, 0] : Array UInt8)[i]? = some x ∧
        (#[295, 0] : Array UInt16)[i]? = some y ∧ x.toNat = min 255 y.toNat := by
  have hbytes : Decimator.unclipped.halvePlane .uint8 #[200, 10, 0, 90] 1 2 0 255 #[0, 0]
      = .ok () #[255, 0] := rfl
  have hwords : Decimator.unclipped.halvePlane .uint16 #[200, 10, 0, 90] 1 2 0 255 #[0, 0]
      = .ok () #[295, 0] := rfl
  have hsize : (#[0, 0] : Array UInt16).size = (#[0, 0] : Array UInt8).size := rfl
  refine ⟨Decimator.unclipped_isBuilt, hsize, hbytes, hwords, ?_⟩
  have hagree := halvePlane_bytes_of_words Decimator.unclipped_isBuilt #[200, 10, 0, 90] hsize 1 2
    0 255
  have hwiden : (#[200, 10, 0, 90] : Array UInt8).map UInt8.toUInt16 = #[200, 10, 0, 90] := by
    simp only [List.map_toArray, List.map_cons, List.map_nil]
    rfl
  rw [hwiden] at hagree
  rcases hagree with ⟨fault, herror, -⟩ | ⟨out', wide', hout', hwide', hsamples⟩
  · cases hbytes.symm.trans herror
  · obtain rfl : #[255, 0] = out' := (EStateM.Result.ok.inj (hbytes.symm.trans hout')).2
    obtain rfl : #[295, 0] = wide' := (EStateM.Result.ok.inj (hwords.symm.trans hwide')).2
    exact hsamples

end PlanarVideo
