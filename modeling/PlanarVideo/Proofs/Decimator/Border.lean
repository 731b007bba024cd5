import PlanarVideo.Proofs.Decimator.Row

/-!
# Borders are repeated samples

A tap that falls outside a row reads its first or its last sample.  Here this is shown to be the
same as filtering a longer row, in which these samples are written out: the columns of a window move
by the number of samples in front, and each lands on the sample it had been moved to.
-/

namespace PlanarVideo

/-! ## Rows with their ends repeated -/

section Extend

variable {α : Type}

/-- The row with `left` more of its first sample before it and `right` more of its last sample
behind it. -/
def extendEnds (row : Array α) (h : 0 < row.size) (left right : ℕ) : Array α :=
  Array.replicate left row[0] ++ row ++ Array.replicate right row[row.size - 1]

variable {row : Array α} (h : 0 < row.size) {left right : ℕ}

lemma size_extendEnds : (extendEnds row h left right).size = left + row.size + right := by
  simp [extendEnds, Nat.add_assoc]

/-- Each sample of the longer row is the nearest sample of the row itself. -/
lemma getD_extendEnds (d : α) {c : ℕ} (hc : c < left + row.size + right) :
    (extendEnds row h left right).getD c d = row.getD (min (c - left) (row.size - 1)) d := by
  have hnearest : min (c - left) (row.size - 1) < row.size := by omega
  have hcolumn : c < (extendEnds row h left right).size := by rwa [size_extendEnds]
  simp only [Array.getD_eq_getD_getElem?, Array.getElem?_eq_getElem, hnearest, hcolumn,
    Option.getD_some]
  rcases Nat.lt_or_ge c left with hleft | hleft
  · have hzero : min (c - left) (row.size - 1) = 0 := by omega
    simp [extendEnds, hleft, hzero]
  · rcases Nat.lt_or_ge (c - left) row.size with hmid | hmid
    · have hsame : min (c - left) (row.size - 1) = c - left := by omega
      simp [extendEnds, Array.getElem_append, hleft.not_gt, hmid, hsame]
    · have hlast : min (c - left) (row.size - 1) = row.size - 1 := by omega
      simp [extendEnds, Array.getElem_append, hleft.not_gt, hmid.not_gt, hlast]

end Extend

/-! ## Windows in a longer row -/

namespace TapTable

/-- At the anchor that moves along with the row, the window of the longer row holds what the window
of the row holds. -/
lemma sameWindow_extendEnds (t : TapTable) (k : SampleKind) {row : Array k.Sample}
    (h : 0 < row.size) (left right pos : ℕ) :
    t.SameWindow (k.levels (extendEnds row h left right)) (left + pos)
      ((extendEnds row h left right).size - 1) (k.levels row) pos (row.size - 1) := by
  intro j _
  have hcolumn : t.column (left + pos) j (left + row.size + right - 1)
      < left + row.size + right := by
    have hle := t.column_le_last (left + pos) j (left + row.size + right - 1)
    omega
  -- moved back by `left` and into the row, the column is that of the row itself
  have hnearest : min (t.column (left + pos) j (left + row.size + right - 1) - left) (row.size - 1)
      = t.column pos j (row.size - 1) := by
    simp only [column]
    omega
  rw [size_extendEnds, SampleKind.levels, SampleKind.levels, getD_extendEnds h k.blank hcolumn,
    hnearest]

end TapTable

/-! ## Rows -/

namespace Decimator

variable {d : Decimator} {k : SampleKind}

lemma plainSample_extendEnds (d : Decimator) {src : Array k.Sample} (h : 0 < src.size) (m n : ℕ)
    (low high : k.Acc) (i : ℕ) :
    let long := extendEnds src h (2 * m) n
    d.plainSample k (k.levels long) (long.size - 1) low high (m + i)
      = d.plainSample k (k.levels src) (src.size - 1) low high i := by
  intro long
  have hvalue : plainGuarded k d.guard d.primary (k.levels long) (2 * (m + i)) (long.size - 1)
      = plainGuarded k d.guard d.primary (k.levels src) (2 * i) (src.size - 1) := by
    rw [Nat.mul_add]
    exact plainGuarded_congr (d.primary.sameWindow_extendEnds k h (2 * m) n (2 * i))
      fun _ g _ _ => g.fallback.sameWindow_extendEnds k h (2 * m) n (2 * i)
  simp only [plainSample, hvalue]

end Decimator

/-- **Borders are replicated.**  Filling from an empty source row leaves the destination as it was.
From any other source row, filling a destination succeeds, and so does filling one of `m` samples
more from the row with its first sample repeated `2 * m` times in front and its last sample `n`
times behind; shifted by `m`, the two runs write the same samples. -/
theorem halveRow_extendEnds {d : Decimator} (hd : d.IsBuilt) (k : SampleKind)
    (dst src : Array k.Sample) (low high : k.Acc) :
    (src.size = 0 → d.halveRow k dst src low high = .ok dst) ∧
    ∀ (h : 0 < src.size) (m n : ℕ) (dst' : Array k.Sample), dst'.size = m + dst.size →
      ∃ row row', d.halveRow k dst src low high = .ok row ∧
        d.halveRow k dst' (extendEnds src h (2 * m) n) low high = .ok row' ∧
        row.size = dst.size ∧ row'.size = dst'.size ∧
        ∀ i < dst.size, row'[m + i]? = row[i]? := by
  refine ⟨fun h => Decimator.halveRow_of_size_eq_zero h dst low high, ?_⟩
  intro h m n dst' hdst'
  -- the longer row is not empty either
  have hlong : (extendEnds src h (2 * m) n).size ≠ 0 := by
    rw [size_extendEnds]
    omega
  obtain ⟨row, hrow⟩ := Decimator.exists_halveRow hd dst src low high
  obtain ⟨row', hrow'⟩ := Decimator.exists_halveRow hd dst' (extendEnds src h (2 * m) n) low high
  refine ⟨row, row', hrow, hrow', Decimator.size_of_halveRow hrow,
    Decimator.size_of_halveRow hrow', ?_⟩
  intro i hi
  have hi' : m + i < dst'.size := by omega
  rw [Decimator.getElem?_of_halveRow hd hlong hrow' hi',
    Decimator.getElem?_of_halveRow hd h.ne' hrow hi, d.plainSample_extendEnds h]

/-- The byte beside a falling edge overshoots to the same level in a row and in its extension. -/
theorem halveRow_extendEnds_falling_edge :
    Decimator.sharpen.IsBuilt ∧ 0 < (#[40, 10] : Array UInt8).size ∧
      ∃ row', Decimator.sharpen.halveRow .uint8 #[0, 0] #[40, 40, 40, 10, 10] 0 255 = .ok row' ∧
        row'.size = 2 ∧ row'[1]? = some 55 := by
  have hsrc : 0 < (#[40, 10] : Array UInt8).size := by decide
  obtain ⟨-, hextend⟩ :=
    halveRow_extendEnds Decimator.sharpen_isBuilt .uint8 #[0] #[40, 10] (0 : Int64) (255 : Int64)
  obtain ⟨row, row', hrow, hrow', -, hsize, hsame⟩ := hextend hsrc 1 1 #[0, 0] rfl
  obtain rfl : #[55] = row := Except.ok.inj hrow
  exact ⟨Decimator.sharpen_isBuilt, hsrc, row', hrow', hsize, hsame 0 (by decide)⟩

end PlanarVideo
