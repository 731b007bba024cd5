import PlanarVideo.Proofs.TapSum.Exact

/-!
# Mirrored tables

A window is held back at the left end of a row by a subtraction that stops at zero, and at the right
end by a minimum.  That the two do the same is seen in a mirror: the table with its taps in reverse
order, at the anchor counted from the other end of the reversed row, gives the result of the table.
Its window is the window of the table read backwards, column by column.
-/

namespace PlanarVideo

/-! ## Arrays read backwards -/

lemma getD_reverse {α : Type} (a : Array α) (d : α) {i : ℕ} (hi : i < a.size) :
    a.reverse.getD i d = a.getD (a.size - 1 - i) d := by
  rw [Array.getD_eq_getD_getElem?, Array.getD_eq_getD_getElem?, Array.getElem?_reverse hi]

lemma IntegerKind.levels_reverse (k : IntegerKind) (row : Array k.kind.Sample) {c : ℕ}
    (hc : c < row.size) : k.levels row.reverse c = k.levels row (row.size - 1 - c) :=
  congrArg k.level (getD_reverse row k.kind.blank hc)

/-! ## The mirrored table -/

namespace TapTable

/-- The table whose taps stand in reverse order; the center stays with its tap. -/
def mirror (t : TapTable) : TapTable where
  center := t.size - 1 - t.center
  real := { t.real with taps := t.real.taps.reverse }
  fixed := { t.fixed with taps := t.fixed.taps.reverse }
  clip := t.clip

variable {t : TapTable}

@[simp] lemma size_mirror (t : TapTable) : t.mirror.size = t.size :=
  Array.size_reverse

lemma reach_mirror (t : TapTable) : t.mirror.fixed.reach = t.fixed.reach := by
  simp [mirror, FixedTaps.reach, List.sum_reverse]

/-- The checks of a table do not look at the order of its taps. -/
lemma Accepted.mirror (h : t.Accepted) : t.mirror.Accepted where
  center_lt := by
    have hcenter := h.center_lt
    show t.size - 1 - t.center < t.mirror.size
    rw [size_mirror]
    omega
  isFinite := by
    have hfinite := h.isFinite
    simpa [RealTaps.isFinite, TapTable.mirror] using hfinite
  size_fixed := by
    rw [size_mirror, ← h.size_fixed]
    exact Array.size_reverse
  shift_le := h.shift_le
  fits := by
    rw [reach_mirror]
    exact h.fits

lemma integerTap_mirror (h : t.Accepted) {j : ℕ} (hj : j < t.size) :
    t.mirror.integerTap j = t.integerTap (t.size - 1 - j) := by
  have hsize := h.size_fixed
  rw [integerTap, integerTap, ← hsize]
  exact congrArg Int32.toInt (getD_reverse t.fixed.taps 0 (by omega))

/-- In the mirror a column turns into its distance from the final one, and the two borders change
places. -/
lemma windowColumn_mirror (h : t.center < t.size) {pos j last : ℕ} (hj : j < t.size)
    (hpos : pos ≤ last) :
    t.mirror.windowColumn (last - pos) j last
      = last - t.windowColumn pos (t.size - 1 - j) last := by
  simp only [windowColumn, mirror]
  omega

lemma exactProduct_mirror (h : t.Accepted) {level level' : ℕ → ℤ} {pos j last : ℕ}
    (hlevel : ∀ c ≤ last, level' c = level (last - c)) (hj : j < t.size) (hpos : pos ≤ last) :
    t.mirror.exactProduct level' (last - pos) last j
      = t.exactProduct level pos last (t.size - 1 - j) := by
  have hcolumn := t.windowColumn_le_last pos (t.size - 1 - j) last
  rw [exactProduct, exactProduct, integerTap_mirror h hj, windowColumn_mirror h.center_lt hj hpos,
    hlevel _ (Nat.sub_le _ _), Nat.sub_sub_self hcolumn]

/-- The mirrored sum adds the products of the sum from the last to the first. -/
lemma exactResult_mirror (h : t.Accepted) {level level' : ℕ → ℤ} {pos last : ℕ}
    (hlevel : ∀ c ≤ last, level' c = level (last - c)) (hpos : pos ≤ last) :
    t.mirror.exactResult level' (last - pos) last = t.exactResult level pos last := by
  have hsum : t.mirror.exactSum level' (last - pos) last t.mirror.size
      = t.exactSum level pos last t.size :=
    calc t.mirror.exactSum level' (last - pos) last t.mirror.size
        = ∑ j ∈ Finset.range t.size, t.exactProduct level pos last (t.size - 1 - j) := by
          rw [size_mirror]
          refine Finset.sum_congr rfl fun j hj => ?_
          exact exactProduct_mirror h hlevel (Finset.mem_range.mp hj) hpos
      _ = t.exactSum level pos last t.size :=
          Finset.sum_range_reflect (t.exactProduct level pos last) t.size
  rw [exactResult, hsum]
  rfl

end TapTable

/-- **The two borders are treated alike.**  The mirror of a built table, which has its taps in
reverse order and its center counted from the other end, is built again, whatever the stated
precision.  On the reversed row and at the anchor counted from the other end, it gives the integer
result of the table itself. -/
theorem guarded_mirror {t : TapTable} (ht : t.IsBuilt) :
    (∀ precision, (t.mirror.toSpec precision).build = .ok t.mirror) ∧
    ∀ (k : IntegerKind) (g g' : Option RangeGuard) (row : Array k.kind.Sample) (pos : ℕ),
      pos < row.size → ∃ v, guarded k.kind g row t pos (row.size - 1) = .ok v ∧
        guarded k.kind g' row.reverse t.mirror (row.size - 1 - pos) (row.size - 1) = .ok v := by
  have hacc := ht.accepted
  refine ⟨hacc.mirror.build_toSpec, ?_⟩
  intro k g g' row pos hpos
  have hlast : row.size - 1 < row.size := by omega
  have hlast' : row.size - 1 < row.reverse.size := by rwa [Array.size_reverse]
  have hlevel : ∀ c ≤ row.size - 1,
      k.levels row.reverse c = k.levels row (row.size - 1 - c) := fun c hc =>
    k.levels_reverse row (by omega)
  obtain ⟨v, hv, hexactv⟩ := exists_guarded_eq_ok hacc k g row pos hlast
  obtain ⟨w, hw, hexactw⟩ :=
    exists_guarded_eq_ok hacc.mirror k g' row.reverse (row.size - 1 - pos) hlast'
  rw [TapTable.exactResult_mirror hacc hlevel (by omega), ← hexactv] at hexactw
  obtain rfl := k.toInt_injective hexactw
  exact ⟨w, hv, hw⟩

/-- Left of a rising edge and right of the falling edge in the mirror, sharpening goes down to the
same level. -/
theorem guarded_mirror_edge :
    TapTable.sharpen.IsBuilt ∧
      (TapTable.sharpen.mirror.toSpec defaultPrecision).build = .ok TapTable.sharpen.mirror ∧
      0 < (#[10, 40, 40] : Array UInt16).size ∧
      guarded .uint16 none #[10, 40, 40] .sharpen 0 2 = .ok (-5) ∧
      guarded .uint16 none #[40, 40, 10] TapTable.sharpen.mirror 2 2 = .ok (-5) := by
  have hbuilt := TapTable.isBuilt_iff_accepted.mpr TapTable.sharpen_accepted
  have hpos : 0 < (#[10, 40, 40] : Array UInt16).size := by decide
  obtain ⟨hmirror, hguarded⟩ := guarded_mirror hbuilt
  obtain ⟨v, hv, hw⟩ := hguarded .word none none #[10, 40, 40] 0 hpos
  have hreverse : (#[10, 40, 40] : Array UInt16).reverse = #[40, 40, 10] := by simp
  rw [hreverse] at hw
  obtain rfl : -5 = v := Except.ok.inj hv
  exact ⟨hbuilt, hmirror _, hpos, hv, hw⟩

end PlanarVideo
