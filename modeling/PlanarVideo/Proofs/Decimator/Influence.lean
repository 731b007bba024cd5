import PlanarVideo.Proofs.Decimator.Plane
import PlanarVideo.Proofs.TapSum.Exact

/-!
# What an output sample depends on

An output sample depends on the input row that it is made from, and in that row on its sources: the
columns under the primary table, and those under the fallback table where a guard looks at it.  Two
inputs that agree on the sources of a sample give it the same value, whatever they hold elsewhere.
-/

namespace PlanarVideo

namespace Decimator

/-- The columns that can have an influence on output sample `i`, for rows whose final column is
`last`. -/
def sources (d : Decimator) (k : SampleKind) (i last : ℕ) : Set ℕ :=
  {c | (∃ j < d.primary.size, d.primary.windowColumn (2 * i) j last = c) ∨
    k = .float32 ∧ ∃ g ∈ d.guard, g.ReadsFallback ∧
      ∃ j < g.fallback.size, g.fallback.windowColumn (2 * i) j last = c}

variable {d : Decimator} {k : SampleKind} {i last : ℕ}

lemma sources_le (d : Decimator) (k : SampleKind) (i : ℕ) {last c : ℕ}
    (hc : c ∈ d.sources k i last) : c ≤ last := by
  rcases hc with ⟨j, -, rfl⟩ | ⟨-, g, -, -, j, -, rfl⟩
  · exact d.primary.windowColumn_le_last _ _ _
  · exact g.fallback.windowColumn_le_last _ _ _

/-- A sample is a function of the levels in its sources. -/
lemma plainSample_congr {level level' : ℕ → k.Acc}
    (h : ∀ c ∈ d.sources k i last, level c = level' c) (low high : k.Acc) :
    d.plainSample k level last low high i = d.plainSample k level' last low high i := by
  have hprimary : d.primary.SameWindow level (2 * i) last level' (2 * i) last := fun j hj => by
    rw [TapTable.column_eq_windowColumn]
    exact h _ (Or.inl ⟨j, hj, rfl⟩)
  have hfallback : k = .float32 → ∀ g ∈ d.guard, g.ReadsFallback →
      g.fallback.SameWindow level (2 * i) last level' (2 * i) last := fun hk g hg hreads j hj => by
    rw [TapTable.column_eq_windowColumn]
    exact h _ (Or.inr ⟨hk, g, hg, hreads, j, hj, rfl⟩)
  simp only [plainSample, plainGuarded_congr hprimary hfallback]

end Decimator

/-- **Output samples depend on their sources only.**  Two inputs are halved by the same built
decimator within the same nominal range.  Where they agree on the sources of column `i` in row `y`,
the two runs write the same sample at that place, whatever the inputs hold elsewhere and the outputs
held before. -/
theorem halvePlane_eq_of_agree {d : Decimator} (hd : d.IsBuilt) {k : SampleKind}
    {inp₁ inp₂ out₁ out₂ out₁' out₂' : Array k.Sample} {width height : ℕ} {low high : k.Sample}
    (h₁ : d.halvePlane k inp₁ width height low high out₁ = .ok () out₁')
    (h₂ : d.halvePlane k inp₂ width height low high out₂ = .ok () out₂')
    {y i : ℕ} (hy : y < height) (hi : i < width)
    (hagree : ∀ c ∈ d.sources k i (2 * width - 1),
      inp₁[2 * width * y + c]? = inp₂[2 * width * y + c]?) :
    ∃ x, out₁'[width * y + i]? = some x ∧ out₂'[width * y + i]? = some x := by
  have hlevels : ∀ c ∈ d.sources k i (2 * width - 1),
      k.levels (rowOf inp₁ (2 * width) y) c = k.levels (rowOf inp₂ (2 * width) y) c := by
    intro c hc
    have hle := d.sources_le k i hc
    have hlt : c < 2 * width := by omega
    simp only [SampleKind.levels, Array.getD_eq_getD_getElem?, getElem?_rowOf _ _ _ hlt,
      hagree c hc]
  refine ⟨_, Decimator.getElem?_of_halvePlane hd h₁ hy hi, ?_⟩
  rw [Decimator.getElem?_of_halvePlane hd h₂ hy hi, Decimator.plainSample_congr hlevels]

/-- Two planes that share the first two samples share the first output sample. -/
theorem halvePlane_eq_of_agree_edge :
    Decimator.sharpen.IsBuilt ∧
      Decimator.sharpen.halvePlane .uint8 #[40, 10, 1, 2, 3, 4, 5, 6] 2 2 0 255 #[0, 0, 0, 0]
        = .ok () #[55, 1, 3, 5] ∧
      Decimator.sharpen.halvePlane .uint8 #[40, 10, 9, 9, 8, 8, 8, 8] 2 2 0 255 #[7, 7, 7, 7]
        = .ok () #[55, 9, 8, 8] ∧
      ∃ x, (#[55, 1, 3, 5] : Array UInt8)[0]? = some x ∧
        (#[55, 9, 8, 8] : Array UInt8)[0]? = some x := by
  have h₁ : Decimator.sharpen.halvePlane .uint8 #[40, 10, 1, 2, 3, 4, 5, 6] 2 2 0 255 #[0, 0, 0, 0]
      = .ok () #[55, 1, 3, 5] := rfl
  have h₂ : Decimator.sharpen.halvePlane .uint8 #[40, 10, 9, 9, 8, 8, 8, 8] 2 2 0 255 #[7, 7, 7, 7]
      = .ok () #[55, 9, 8, 8] := rfl
  refine ⟨Decimator.sharpen_isBuilt, h₁, h₂, halvePlane_eq_of_agree Decimator.sharpen_isBuilt h₁ h₂
    (y := 0) (i := 0) (by decide) (by decide) ?_⟩
  rintro _ (⟨j, hj, rfl⟩ | ⟨hk, -⟩)
  · -- the two taps read the first two columns
    change j < 2 at hj
    interval_cases j <;> rfl
  · cases hk

end PlanarVideo
