import PlanarVideo.Proofs.Decimator.Frame

/-!
# The picture that halving leaves

What a successful run of `halveFrame` has written, plane by plane and row by row, and that this
depends on the output frame through its geometry only.  Hence stale samples never show, and a
second run changes nothing.
-/

namespace PlanarVideo

open Numeric

/-- Row `y` of a plane that stores samples of kind `k`. -/
def Plane.row? (p : Plane) (k : SampleKind) (y : ℕ) : Option (Array k.Sample) :=
  (p.samples? k).map (rowOf · p.width y)

/-- `out'` is `out` with the picture of `inp`, its chroma halved row by row. -/
structure Halved (d : Decimator) (inp out out' : Frame) : Prop where
  luma : out'.y.data = inp.y.data
  /-- Each chroma row is what the row filter makes of the input row of twice the length, whatever
  it finds in the destination, with the range of the input plane as the clip range. -/
  rows : ∀ c ∈ Component.chroma, ∀ y < (out.plane c).height,
    let k := inp.format.filtering
    let range := (inp.plane c).range
    ∃ src dst, (inp.plane c).row? k y = some src ∧ (out'.plane c).row? k y = some dst ∧
      src.size = 2 * (out.plane c).width ∧
      ∀ old : Array k.Sample, old.size = (out.plane c).width →
        d.halveRow k old src (k.load (k.ofNominal range.low)) (k.load (k.ofNominal range.high))
          = .ok dst
  number : out'.number = inp.number
  available : out'.available = inp.available
  range : ∀ c, (out'.plane c).range = (inp.plane c).range
  shape : out'.SameShape out

namespace Frame

lemma withPicture_sameGeometry (out inp : Frame) (u v : SampleBuffer) :
    (out.withPicture inp u v).SameGeometry out where
  width := rfl
  height := rfl
  chroma := rfl
  format := rfl
  plane_width c := by cases c <;> rfl
  plane_height c := by cases c <;> rfl

/-- The samples and the metadata of the output frame leave no trace. -/
lemma withPicture_congr {out₁ out₂ : Frame} (hgeometry : out₁.SameGeometry out₂) (inp : Frame)
    (u v : SampleBuffer) : out₁.withPicture inp u v = out₂.withPicture inp u v := by
  obtain ⟨hwidth, hheight, hchroma, hformat, hpw, hph⟩ := hgeometry
  have hy := And.intro (hpw .y) (hph .y)
  have hu := And.intro (hpw .u) (hph .u)
  have hv := And.intro (hpw .v) (hph .v)
  simp only [plane] at hy hu hv
  simp [withPicture, withSamples, withPlane, plane, withMetadata, *]

end Frame

namespace Decimator

variable {d : Decimator} {inp out out' : Frame}

lemma mismatch?_congr {out₁ out₂ : Frame} (h : out₁.SameGeometry out₂) :
    mismatch? out₁ inp = none ↔ mismatch? out₂ inp = none := by
  have hy := And.intro (h.plane_width .y) (h.plane_height .y)
  simp only [Frame.plane] at hy
  simp only [mismatch?_eq_none_iff, Plane.sampleCount, h.format, h.plane_width, h.plane_height, hy]

lemma kindFault?_congr {k : SampleKind} {out₁ out₂ : Frame}
    (h : ∀ c, (out₁.plane c).data.kind = (out₂.plane c).data.kind) :
    kindFault? k out₁ inp = none ↔ kindFault? k out₂ inp = none := by
  simp only [kindFault?_eq_none_iff, h]

/-- Everything that a successful run establishes, with the samples of all planes named. -/
lemma exists_of_halveFrame (h : d.halveFrame inp out = .ok () out') :
    let k := inp.format.filtering
    ∃ src dst : Component → Array k.Sample, ∃ u v,
      (∀ c, (inp.plane c).data = .ofArray k (src c)) ∧
      (∀ c, (out.plane c).data = .ofArray k (dst c)) ∧
      (src .y).size = (dst .y).size ∧
      d.HalvesPlane k inp out .u (src .u) (dst .u) u ∧
      d.HalvesPlane k inp out .v (src .v) (dst .v) v ∧
      out.withPicture inp (.ofArray k u) (.ofArray k v) = out' := by
  obtain ⟨-, hkind, hwrite⟩ := halveFrame_eq_ok_iff.mp h
  have hkinds := kindFault?_eq_none_iff.mp hkind
  choose src hsrc using fun c => SampleBuffer.exists_eq_ofArray (hkinds c).1
  choose dst hdst using fun c => SampleBuffer.exists_eq_ofArray (hkinds c).2
  obtain ⟨hluma, u, v, hu, hv, hout'⟩ := (writeFrame_eq_ok_iff hsrc hdst).mp hwrite
  exact ⟨src, dst, u, v, hsrc, hdst, hluma, hu, hv, hout'⟩

/-- A run into another frame of the same geometry and kinds ends in the same frame. -/
lemma halveFrame_congr {out₁ out₂ : Frame} (h : d.halveFrame inp out₁ = .ok () out')
    (hout₁ : out₁.WellSized) (hout₂ : out₂.WellSized) (hgeometry : out₂.SameGeometry out₁)
    (hkind : ∀ c, (out₂.plane c).data.kind = (out₁.plane c).data.kind) :
    d.halveFrame inp out₂ = .ok () out' := by
  obtain ⟨hmismatch, hfault, -⟩ := halveFrame_eq_ok_iff.mp h
  obtain ⟨src, dst₁, u, v, hsrc, hdst₁, hluma, hu, hv, hout'⟩ := exists_of_halveFrame h
  have hfault₂ := (kindFault?_congr hkind).mpr hfault
  choose dst₂ hdst₂ using
    fun c => SampleBuffer.exists_eq_ofArray (kindFault?_eq_none_iff.mp hfault₂ c).2
  have hsize₁ : ∀ c, (dst₁ c).size = (out₁.plane c).width * (out₁.plane c).height := fun c => by
    rw [← SampleBuffer.size_ofArray, ← hdst₁ c, (hout₁ c).size_eq, Plane.sampleCount]
  have hsize₂ : ∀ c, (dst₂ c).size = (out₁.plane c).width * (out₁.plane c).height := fun c => by
    rw [← SampleBuffer.size_ofArray, ← hdst₂ c, (hout₂ c).size_eq, Plane.sampleCount,
      hgeometry.plane_width, hgeometry.plane_height]
  -- both runs fill planes of the same size from the same samples
  have hchroma : ∀ c w, d.HalvesPlane _ inp out₁ c (src c) (dst₁ c) w →
      d.HalvesPlane _ inp out₂ c (src c) (dst₂ c) w := by
    intro c w hw
    rw [HalvesPlane, hgeometry.plane_width, hgeometry.plane_height]
    exact halvePlane_congr hw (hsize₁ c) (hsize₂ c)
  refine halveFrame_eq_ok_iff.mpr ⟨(mismatch?_congr hgeometry).mpr hmismatch, hfault₂,
    (writeFrame_eq_ok_iff hsrc hdst₂).mpr ⟨?_, u, v, hchroma .u u hu, hchroma .v v hv, ?_⟩⟩
  · rw [hluma, hsize₁, hsize₂]
  · rw [← hout', Frame.withPicture_congr hgeometry]

lemma kind_of_halveFrame (h : d.halveFrame inp out = .ok () out') (c : Component) :
    (out.plane c).data.kind = inp.format.filtering := by
  obtain ⟨-, hfault, -⟩ := halveFrame_eq_ok_iff.mp h
  exact (kindFault?_eq_none_iff.mp hfault c).2

lemma HalvesPlane.size_eq {k : SampleKind} {c : Component} {src dst written : Array k.Sample}
    (h : d.HalvesPlane k inp out c src dst written) : written.size = dst.size :=
  (rowsWritten_of_halvePlane h).size_eq

/-- A chroma plane that has been filled holds the halved rows of the input plane. -/
lemma HalvesPlane.rows {k : SampleKind} {c : Component} {src dst written : Array k.Sample}
    (h : d.HalvesPlane k inp out c src dst written) (hsrc : (inp.plane c).data = .ofArray k src)
    (hout' : (out'.plane c).data = .ofArray k written)
    (hwidth' : (out'.plane c).width = (out.plane c).width)
    (hwidth : (inp.plane c).width = 2 * (out.plane c).width)
    (hcount : 2 * (out.plane c).width * (out.plane c).height ≤ src.size)
    {y : ℕ} (hy : y < (out.plane c).height) :
    ∃ row dst, (inp.plane c).row? k y = some row ∧ (out'.plane c).row? k y = some dst ∧
      row.size = 2 * (out.plane c).width ∧
      ∀ old : Array k.Sample, old.size = (out.plane c).width →
        d.halveRow k old row (k.load (k.ofNominal (inp.plane c).range.low))
          (k.load (k.ofNominal (inp.plane c).range.high)) = .ok dst := by
  refine ⟨rowOf src (2 * (out.plane c).width) y, rowOf written (out.plane c).width y, ?_, ?_,
    size_rowOf ((mul_add_le_of_lt hy).trans hcount), (rowsWritten_of_halvePlane h).row_eq y hy⟩
  · rw [Plane.row?, Plane.samples?, hsrc, SampleBuffer.view?_ofArray, hwidth]
    rfl
  · rw [Plane.row?, Plane.samples?, hout', SampleBuffer.view?_ofArray, hwidth']
    rfl

/-- A successful run keeps the shape of the output frame. -/
lemma sameShape_of_halveFrame (h : d.halveFrame inp out = .ok () out') : out'.SameShape out := by
  obtain ⟨src, dst, u, v, hsrc, hdst, hluma, hu, hv, rfl⟩ := exists_of_halveFrame h
  refine
    { toSameGeometry := Frame.withPicture_sameGeometry _ _ _ _
      kind := fun c => ?_
      size := fun c => ?_ }
  · rw [kind_of_halveFrame h]
    cases c with
    | y => exact (congrArg SampleBuffer.kind (hsrc .y)).trans (SampleBuffer.kind_ofArray _ _)
    | u => exact SampleBuffer.kind_ofArray _ _
    | v => exact SampleBuffer.kind_ofArray _ _
  · rw [hdst c, SampleBuffer.size_ofArray]
    cases c with
    | y =>
      rw [← hluma, ← SampleBuffer.size_ofArray, ← hsrc]
      rfl
    | u => exact (SampleBuffer.size_ofArray _ _).trans hu.size_eq
    | v => exact (SampleBuffer.size_ofArray _ _).trans hv.size_eq

lemma halved_of_halveFrame (hinp : inp.WellSized) (hout : out.WellSized)
    (h : d.halveFrame inp out = .ok () out') : Halved d inp out out' := by
  have hshape := sameShape_of_halveFrame h
  obtain ⟨hmismatch, -, -⟩ := halveFrame_eq_ok_iff.mp h
  obtain ⟨src, dst, u, v, hsrc, hdst, -, hu, hv, rfl⟩ := exists_of_halveFrame h
  have hcount : ∀ c ∈ Component.chroma,
      2 * (out.plane c).width * (out.plane c).height ≤ (src c).size := fun c hc => by
    rw [← size_eq_of_mismatch?_eq_none hmismatch hinp hout hc, hsrc, SampleBuffer.size_ofArray]
  refine
    { luma := rfl
      rows := fun c hc y hy => ?_
      number := rfl
      available := rfl
      range := fun c => by cases c <;> rfl
      shape := hshape }
  have hwidth := width_eq_of_mismatch?_eq_none hmismatch hout hc (by omega)
  cases c with
  | y => simp [Component.chroma] at hc
  | u => exact hu.rows (hsrc .u) rfl (hshape.plane_width .u) hwidth (hcount .u hc) hy
  | v => exact hv.rows (hsrc .v) rfl (hshape.plane_width .v) hwidth (hcount .v hc) hy

end Decimator

/-- **A successful run is determined by the input and the geometry of the output.**  It leaves the
picture of the input with its chroma halved; any other well-sized output frame of the same geometry
ends up the same, and is accepted as well if its planes are of the same kinds; and a second run
changes nothing. -/
theorem halveFrame_determined {d : Decimator} {inp out out' : Frame} (hinp : inp.WellSized)
    (hout : out.WellSized) (h : d.halveFrame inp out = .ok () out') :
    Halved d inp out out' ∧
    (∀ out₂ out₂', out₂.WellSized → out₂.SameGeometry out →
      d.halveFrame inp out₂ = .ok () out₂' → out₂' = out') ∧
    (∀ out₂, out₂.WellSized → out₂.SameGeometry out →
      (∀ c, (out₂.plane c).data.kind = (out.plane c).data.kind) →
      d.halveFrame inp out₂ = .ok () out') ∧
    d.halveFrame inp out' = .ok () out' := by
  have hhalved := Decimator.halved_of_halveFrame hinp hout h
  refine ⟨hhalved, fun out₂ out₂' hout₂ hgeometry h₂ => ?_,
    fun out₂ hout₂ hgeometry hkind => ?_, ?_⟩
  · have hrun := Decimator.halveFrame_congr h hout hout₂ hgeometry fun c => by
      rw [Decimator.kind_of_halveFrame h₂, Decimator.kind_of_halveFrame h]
    exact (EStateM.Result.ok.inj (h₂.symm.trans hrun)).2
  · exact Decimator.halveFrame_congr h hout hout₂ hgeometry hkind
  · have hshape := hhalved.shape
    have hout' := hout.of_sameShape hshape
    exact Decimator.halveFrame_congr h hout hout' hshape.toSameGeometry hshape.kind

/-- Bytes left in the output frame do not show in the picture. -/
theorem halveFrame_determined_stale :
    (Frame.edge (.uint8 #[10, 40])).WellSized ∧ Frame.stale.WellSized ∧
      ∃ out', Decimator.sharpen.halveFrame (.edge (.uint8 #[10, 40])) .stale = .ok () out' ∧
        Halved .sharpen (.edge (.uint8 #[10, 40])) .stale out' ∧
        Decimator.sharpen.halveFrame (.edge (.uint8 #[10, 40])) out' = .ok () out' := by
  have hinp := Frame.edge_wellSized (v := .uint8 #[10, 40]) rfl
  have hmismatch : mismatch? .stale (.edge (.uint8 #[10, 40])) = none := rfl
  obtain ⟨out', hwrite⟩ := Decimator.exists_writeFrame (k := .uint8) Decimator.sharpen_isBuilt hinp
    Frame.stale_wellSized hmismatch rfl
  have hrun := (Decimator.halveFrame_of_accepted hmismatch rfl).trans hwrite
  obtain ⟨hhalved, -, -, hagain⟩ := halveFrame_determined hinp Frame.stale_wellSized hrun
  exact ⟨hinp, Frame.stale_wellSized, out', hrun, hhalved, hagain⟩

end PlanarVideo
