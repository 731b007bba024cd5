import PlanarVideo.Proofs.Outcome
import PlanarVideo.TestPattern

/-!
# The shape of a frame

The shape of a frame is its formats, its dimensions, and the kinds and lengths of its buffers.
`Frame.WellFormed` says that the shape is the one `Frame.blank` gives: the planes are those that
the luma size and the two formats call for.  Writing samples, ranges or metadata keeps the shape.
-/

namespace PlanarVideo

open Numeric

/-- The buffer of the plane has the length its dimensions call for, and can be allocated. -/
structure Plane.WellSized (p : Plane) : Prop where
  size_eq : p.data.size = p.sampleCount
  size_lt : p.data.size < 2 ^ 63

lemma Plane.WellSized.width_lt {p : Plane} (h : p.WellSized) (hheight : p.height ≠ 0) :
    p.width < 2 ^ 63 := by
  have hcount : p.width ≤ p.sampleCount := Nat.le_mul_of_pos_right _ (by omega)
  exact hcount.trans_lt (h.size_eq ▸ h.size_lt)

lemma Plane.WellSized.sampleCount_lt {p : Plane} (h : p.WellSized) :
    p.sampleCount < addressable := by
  have hbound : (2 : ℕ) ^ 63 ≤ addressable := by decide
  rw [← h.size_eq]
  exact h.size_lt.trans_le hbound

/-- Samples that fit a buffer are no more than its bytes. -/
lemma SampleKind.lt_of_bytes {k : SampleKind} {count : ℕ} (h : count * k.bytes < byteLimit) :
    count < 2 ^ 63 := by
  have hpos : 0 < k.bytes := by cases k <;> decide
  exact (Nat.le_mul_of_pos_right count hpos).trans_lt h

lemma SampleKind.lt_addressable_of_bytes {k : SampleKind} {count : ℕ}
    (h : count * k.bytes < byteLimit) : count < addressable :=
  (lt_of_bytes h).trans (by decide)

lemma SampleBuffer.exists_eq_ofArray {k : SampleKind} {b : SampleBuffer} (h : b.kind = k) :
    ∃ samples, b = .ofArray k samples := by
  obtain ⟨samples, hview⟩ := Option.isSome_iff_exists.mp (isSome_view?_iff.mpr h)
  exact ⟨samples, view?_eq_some_iff.mp hview⟩

lemma SampleBuffer.ofArray_inj {k : SampleKind} {a b : Array k.Sample}
    (h : ofArray k a = ofArray k b) : a = b := by
  have hview := congrArg (view? k) h
  simpa using hview

/-! ## Writing to a plane -/

namespace Plane

variable {p q : Plane} {values data : SampleBuffer}

/-- Samples are overwritten exactly by samples of the kind that is stored. -/
lemma overwriteSamples?_eq_some_iff :
    p.overwriteSamples? values = some q ↔
      ∃ samples new, p.data = .ofArray p.data.kind samples ∧
        values = .ofArray p.data.kind new ∧
        { p with data := .ofArray p.data.kind (overwrite samples 0 new) } = q := by
  obtain ⟨samples, hdata⟩ := SampleBuffer.exists_eq_ofArray (b := p.data) rfl
  have hsamples : p.samples? p.data.kind = some samples := SampleBuffer.view?_eq_some_iff.mpr hdata
  simp only [overwriteSamples?, hsamples]
  cases hvalues : values.view? p.data.kind with
  | none =>
    simp only [reduceCtorEq, false_iff]
    rintro ⟨_, new, -, rfl, -⟩
    simp at hvalues
  | some new =>
    rw [SampleBuffer.view?_eq_some_iff] at hvalues
    refine ⟨fun h => ⟨samples, new, hdata, hvalues, Option.some.inj h⟩, ?_⟩
    rintro ⟨samples', new', hdata', hvalues', hq⟩
    obtain rfl := SampleBuffer.ofArray_inj (hdata.symm.trans hdata')
    obtain rfl := SampleBuffer.ofArray_inj (hvalues.symm.trans hvalues')
    exact congrArg some hq

lemma replaceData_eq_ok_iff :
    p.replaceData data = .ok q ↔
      data.kind = p.data.kind ∧ data.size = p.data.size ∧ { p with data } = q := by
  unfold replaceData
  by_cases h : data.kind = p.data.kind ∧ data.size = p.data.size
  · simp [h]
  · rw [if_neg h]
    simp only [reduceCtorEq, false_iff]
    exact fun hdata => h ⟨hdata.1, hdata.2.1⟩

end Plane

/-! ## Frames of one shape -/

namespace Frame

variable {f g h : Frame}

/-- All planes of the frame are well sized, whatever their kinds and dimensions. -/
def WellSized (f : Frame) : Prop :=
  ∀ c, (f.plane c).WellSized

/-- The frames agree in format and in all dimensions. -/
structure SameGeometry (f g : Frame) : Prop where
  width : f.width = g.width
  height : f.height = g.height
  chroma : f.chroma = g.chroma
  format : f.format = g.format
  plane_width : ∀ c, (f.plane c).width = (g.plane c).width
  plane_height : ∀ c, (f.plane c).height = (g.plane c).height

/-- The frames also store as many samples of the same kinds. -/
structure SameShape (f g : Frame) : Prop extends f.SameGeometry g where
  kind : ∀ c, (f.plane c).data.kind = (g.plane c).data.kind
  size : ∀ c, (f.plane c).data.size = (g.plane c).data.size

lemma SameShape.refl (f : Frame) : f.SameShape f :=
  ⟨⟨rfl, rfl, rfl, rfl, fun _ => rfl, fun _ => rfl⟩, fun _ => rfl, fun _ => rfl⟩

lemma SameShape.trans (hfg : f.SameShape g) (hgh : g.SameShape h) : f.SameShape h where
  width := hfg.width.trans hgh.width
  height := hfg.height.trans hgh.height
  chroma := hfg.chroma.trans hgh.chroma
  format := hfg.format.trans hgh.format
  plane_width c := (hfg.plane_width c).trans (hgh.plane_width c)
  plane_height c := (hfg.plane_height c).trans (hgh.plane_height c)
  kind c := (hfg.kind c).trans (hgh.kind c)
  size c := (hfg.size c).trans (hgh.size c)

lemma WellSized.of_sameShape (hf : f.WellSized) (h : g.SameShape f) : g.WellSized := fun c => by
  refine ⟨?_, (h.size c).trans_lt (hf c).size_lt⟩
  rw [h.size, (hf c).size_eq, Plane.sampleCount, Plane.sampleCount, h.plane_width, h.plane_height]

/-- A frame keeps its shape under a new plane that has the shape of the old one. -/
lemma withPlane_sameShape (f : Frame) (c : Component) {p : Plane}
    (hwidth : p.width = (f.plane c).width) (hheight : p.height = (f.plane c).height)
    (hkind : p.data.kind = (f.plane c).data.kind) (hsize : p.data.size = (f.plane c).data.size) :
    (f.withPlane c p).SameShape f := by
  -- every plane is an old one, or the new one in its place
  have hplane : ∀ c', (f.withPlane c p).plane c' = f.plane c' ∨
      c' = c ∧ (f.withPlane c p).plane c' = p := by
    intro c'
    by_cases hc : c' = c
    · exact Or.inr ⟨hc, hc ▸ plane_withPlane_self f c p⟩
    · exact Or.inl (plane_withPlane_of_ne f p hc)
  refine
    { width := by cases c <;> rfl
      height := by cases c <;> rfl
      chroma := by cases c <;> rfl
      format := by cases c <;> rfl
      plane_width := fun c' => ?_
      plane_height := fun c' => ?_
      kind := fun c' => ?_
      size := fun c' => ?_ }
  all_goals
    rcases hplane c' with hc | ⟨rfl, hc⟩
    · rw [hc]
    · rw [hc]
      assumption

lemma overwriteSamples?_sameShape {c : Component} {values : SampleBuffer} {p : Plane}
    (h : (f.plane c).overwriteSamples? values = some p) : (f.withPlane c p).SameShape f := by
  obtain ⟨samples, new, hdata, -, rfl⟩ := Plane.overwriteSamples?_eq_some_iff.mp h
  refine withPlane_sameShape f c rfl rfl (SampleBuffer.kind_ofArray _ _) ?_
  conv_rhs => rw [hdata]
  simp only [SampleBuffer.size_ofArray, size_overwrite]

lemma replaceData_sameShape {c : Component} {data : SampleBuffer} {p : Plane}
    (h : (f.plane c).replaceData data = .ok p) : (f.withPlane c p).SameShape f := by
  obtain ⟨hkind, hsize, rfl⟩ := Plane.replaceData_eq_ok_iff.mp h
  exact withPlane_sameShape f c rfl rfl hkind hsize

lemma withMetadata_sameShape (f source : Frame) : (f.withMetadata source).SameShape f where
  width := rfl
  height := rfl
  chroma := rfl
  format := rfl
  plane_width c := by cases c <;> rfl
  plane_height c := by cases c <;> rfl
  kind c := by cases c <;> rfl
  size c := by cases c <;> rfl

end Frame

/-! ## The size of chroma planes -/

lemma ChromaFormat.planeSize_full (width height : ℕ) :
    full.planeSize width height = .ok (width, height) := by
  simp [planeSize, shifts, Nat.mod_one]

lemma ChromaFormat.planeSize_half_eq_ok_iff {width height : ℕ} {size : ℕ × ℕ} :
    half.planeSize width height = .ok size ↔ width % 2 = 0 ∧ (width / 2, height) = size := by
  by_cases h : width % 2 = 0 <;>
    simp [planeSize, shifts, Nat.mod_one, Nat.shiftRight_eq_div_pow, h]

/-! ## What a format is stored in -/

namespace SampleFormat

variable {format : SampleFormat}

/-- Bytes are stored for eight bits. -/
lemma storage_eq_uint8_iff : format.storage = .uint8 ↔ format = .fixed 8 := by
  cases format with
  | float => simp [storage]
  | fixed depth =>
    simp only [storage, fixed.injEq]
    split_ifs <;> simp_all

/-- Words are stored for more than eight bits. -/
lemma storage_eq_uint16_iff : format.storage = .uint16 ↔ ∃ depth > 8, format = .fixed depth := by
  cases format with
  | float => simp [storage]
  | fixed depth =>
    simp only [storage, fixed.injEq, exists_eq_right']
    split_ifs <;> simp_all

/-- Floats are stored for the float format, and for fewer than eight bits. -/
lemma storage_eq_float32_iff :
    format.storage = .float32 ↔ format = .float ∨ ∃ depth < 8, format = .fixed depth := by
  cases format with
  | float => simp [storage]
  | fixed depth =>
    simp only [storage, fixed.injEq, exists_eq_right', reduceCtorEq, false_or]
    split_ifs <;> simp <;> omega

end SampleFormat

/-! ## Well-formed frames -/

/-- The planes are those that the luma size and the formats call for, and can be allocated. -/
structure Frame.WellFormed (f : Frame) : Prop where
  width_pos : 0 < f.width
  height_pos : 0 < f.height
  luma_width : f.y.width = f.width
  luma_height : f.y.height = f.height
  chroma_size : ∀ c ∈ Component.chroma,
    f.chroma.planeSize f.width f.height = .ok ((f.plane c).width, (f.plane c).height)
  wellSized : f.WellSized
  kind : ∀ c, (f.plane c).data.kind = f.format.storage

namespace Frame

variable {f g : Frame} {width height : ℕ} {chroma : ChromaFormat} {format : SampleFormat}

lemma WellFormed.of_sameShape (hf : f.WellFormed) (h : g.SameShape f) : g.WellFormed where
  width_pos := h.width ▸ hf.width_pos
  height_pos := h.height ▸ hf.height_pos
  luma_width := ((h.plane_width .y).trans hf.luma_width).trans h.width.symm
  luma_height := ((h.plane_height .y).trans hf.luma_height).trans h.height.symm
  chroma_size c hc := by
    rw [h.chroma, h.width, h.height, h.plane_width, h.plane_height]
    exact hf.chroma_size c hc
  wellSized := hf.wellSized.of_sameShape h
  kind c := by rw [h.kind, h.format, hf.kind]

lemma WellFormed.even_width (hf : f.WellFormed) (hhalf : f.chroma = .half) : f.width % 2 = 0 := by
  have hsize := hf.chroma_size .u (by decide)
  rw [hhalf, ChromaFormat.planeSize_half_eq_ok_iff] at hsize
  exact hsize.1

/-- A chroma plane has no more samples than the luma plane. -/
lemma count_le_of_planeSize {size : ℕ × ℕ} (h : chroma.planeSize width height = .ok size) :
    size.1 * size.2 ≤ width * height := by
  cases chroma with
  | full =>
    rw [ChromaFormat.planeSize_full] at h
    cases h
    exact le_rfl
  | half =>
    obtain ⟨-, rfl⟩ := ChromaFormat.planeSize_half_eq_ok_iff.mp h
    exact Nat.mul_le_mul_right height (Nat.div_le_self width 2)

/-- What a new frame is, and when there is one.  If the luma plane can be allocated, so can the
chroma planes. -/
lemma blank_eq_ok_iff :
    blank width height chroma format = .ok f ↔
      width ≠ 0 ∧ height ≠ 0 ∧ width * height * format.storage.bytes < byteLimit ∧
        ∃ size, chroma.planeSize width height = .ok size ∧
          { width, height, chroma, format
            number := 0
            available := false
            y := blankPlane format .y width height
            u := blankPlane format .u size.1 size.2
            v := blankPlane format .v size.1 size.2 } = f := by
  unfold blank
  by_cases hempty : width = 0 ∨ height = 0
  · rw [if_pos hempty]
    rcases hempty with h | h <;> simp [h]
  obtain ⟨hwidth, hheight⟩ := not_or.mp hempty
  rw [if_neg hempty]
  cases hsize : chroma.planeSize width height with
  | error e => simp
  | ok size =>
    by_cases hbytes : width * height * format.storage.bytes < byteLimit
    · have hcount := SampleKind.lt_addressable_of_bytes hbytes
      have hchroma : size.1 * size.2 * format.storage.bytes < byteLimit :=
        (Nat.mul_le_mul_right _ (count_le_of_planeSize hsize)).trans_lt hbytes
      simp [sizeProduct?, allocatePlane, hwidth, hheight, hcount, hbytes, hchroma]
    · by_cases hcount : width * height < addressable <;>
        simp [sizeProduct?, allocatePlane, hcount, hbytes]

lemma blankPlane_wellSized (format : SampleFormat) (c : Component) (h : width * height < 2 ^ 63) :
    (blankPlane format c width height).WellSized := by
  have hsize : (blankPlane format c width height).data.size = width * height := by
    rw [blankPlane, SampleBuffer.blank, SampleBuffer.size_ofArray, Array.size_replicate]
  exact ⟨hsize, hsize.trans_lt h⟩

/-- Every new frame is well formed. -/
lemma wellFormed_of_blank (h : blank width height chroma format = .ok f) : f.WellFormed := by
  obtain ⟨hwidth, hheight, hbytes, size, hsize, rfl⟩ := blank_eq_ok_iff.mp h
  have hcount := SampleKind.lt_of_bytes hbytes
  have hchroma := (count_le_of_planeSize hsize).trans_lt hcount
  refine
    { width_pos := Nat.pos_of_ne_zero hwidth
      height_pos := Nat.pos_of_ne_zero hheight
      luma_width := rfl
      luma_height := rfl
      chroma_size := fun c hc => ?_
      wellSized := fun c => ?_
      kind := fun c => ?_ }
  · cases c with
    | y => simp [Component.chroma] at hc
    | u => exact hsize
    | v => exact hsize
  · cases c with
    | y => exact blankPlane_wellSized format .y hcount
    | u => exact blankPlane_wellSized format .u hchroma
    | v => exact blankPlane_wellSized format .v hchroma
  · cases c <;> exact SampleBuffer.kind_ofArray _ _

end Frame

/-! ## The frames of the test pattern -/

namespace TestPattern

variable {f g : Frame} {width height : ℕ} {format : SampleFormat}

lemma pair_eq_ok_iff :
    pair width height format = .ok (f, g) ↔
      ∃ source, Frame.blank width height .full format = .ok source ∧
        Frame.blank width height .half format = .ok g ∧
        (source.withPlane .u (busy source.u)).withPlane .v (busy source.v) = f := by
  unfold pair
  cases Frame.blank width height .full format with
  | error e => simp
  | ok source =>
    cases Frame.blank width height .half format with
    | error e => simp
    | ok destination => simp [Frame.withPlane, and_comm]

lemma busy_sameShape (f : Frame) (c : Component) :
    (f.withPlane c (busy (f.plane c))).SameShape f := by
  refine f.withPlane_sameShape c rfl rfl (SampleBuffer.kind_ofArray _ _) ?_
  simp [busy, SampleBuffer.size_ofArray]

lemma wellFormed_of_pair (h : pair width height format = .ok (f, g)) :
    f.WellFormed ∧ g.WellFormed := by
  obtain ⟨source, hsource, hdestination, rfl⟩ := pair_eq_ok_iff.mp h
  have hu := (Frame.wellFormed_of_blank hsource).of_sameShape (busy_sameShape source .u)
  refine ⟨?_, Frame.wellFormed_of_blank hdestination⟩
  exact hu.of_sameShape (busy_sameShape (source.withPlane .u (busy source.u)) .v)

end TestPattern
end PlanarVideo
