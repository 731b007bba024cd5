import PlanarVideo.Proofs.Decimator.Plane
import PlanarVideo.Proofs.Frame.Shape
import PlanarVideo.Proofs.TapSum.Exact
import PlanarVideo.Decimator.Frame

/-!
# Frames are halved completely or not at all

`halveFrame` compares two frames before it writes.  Here the comparisons are shown to be all that
can fail: once they pass, every length that the writing relies on is right.  A failed run leaves
the output frame as it was, and a successful one leaves a frame that is determined by the input
and by the geometry of the output.
-/

namespace PlanarVideo

open Numeric

/-! ## The comparisons -/

section Comparisons

variable {k : SampleKind} {inp out : Frame}

lemma mismatch?_eq_none_iff :
    mismatch? out inp = none ↔
      inp.format = out.format ∧ inp.y.sampleCount = out.y.sampleCount ∧
        ∀ c ∈ Component.chroma, (inp.plane c).width = saturatingDouble (out.plane c).width ∧
          (inp.plane c).height = (out.plane c).height := by
  unfold mismatch?
  by_cases hformat : inp.format = out.format
  · by_cases hcount : inp.y.sampleCount = out.y.sampleCount
    · simp [hformat, hcount, List.findSome?_eq_none_iff]
    · simp [hformat, hcount]
  · simp [hformat]

lemma isMismatch_of_mismatch? {e : DecimationError} (h : mismatch? out inp = some e) :
    e.isMismatch = true := by
  unfold mismatch? at h
  split at h
  · cases h
    rfl
  · split at h
    · cases h
      rfl
    · obtain ⟨c, -, hc⟩ := List.exists_of_findSome?_eq_some h
      dsimp only at hc
      split at hc
      · cases hc
      · cases hc
        rfl

lemma kindFault?_eq_none_iff :
    kindFault? k out inp = none ↔
      ∀ c, (inp.plane c).data.kind = k ∧ (out.plane c).data.kind = k := by
  simp only [kindFault?, List.findSome?_eq_none_iff]
  constructor
  · intro h c
    have hc := h c (by cases c <;> decide)
    simpa using hc
  · intro h c _
    exact if_pos (h c)

lemma exists_planeMismatch_of_kindFault? {e : FrameError} (h : kindFault? k out inp = some e) :
    ∃ expected got, e = .planeMismatch expected got := by
  obtain ⟨c, -, hc⟩ := List.exists_of_findSome?_eq_some h
  dsimp only at hc
  split at hc
  · cases hc
  · cases hc
    exact ⟨_, _, rfl⟩

end Comparisons

namespace Decimator

variable {d : Decimator} {k : SampleKind} {inp out out' : Frame}

lemma halveFrame_of_mismatch {e : DecimationError} (h : mismatch? out inp = some e) :
    d.halveFrame inp out = .error e out := by
  rw [halveFrame, run_get_bind]
  simp only [h, run_throw]

lemma halveFrame_of_kindFault {e : FrameError} (h : mismatch? out inp = none)
    (hkind : kindFault? inp.format.filtering out inp = some e) :
    d.halveFrame inp out = .error (.frame e) out := by
  rw [halveFrame, run_get_bind]
  simp only [h, hkind, run_throw]

lemma halveFrame_of_accepted (h : mismatch? out inp = none)
    (hkind : kindFault? inp.format.filtering out inp = none) :
    d.halveFrame inp out = d.writeFrame inp.format.filtering inp out := by
  rw [halveFrame, run_get_bind]
  simp only [h, hkind]

end Decimator

/-! ## The writing -/

namespace Frame

/-- The frame with other samples for a component. -/
def withSamples (f : Frame) (c : Component) (data : SampleBuffer) : Frame :=
  f.withPlane c { f.plane c with data }

/-- The frame `out` with the metadata and the luma of `inp` and with the given chroma samples. -/
def withPicture (out inp : Frame) (u v : SampleBuffer) : Frame :=
  (((out.withMetadata inp).withSamples .y inp.y.data).withSamples .u u).withSamples .v v

end Frame

lemma copyLuma_eq_ok_iff {k : SampleKind} {inp : Frame} (out : Frame) {out' : Frame}
    {src dst : Array k.Sample} (hsrc : inp.y.data = .ofArray k src)
    (hdst : out.y.data = .ofArray k dst) :
    copyLuma k inp out = .ok () out' ↔
      src.size = dst.size ∧ out.withSamples .y inp.y.data = out' := by
  have hsrc' : inp.y.samples? k = some src := by
    rw [Plane.samples?, hsrc, SampleBuffer.view?_ofArray]
  have hdst' : out.y.samples? k = some dst := by
    rw [Plane.samples?, hdst, SampleBuffer.view?_ofArray]
  rw [copyLuma, run_get_bind]
  simp only [hsrc', hdst']
  by_cases h : src.size = dst.size
  · simp [h, hsrc, run_set, Frame.withSamples, Frame.withPlane, Frame.plane]
  · simp [h, run_throw]

namespace Decimator

variable {d : Decimator} {k : SampleKind} {inp out out' : Frame}

/-- The run of `halvePlane` that fills the plane of a component. -/
def HalvesPlane (d : Decimator) (k : SampleKind) (inp out : Frame) (c : Component)
    (src dst written : Array k.Sample) : Prop :=
  d.halvePlane k src (out.plane c).width (out.plane c).height
    (k.ofNominal (inp.plane c).range.low) (k.ofNominal (inp.plane c).range.high) dst
    = .ok () written

lemma writeChroma_eq_ok_iff (out : Frame) {c : Component} {src dst : Array k.Sample}
    (hsrc : (inp.plane c).data = .ofArray k src) (hdst : (out.plane c).data = .ofArray k dst) :
    d.writeChroma k inp c out = .ok () out' ↔
      ∃ written, d.HalvesPlane k inp out c src dst written ∧
        out.withSamples c (.ofArray k written) = out' := by
  have hsrc' : (inp.plane c).samples? k = some src := by
    rw [Plane.samples?, hsrc, SampleBuffer.view?_ofArray]
  have hdst' : (out.plane c).samples? k = some dst := by
    rw [Plane.samples?, hdst, SampleBuffer.view?_ofArray]
  rw [writeChroma, run_get_bind]
  simp only [hsrc', hdst', HalvesPlane]
  cases d.halvePlane k src (out.plane c).width (out.plane c).height
    (k.ofNominal (inp.plane c).range.low) (k.ofNominal (inp.plane c).range.high) dst with
  | ok u written => simp [run_set, Frame.withSamples]
  | error e written => simp [run_set_bind, run_throw]

/-- The writing succeeds exactly if the luma lengths agree and both chroma planes are filled. -/
lemma writeFrame_eq_ok_iff {src dst : Component → Array k.Sample}
    (hsrc : ∀ c, (inp.plane c).data = .ofArray k (src c))
    (hdst : ∀ c, (out.plane c).data = .ofArray k (dst c)) :
    d.writeFrame k inp out = .ok () out' ↔
      (src .y).size = (dst .y).size ∧
        ∃ u v, d.HalvesPlane k inp out .u (src .u) (dst .u) u ∧
          d.HalvesPlane k inp out .v (src .v) (dst .v) v ∧
          out.withPicture inp (.ofArray k u) (.ofArray k v) = out' := by
  change (EStateM.modifyGet (fun out => ((), out.withMetadata inp)) >>= fun _ =>
    copyLuma k inp >>= fun _ => d.writeChroma k inp .u >>= fun _ => d.writeChroma k inp .v) out
      = .ok () out' ↔ _
  simp only [run_bind_eq_ok_iff]
  -- the output frame after the metadata, after luma, and after the first chroma plane
  let out₀ := out.withMetadata inp
  let out₁ := out₀.withSamples .y inp.y.data
  let out₂ := fun u => out₁.withSamples .u (.ofArray k u)
  constructor
  · rintro ⟨_, _, hmeta, _, _, hluma, _, _, hblue, hred⟩
    cases hmeta
    obtain ⟨hsize, rfl⟩ := (copyLuma_eq_ok_iff out₀ (hsrc .y) (hdst .y)).mp hluma
    obtain ⟨u, hu, rfl⟩ := (writeChroma_eq_ok_iff out₁ (hsrc .u) (hdst .u)).mp hblue
    obtain ⟨v, hv, rfl⟩ := (writeChroma_eq_ok_iff (out₂ u) (hsrc .v) (hdst .v)).mp hred
    exact ⟨hsize, u, v, hu, hv, rfl⟩
  · rintro ⟨hsize, u, v, hu, hv, rfl⟩
    exact ⟨(), _, rfl,
      (), _, (copyLuma_eq_ok_iff out₀ (hsrc .y) (hdst .y)).mpr ⟨hsize, rfl⟩,
      (), _, (writeChroma_eq_ok_iff out₁ (hsrc .u) (hdst .u)).mpr ⟨u, hu, rfl⟩,
      (writeChroma_eq_ok_iff (out₂ u) (hsrc .v) (hdst .v)).mpr ⟨v, hv, rfl⟩⟩

/-- A run succeeds exactly if all comparisons pass and the writing succeeds. -/
lemma halveFrame_eq_ok_iff :
    d.halveFrame inp out = .ok () out' ↔
      mismatch? out inp = none ∧ kindFault? inp.format.filtering out inp = none ∧
        d.writeFrame inp.format.filtering inp out = .ok () out' := by
  cases hmismatch : mismatch? out inp with
  | some e => simp [halveFrame_of_mismatch hmismatch]
  | none =>
    cases hkind : kindFault? inp.format.filtering out inp with
    | some e => simp [halveFrame_of_kindFault hmismatch hkind]
    | none => simp [halveFrame_of_accepted hmismatch hkind]

/-! ## All or nothing -/

lemma saturatingDouble_eq {a : ℕ} (h : a < 2 ^ 63) : saturatingDouble a = 2 * a := by
  have hsize : addressable = 2 * 2 ^ 63 := by decide
  rw [saturatingDouble]
  omega

/-- Behind the comparisons, the input plane is twice as wide wherever there is a row. -/
lemma width_eq_of_mismatch?_eq_none (h : mismatch? out inp = none) (hout : out.WellSized)
    {c : Component} (hc : c ∈ Component.chroma) (hheight : (out.plane c).height ≠ 0) :
    (inp.plane c).width = 2 * (out.plane c).width := by
  have hwidth := (hout c).width_lt hheight
  rw [((mismatch?_eq_none_iff.mp h).2.2 c hc).1, saturatingDouble_eq hwidth]

lemma size_eq_of_mismatch?_eq_none (h : mismatch? out inp = none) (hinp : inp.WellSized)
    (hout : out.WellSized) {c : Component} (hc : c ∈ Component.chroma) :
    (inp.plane c).data.size = 2 * (out.plane c).width * (out.plane c).height := by
  rw [(hinp c).size_eq, Plane.sampleCount, ((mismatch?_eq_none_iff.mp h).2.2 c hc).2]
  by_cases hheight : (out.plane c).height = 0
  · rw [hheight, Nat.mul_zero, Nat.mul_zero]
  · rw [width_eq_of_mismatch?_eq_none h hout hc hheight]

/-- Behind the comparisons, nothing can fail. -/
lemma exists_writeFrame (hd : d.IsBuilt) (hinp : inp.WellSized) (hout : out.WellSized)
    (hmismatch : mismatch? out inp = none) (hkind : kindFault? k out inp = none) :
    ∃ out', d.writeFrame k inp out = .ok () out' := by
  have hkinds := kindFault?_eq_none_iff.mp hkind
  choose src hsrc using fun c => SampleBuffer.exists_eq_ofArray (hkinds c).1
  choose dst hdst using fun c => SampleBuffer.exists_eq_ofArray (hkinds c).2
  have hluma : (src .y).size = (dst .y).size := by
    have hi := (hinp .y).size_eq
    have ho := (hout .y).size_eq
    rw [hsrc, SampleBuffer.size_ofArray] at hi
    rw [hdst, SampleBuffer.size_ofArray] at ho
    rw [hi, ho]
    exact (mismatch?_eq_none_iff.mp hmismatch).2.1
  -- a chroma plane of the input holds twice as many samples, whether it has rows or not
  have hchroma : ∀ c ∈ Component.chroma, ∃ w, d.HalvesPlane k inp out c (src c) (dst c) w := by
    intro c hc
    have hi := size_eq_of_mismatch?_eq_none hmismatch hinp hout hc
    have ho := (hout c).size_eq
    have hlt := (hinp c).size_lt
    rw [hsrc, SampleBuffer.size_ofArray] at hi hlt
    rw [hdst, SampleBuffer.size_ofArray] at ho
    exact exists_halvePlane hd ho hi hlt _ _
  obtain ⟨u, hu⟩ := hchroma .u (by decide)
  obtain ⟨v, hv⟩ := hchroma .v (by decide)
  exact ⟨_, (writeFrame_eq_ok_iff hsrc hdst).mpr ⟨hluma, u, v, hu, hv, rfl⟩⟩

lemma exists_halveFrame (hd : d.IsBuilt) (hinp : inp.WellSized) (hout : out.WellSized)
    (hmismatch : mismatch? out inp = none)
    (hkind : kindFault? inp.format.filtering out inp = none) :
    ∃ out', d.halveFrame inp out = .ok () out' := by
  rw [halveFrame_of_accepted hmismatch hkind]
  exact exists_writeFrame hd hinp hout hmismatch hkind

/-- An error comes from a comparison, before anything has been written. -/
lemma eq_of_halveFrame_eq_error (hd : d.IsBuilt) (hinp : inp.WellSized) (hout : out.WellSized)
    {e : DecimationError} (h : d.halveFrame inp out = .error e out') :
    out' = out ∧ (mismatch? out inp = some e ∨
      ∃ fault, kindFault? inp.format.filtering out inp = some fault ∧ e = .frame fault) := by
  cases hmismatch : mismatch? out inp with
  | some fault =>
    rw [halveFrame_of_mismatch hmismatch] at h
    cases h
    exact ⟨rfl, Or.inl rfl⟩
  | none =>
    cases hkind : kindFault? inp.format.filtering out inp with
    | some fault =>
      rw [halveFrame_of_kindFault hmismatch hkind] at h
      cases h
      exact ⟨rfl, Or.inr ⟨fault, rfl, rfl⟩⟩
    | none =>
      obtain ⟨written, hrun⟩ := exists_halveFrame hd hinp hout hmismatch hkind
      rw [hrun] at h
      cases h

end Decimator

/-- **Halving is all or nothing.**  A run of a built decimator on well-sized frames that ends in an
error has left the output frame as it was, and the error is a mismatch of formats, of sizes, or of
the planes' contents.  Once the comparisons pass, the luma planes are of one length, the anchor
columns are far from the end of the address space, and the writing goes through.  No sum that is
formed on the way, in whatever row of words or bytes, leaves the accumulator. -/
theorem halveFrame_all_or_nothing {d : Decimator} (hd : d.IsBuilt) {inp out : Frame}
    (hinp : inp.WellSized) (hout : out.WellSized) :
    (∀ e out', d.halveFrame inp out = .error e out' →
      out' = out ∧
        (e.isMismatch = true ∨ ∃ expected got, e = .frame (.planeMismatch expected got))) ∧
    (mismatch? out inp = none → kindFault? inp.format.filtering out inp = none →
      inp.y.data.size = out.y.data.size ∧
      (∀ c ∈ Component.chroma, (out.plane c).height ≠ 0 → 2 * (out.plane c).width < 2 ^ 63) ∧
      ∃ out', d.halveFrame inp out = .ok () out') ∧
    (∀ c ∈ Component.chroma, ∀ (k : IntegerKind) (src : Array k.kind.Sample),
      (inp.plane c).data = .ofArray k.kind src → ∀ y i,
        let width := 2 * (out.plane c).width
        d.primary.SumsFit (k.levels (rowOf src width y)) (2 * i) (width - 1)) := by
  refine ⟨?_, ?_, ?_⟩
  · intro e out' h
    obtain ⟨rfl, hmismatch | ⟨fault, hkind, rfl⟩⟩ :=
      Decimator.eq_of_halveFrame_eq_error hd hinp hout h
    · exact ⟨rfl, Or.inl (isMismatch_of_mismatch? hmismatch)⟩
    · obtain ⟨expected, got, rfl⟩ := exists_planeMismatch_of_kindFault? hkind
      exact ⟨rfl, Or.inr ⟨expected, got, rfl⟩⟩
  · intro hmismatch hkind
    refine ⟨?_, fun c hc hheight => ?_, Decimator.exists_halveFrame hd hinp hout hmismatch hkind⟩
    · have hcount := (mismatch?_eq_none_iff.mp hmismatch).2.1
      exact ((hinp .y).size_eq.trans hcount).trans (hout .y).size_eq.symm
    · have hwide := Nat.le_mul_of_pos_right (2 * (out.plane c).width) (Nat.pos_of_ne_zero hheight)
      have hsize := Decimator.size_eq_of_mismatch?_eq_none hmismatch hinp hout hc
      exact hwide.trans_lt (hsize ▸ (hinp c).size_lt)
  · intro c _ k src _ y i width
    exact sumsFit hd.primary.accepted k (rowOf src width y) (2 * i) (width - 1)

/-- A full-chroma frame of one row of two bytes, with a second chroma plane of any samples. -/
def Frame.edge (v : SampleBuffer) : Frame where
  width := 2
  height := 1
  chroma := .full
  format := .fixed 8
  number := 7
  available := true
  y := { width := 2, height := 1, range := .fullScale (.fixed 8) .y, data := .uint8 #[1, 2] }
  u := { width := 2, height := 1, range := .fullScale (.fixed 8) .u, data := .uint8 #[10, 40] }
  v := { width := 2, height := 1, range := .fullScale (.fixed 8) .v, data := v }

/-- A half-chroma frame of one row of bytes, holding stale samples. -/
def Frame.stale : Frame where
  width := 2
  height := 1
  chroma := .half
  format := .fixed 8
  number := 0
  available := false
  y := { width := 2, height := 1, range := .fullScale (.fixed 8) .y, data := .uint8 #[9, 9] }
  u := { width := 1, height := 1, range := .fullScale (.fixed 8) .u, data := .uint8 #[9] }
  v := { width := 1, height := 1, range := .fullScale (.fixed 8) .v, data := .uint8 #[9] }

lemma Frame.edge_wellSized {v : SampleBuffer} (hv : v.size = 2) : (edge v).WellSized := fun c => by
  cases c with
  | y => exact ⟨rfl, (by decide : 2 < 2 ^ 63)⟩
  | u => exact ⟨rfl, (by decide : 2 < 2 ^ 63)⟩
  | v => exact ⟨hv, hv.trans_lt (by decide)⟩

lemma Frame.stale_wellSized : stale.WellSized := fun c => by
  cases c <;> exact ⟨rfl, by decide⟩

/-- A plane of words among planes of bytes is refused, after all sizes have been found right. -/
theorem halveFrame_all_or_nothing_swapped_plane :
    Decimator.sharpen.IsBuilt ∧ (Frame.edge (.uint16 #[10, 40])).WellSized ∧
      Frame.stale.WellSized ∧
      ∃ e out', Decimator.sharpen.halveFrame (.edge (.uint16 #[10, 40])) .stale = .error e out' ∧
        out' = .stale ∧
        (e.isMismatch = true ∨ ∃ expected got, e = .frame (.planeMismatch expected got)) := by
  have hinp := Frame.edge_wellSized (v := .uint16 #[10, 40]) rfl
  have hall := halveFrame_all_or_nothing Decimator.sharpen_isBuilt hinp Frame.stale_wellSized
  have hrun : Decimator.sharpen.halveFrame (.edge (.uint16 #[10, 40])) .stale = .error _ .stale :=
    Decimator.halveFrame_of_kindFault rfl rfl
  exact ⟨Decimator.sharpen_isBuilt, hinp, Frame.stale_wellSized, _, _, hrun, hall.1 _ _ hrun⟩

end PlanarVideo
