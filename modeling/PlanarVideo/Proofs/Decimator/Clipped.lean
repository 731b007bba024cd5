import PlanarVideo.Proofs.Decimator.Picture
import PlanarVideo.Proofs.SampleKind.Order

/-!
# Clip ranges are kept

Where the primary table clips, the clamp is the last thing that happens to a result before it is
stored, whatever a guard has made of it.  The ends of the clip range are samples themselves, and a
value that is clamped between two samples is stored between them.  So all samples that are written
keep to the clip range; only NaN passes the clamp, and stays NaN.
-/

namespace PlanarVideo

open Numeric

namespace Decimator

variable {d : Decimator} {k : SampleKind}

lemma within_plainSample (hclip : d.primary.clip = true) {low high : k.Sample} (h : low ≤ high)
    (level : ℕ → k.Acc) (last i : ℕ) :
    k.Within low high (d.plainSample k level last (k.load low) (k.load high) i) := by
  rw [plainSample, if_pos hclip]
  exact k.within_store_clamp h _

/-- All samples of a plane that has been written. -/
lemma within_of_halvePlane (hd : d.IsBuilt) (hclip : d.primary.clip = true)
    {inp out out' : Array k.Sample} {width height : ℕ} {low high : k.Sample} (h : low ≤ high)
    (hrun : d.halvePlane k inp width height low high out = .ok () out') {i : ℕ}
    (hi : i < width * height) : ∃ x, out'[i]? = some x ∧ k.Within low high x := by
  obtain ⟨y, hy, j, hj, rfl⟩ := exists_row_column hi
  exact ⟨_, getElem?_of_halvePlane hd hrun hy hj, within_plainSample hclip h _ _ _⟩

/-- What a successful run has written into a chroma plane. -/
lemma exists_halvesPlane {inp out out' : Frame} (h : d.halveFrame inp out = .ok () out')
    {c : Component} (hc : c ∈ Component.chroma) :
    let k := inp.format.filtering
    ∃ src dst written, (out.plane c).data = .ofArray k dst ∧
      d.HalvesPlane k inp out c src dst written ∧ (out'.plane c).data = .ofArray k written := by
  obtain ⟨src, dst, u, v, -, hdst, -, hu, hv, rfl⟩ := exists_of_halveFrame h
  cases c with
  | y => simp [Component.chroma] at hc
  | u => exact ⟨src .u, dst .u, u, hdst .u, hu, rfl⟩
  | v => exact ⟨src .v, dst .v, v, hdst .v, hv, rfl⟩

end Decimator

/-- **Clipping keeps to the clip range.**  Let the primary table of a built decimator clip, with any
guard.  Whenever a plane has been written, with ends that stand the right way round, each of its
samples lies between them, if it is a number.  Whenever a frame has been written, each chroma plane
keeps to the nominal range of its input plane in the same way, whose ends are rounded to samples. -/
theorem clip_confines {d : Decimator} (hd : d.IsBuilt) (hclip : d.primary.clip = true) :
    (∀ (k : SampleKind) (inp out out' : Array k.Sample) (width height : ℕ) (low high : k.Sample),
      low ≤ high → d.halvePlane k inp width height low high out = .ok () out' →
      ∀ i < width * height, ∃ x, out'[i]? = some x ∧ k.Within low high x) ∧
    (∀ inp out out' : Frame, out.WellSized → d.halveFrame inp out = .ok () out' →
      ∀ c ∈ Component.chroma,
        let k := inp.format.filtering
        let low := k.ofNominal (inp.plane c).range.low
        let high := k.ofNominal (inp.plane c).range.high
        ∃ samples, (out'.plane c).data = .ofArray k samples ∧
          (low ≤ high → ∀ x ∈ samples, k.Within low high x)) := by
  constructor
  · intro k inp out out' width height low high hle hrun i hi
    exact Decimator.within_of_halvePlane hd hclip hle hrun hi
  · intro inp out out' hout hrun c hc k low high
    obtain ⟨src, dst, written, hdst, hplane, hwritten⟩ := Decimator.exists_halvesPlane hrun hc
    refine ⟨written, hwritten, fun hle x hx => ?_⟩
    have hsize : written.size = (out.plane c).width * (out.plane c).height := by
      rw [hplane.size_eq, ← SampleBuffer.size_ofArray, ← hdst, (hout c).size_eq, Plane.sampleCount]
    obtain ⟨i, hi, rfl⟩ := Array.mem_iff_getElem.mp hx
    obtain ⟨x, hget, hwithin⟩ :=
      Decimator.within_of_halvePlane hd hclip hle hplane (hi.trans_eq hsize)
    rw [Array.getElem?_eq_getElem hi, Option.some.injEq] at hget
    rwa [hget]

/-- Two bytes that rise from below the nominal range of their plane. -/
def Frame.undershoot : Frame :=
  (Frame.edge (.uint8 #[10, 40])).withPlane .u
    { width := 2
      height := 1
      range := { low := 16, neutral := 128, high := 235 }
      data := .uint8 #[10, 40] }

lemma Frame.undershoot_wellSized : undershoot.WellSized := fun c => by
  cases c <;> exact ⟨rfl, (by decide : 2 < 2 ^ 63)⟩

/-- Left of a rising edge from ten to forty, sharpening goes down to minus five.  What is stored is
in the clip range of the float plane, and in the nominal range of the plane of bytes. -/
theorem clip_confines_undershoot :
    Decimator.sharpen.IsBuilt ∧ Decimator.sharpen.primary.clip = true ∧
      (∃ out' x, Decimator.sharpen.halvePlane .float32 #[10, 40] 1 1 (0 : Float32) (255 : Float32)
          #[9] = .ok () out' ∧
        out'[0]? = some x ∧ SampleKind.float32.Within (0 : Float32) (255 : Float32) x) ∧
      Frame.stale.WellSized ∧
      ∃ out' samples, Decimator.sharpen.halveFrame .undershoot .stale = .ok () out' ∧
        (out'.plane .u).data = .uint8 samples ∧ ∀ x ∈ samples, 16 ≤ x ∧ x ≤ 235 := by
  have hbuilt := Decimator.sharpen_isBuilt
  obtain ⟨hplane, hframe⟩ := clip_confines hbuilt rfl
  refine ⟨hbuilt, rfl, ?_, Frame.stale_wellSized, ?_⟩
  · obtain ⟨out', hrun⟩ : ∃ out', Decimator.sharpen.halvePlane .float32 #[10, 40] 1 1
        (0 : Float32) (255 : Float32) #[9] = .ok () out' :=
      Decimator.exists_halvePlane hbuilt rfl rfl (by decide) _ _
    obtain ⟨x, hx, hwithin⟩ := hplane .float32 _ _ _ 1 1 0 255 (by decide +kernel) hrun 0 one_pos
    exact ⟨out', x, hrun, hx, hwithin⟩
  · obtain ⟨out', hrun⟩ := Decimator.exists_halveFrame hbuilt Frame.undershoot_wellSized
      Frame.stale_wellSized rfl rfl
    obtain ⟨samples, hsamples, hwithin⟩ := hframe _ _ out' Frame.stale_wellSized hrun .u (by decide)
    have hlow : SampleKind.uint8.ofNominal 16 = (16 : UInt8) := by decide +kernel
    have hhigh : SampleKind.uint8.ofNominal 235 = (235 : UInt8) := by decide +kernel
    have hends : SampleKind.uint8.ofNominal 16 ≤ SampleKind.uint8.ofNominal 235 := by
      rw [hlow, hhigh]
      decide
    refine ⟨out', samples, hrun, hsamples, fun x hx => ?_⟩
    rw [← hlow, ← hhigh]
    exact (hwithin hends x hx).resolve_left id

end PlanarVideo
