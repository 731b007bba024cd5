import PlanarVideo.Proofs.FrameStore.Decimation

/-!
# The frames of the test pattern

The test pattern makes a frame of full chroma and a frame of half chroma, of one size and format.
It fails where one of the two is not made, and both are asked for in a fixed order, so each size has
one outcome.  Where the pattern is made, the second frame can always take the first one halved, as
long as the format is stored in the kind in which it is filtered.
-/

namespace PlanarVideo

open Numeric

/-! ## Frames that have been made -/

/-- The frame has the given size and formats, the planes that these call for, and the metadata and
the ranges of a new frame.  Nothing is said of its samples. -/
structure Frame.Fresh (f : Frame) (width height : ℕ) (chroma : ChromaFormat)
    (format : SampleFormat) : Prop where
  wellFormed : f.WellFormed
  width_eq : f.width = width
  height_eq : f.height = height
  chroma_eq : f.chroma = chroma
  format_eq : f.format = format
  number_eq : f.number = 0
  available_eq : f.available = false
  range_eq : ∀ c, (f.plane c).range = .fullScale format c

namespace Frame

variable {f : Frame} {width height : ℕ} {chroma : ChromaFormat} {format : SampleFormat}

lemma exists_blank {size : ℕ × ℕ} (hwidth : width ≠ 0) (hheight : height ≠ 0)
    (hbytes : width * height * format.storage.bytes < byteLimit)
    (hsize : chroma.planeSize width height = .ok size) :
    ∃ f, blank width height chroma format = .ok f :=
  ⟨_, blank_eq_ok_iff.mpr ⟨hwidth, hheight, hbytes, size, hsize, rfl⟩⟩

lemma fresh_of_blank (h : blank width height chroma format = .ok f) :
    f.Fresh width height chroma format := by
  have hwellFormed := wellFormed_of_blank h
  obtain ⟨-, -, -, size, -, rfl⟩ := blank_eq_ok_iff.mp h
  exact ⟨hwellFormed, rfl, rfl, rfl, rfl, rfl, rfl, fun c => by cases c <;> rfl⟩

/-- All samples of a new frame are zero. -/
lemma data_of_blank (h : blank width height chroma format = .ok f) (c : Component) :
    (f.plane c).data = .blank format.storage (f.plane c).sampleCount := by
  obtain ⟨-, -, -, size, -, rfl⟩ := blank_eq_ok_iff.mp h
  cases c <;> rfl

/-- With full chroma, the three planes have one size. -/
lemma sampleCount_of_blank_full (h : blank width height .full format = .ok f) (c : Component) :
    (f.plane c).sampleCount = width * height := by
  obtain ⟨-, -, -, size, hsize, rfl⟩ := blank_eq_ok_iff.mp h
  rw [ChromaFormat.planeSize_full] at hsize
  cases hsize
  cases c <;> rfl

lemma Fresh.withBusy (hf : f.Fresh width height chroma format) (c : Component) :
    (f.withPlane c (TestPattern.busy (f.plane c))).Fresh width height chroma format := by
  have hshape := TestPattern.busy_sameShape f c
  refine ⟨hf.wellFormed.of_sameShape hshape, hshape.width.trans hf.width_eq,
    hshape.height.trans hf.height_eq, hshape.chroma.trans hf.chroma_eq,
    hshape.format.trans hf.format_eq, ?_, ?_, fun c' => ?_⟩
  · cases c <;> exact hf.number_eq
  · cases c <;> exact hf.available_eq
  · by_cases hc : c' = c
    · subst hc
      rw [plane_withPlane_self]
      exact hf.range_eq c'
    · rw [plane_withPlane_of_ne f _ hc]
      exact hf.range_eq c'

end Frame

/-- The bytes of a sample of the format: one for eight bits, two for more, and four otherwise. -/
def SampleFormat.sampleBytes : SampleFormat → ℕ
  | .float => 4
  | .fixed depth => if depth = 8 then 1 else if 8 < depth then 2 else 4

lemma SampleFormat.bytes_storage (format : SampleFormat) :
    format.storage.bytes = format.sampleBytes := by
  cases format with
  | float => rfl
  | fixed depth =>
    simp only [storage, sampleBytes]
    split_ifs <;> rfl

lemma SampleFormat.sampleBytes_le (format : SampleFormat) : format.sampleBytes ≤ 4 := by
  cases format with
  | float => exact le_rfl
  | fixed depth =>
    simp only [sampleBytes]
    split_ifs <;> omega

namespace TestPattern

variable {f g : Frame} {width height : ℕ} {format : SampleFormat}

/-! ## Busy planes -/

/-- The samples of a busy plane, of any kind. -/
lemma samples?_busy (p : Plane) {k : SampleKind} (hk : p.data.kind = k) :
    ∃ samples, (busy p).samples? k = some samples ∧ samples.size = p.data.size ∧
      ∀ i < p.data.size, samples[i]? = some (k.ofNominal (level p.range i)) := by
  subst hk
  refine ⟨_, SampleBuffer.view?_ofArray _ _, ?_, ?_⟩
  · simp
  · intro i hi
    simp [hi]

/-! ## Sizes without a pair -/

/-- Why there is no pair of a given size and format.  The source frame is asked for first, so the
destination is refused only where the source is made. -/
inductive Refused (width height : ℕ) (format : SampleFormat) : Fault → Prop
  | empty (h : width = 0 ∨ height = 0) :
      Refused width height format (.source (.refused (.invalidDimensions width height .empty)))
  | uncountable (hwidth : width ≠ 0) (hheight : height ≠ 0) (h : 2 ^ 64 ≤ width * height) :
      Refused width height format
        (.source (.refused (.invalidDimensions width height .uncountable)))
  | unallocatable (hwidth : width ≠ 0) (hheight : height ≠ 0) (hcount : width * height < 2 ^ 64)
      (h : 2 ^ 63 ≤ width * height * format.sampleBytes) :
      Refused width height format (.source .unallocatable)
  | odd (hwidth : width ≠ 0) (hheight : height ≠ 0)
      (hbytes : width * height * format.sampleBytes < 2 ^ 63) (hcount : width * height < 2 ^ 64)
      (h : width % 2 = 1) :
      Refused width height format
        (.destination (.refused (.invalidDimensions width height (.indivisible .half))))

lemma Refused.unique {fault fault' : Fault} (h : Refused width height format fault)
    (h' : Refused width height format fault') : fault = fault' := by
  cases h <;> cases h' <;> first | rfl | omega

lemma planeSize_half_of_odd (h : width % 2 = 1) (height : ℕ) :
    ChromaFormat.half.planeSize width height
      = .error (.invalidDimensions width height (.indivisible .half)) := by
  simp [ChromaFormat.planeSize, ChromaFormat.shifts, h]

/-- Either a frame is not made, or the pair is. -/
lemma exists_refused_or_exists_pair (width height : ℕ) (format : SampleFormat) :
    (∃ fault, Refused width height format fault ∧ pair width height format = .error fault) ∨
      (width ≠ 0 ∧ height ≠ 0 ∧ width * height < 2 ^ 64 ∧
        width * height * format.sampleBytes < 2 ^ 63 ∧ width % 2 = 0 ∧
        ∃ f g, pair width height format = .ok (f, g)) := by
  by_cases hempty : width = 0 ∨ height = 0
  · exact Or.inl ⟨_, .empty hempty, by simp [pair, Frame.blank, hempty]⟩
  obtain ⟨hwidth, hheight⟩ := not_or.mp hempty
  by_cases hcount : width * height < addressable
  swap
  · refine Or.inl ⟨_, .uncountable hwidth hheight (not_lt.mp hcount), ?_⟩
    simp [pair, Frame.blank, hempty, ChromaFormat.planeSize_full, sizeProduct?, hcount]
  by_cases hbytes : width * height * format.storage.bytes < byteLimit
  swap
  · refine Or.inl ⟨_, .unallocatable hwidth hheight hcount ?_, ?_⟩
    · rw [← format.bytes_storage]
      exact not_lt.mp hbytes
    · simp [pair, Frame.blank, hempty, ChromaFormat.planeSize_full, sizeProduct?, hcount,
        Frame.allocatePlane, hbytes]
  have hbytes' : width * height * format.sampleBytes < 2 ^ 63 := format.bytes_storage ▸ hbytes
  obtain ⟨source, hsource⟩ :=
    Frame.exists_blank hwidth hheight hbytes (ChromaFormat.planeSize_full width height)
  rcases Nat.mod_two_eq_zero_or_one width with heven | hodd
  · have hsize : ChromaFormat.half.planeSize width height = .ok (width / 2, height) :=
      ChromaFormat.planeSize_half_eq_ok_iff.mpr ⟨heven, rfl⟩
    obtain ⟨destination, hdestination⟩ := Frame.exists_blank hwidth hheight hbytes hsize
    exact Or.inr ⟨hwidth, hheight, hcount, hbytes', heven, _, destination,
      pair_eq_ok_iff.mpr ⟨source, hsource, hdestination, rfl⟩⟩
  · have hdestination : Frame.blank width height .half format
        = .error (.refused (.invalidDimensions width height (.indivisible .half))) := by
      simp [Frame.blank, hempty, planeSize_half_of_odd hodd]
    refine Or.inl ⟨_, .odd hwidth hheight hbytes' hcount hodd, ?_⟩
    simp only [pair, hsource, hdestination]

lemma pair_eq_error_iff {fault : Fault} :
    pair width height format = .error fault ↔ Refused width height format fault := by
  rcases exists_refused_or_exists_pair width height format with
    ⟨fault', hrefused, hpair⟩ | ⟨hwidth, hheight, hcount, hbytes, heven, f, g, hpair⟩
  · rw [hpair, Except.error.injEq]
    exact ⟨fun heq => heq ▸ hrefused, fun h => hrefused.unique h⟩
  · simp only [hpair, reduceCtorEq, false_iff]
    intro h
    cases h <;> omega

/-! ## The pair -/

/-- What the two frames of the pattern hold. -/
structure IsPair (width height : ℕ) (format : SampleFormat) (f g : Frame) : Prop where
  source : f.Fresh width height .full format
  destination : g.Fresh width height .half format
  /-- The luma samples of the source are zero. -/
  luma : f.y.data = .blank format.storage (width * height)
  /-- A chroma sample of the source stands for one of a thousand levels of the full scale, and the
  multiple that picks it is a size. -/
  chroma : ∀ c ∈ Component.chroma, ∃ samples, (f.plane c).samples? format.storage = some samples ∧
    samples.size = width * height ∧
    ∀ i < width * height, i * 7919 < addressable ∧
      let range := NominalRange.fullScale format c
      samples[i]? = some (format.storage.ofNominal
        (range.low + (range.high - range.low) * Float.ofNat (i * 7919 % 1000) / 999))
  /-- All samples of the destination are zero. -/
  blank : ∀ c, (g.plane c).data = .blank format.storage (g.plane c).sampleCount

/-- A plane of a new frame with full chroma, made busy. -/
lemma samples?_busy_of_blank {source : Frame}
    (h : Frame.blank width height .full format = .ok source)
    (hmultiples : 7919 * (width * height) < addressable) (c : Component) :
    ∃ samples, (busy (source.plane c)).samples? format.storage = some samples ∧
      samples.size = width * height ∧
      ∀ i < width * height, i * 7919 < addressable ∧
        samples[i]? = some (format.storage.ofNominal (level (.fullScale format c) i)) := by
  have haddressable : addressable = 2 ^ 64 := rfl
  have hfresh := Frame.fresh_of_blank h
  have hkind : (source.plane c).data.kind = format.storage := by
    rw [hfresh.wellFormed.kind, hfresh.format_eq]
  have hcount := (hfresh.wellFormed.wellSized c).size_eq.trans (Frame.sampleCount_of_blank_full h c)
  obtain ⟨samples, hsamples, hsize, hlevel⟩ := samples?_busy (source.plane c) hkind
  rw [hcount] at hsize hlevel
  rw [hfresh.range_eq] at hlevel
  exact ⟨samples, hsamples, hsize, fun i hi => ⟨by omega, hlevel i hi⟩⟩

lemma isPair_of_pair (h : pair width height format = .ok (f, g))
    (hmultiples : 7919 * (width * height) < addressable) : IsPair width height format f g := by
  obtain ⟨source, hsource, hdestination, rfl⟩ := pair_eq_ok_iff.mp h
  have hluma := Frame.data_of_blank hsource .y
  rw [Frame.sampleCount_of_blank_full hsource] at hluma
  refine ⟨((Frame.fresh_of_blank hsource).withBusy .u).withBusy .v,
    Frame.fresh_of_blank hdestination, hluma, fun c hc => ?_,
    Frame.data_of_blank hdestination⟩
  -- making one chroma plane busy leaves the other as it is
  cases c with
  | y => simp [Component.chroma] at hc
  | u => exact samples?_busy_of_blank hsource hmultiples .u
  | v => exact samples?_busy_of_blank hsource hmultiples .v

/-- The source is halved into the destination exactly if its format is filtered as it is stored. -/
lemma IsPair.exists_halveFrame_iff (h : IsPair width height format f g) {d : Decimator}
    (hd : d.IsBuilt) : (∃ out, d.halveFrame f g = .ok () out) ↔ format.Filterable := by
  have hf := h.source
  have hg := h.destination
  rcases exists_refused_or_exists_halveFrame hd hf.wellFormed hg.wellFormed with
    ⟨e, hrefused, hrun⟩ | ⟨-, hdepth, -, -, out, hrun⟩
  · simp only [hrun, reduceCtorEq, exists_false, false_iff]
    intro hdepth
    have hformat : f.format = g.format := hf.format_eq.trans hg.format_eq.symm
    obtain ⟨hcount, hchroma⟩ := (hf.wellFormed.counts_eq_and_chroma_eq_iff hg.wellFormed).mpr
      ⟨hf.chroma_eq, hg.chroma_eq, hf.width_eq.trans hg.width_eq.symm,
        hf.height_eq.trans hg.height_eq.symm⟩
    rw [← hf.format_eq] at hdepth
    cases hrefused <;> contradiction
  · exact iff_of_true ⟨out, hrun⟩ (hf.format_eq ▸ hdepth)

end TestPattern

/-- A size that can be counted may still be too large to be stored: then it is not the parity of the
width that decides.  A row of floats that is one sample longer than half the address space has an
odd width, and yet it is the source frame that fails. -/
theorem TestPattern.pair_unallocatable :
    (¬∀ (width height : ℕ) (format : SampleFormat),
      (∃ fault, pair width height format = .error fault) ↔
        width = 0 ∨ height = 0 ∨ addressable ≤ width * height ∨ width % 2 = 1) ∧
      2 ^ 63 + 1 ≠ 0 ∧ (2 ^ 63 + 1) * 1 < addressable ∧ (2 ^ 63 + 1) % 2 = 1 ∧
      ∃ fault, pair (2 ^ 63 + 1) 1 .float = .error (.source fault) ∧
        fault.message = "capacity overflow" := by
  refine ⟨fun h => ?_, by decide, by decide, by decide, .unallocatable, ?_, rfl⟩
  · have hfault : pair (2 ^ 32) (2 ^ 31) .float = .error (.source .unallocatable) :=
      pair_eq_error_iff.mpr (.unallocatable (by decide) (by decide) (by decide) (by decide))
    exact absurd ((h (2 ^ 32) (2 ^ 31) .float).mp ⟨_, hfault⟩) (by decide)
  · exact pair_eq_error_iff.mpr (.unallocatable (by decide) (by decide) (by decide) (by decide))

/-- **The outcome of the test pattern.**  The source frame is refused for an empty size and for too
many samples, and cannot be allocated for too many bytes; the destination frame is refused, where
the source is made, for an odd width; and nothing else goes wrong.  As long as the multiples that
pick the levels are sizes, the two frames are those of the pattern, and a built decimator halves the
one into the other exactly if the format is filterable. -/
theorem TestPattern.pair_outcome (width height : ℕ) (format : SampleFormat) :
    (∀ fault, pair width height format = .error fault ↔ Refused width height format fault) ∧
    (width ≠ 0 → height ≠ 0 → width % 2 = 0 → 7919 * width * height < addressable →
      ∃ f g, pair width height format = .ok (f, g) ∧ IsPair width height format f g ∧
        ∀ d : Decimator, d.IsBuilt →
          ((∃ out, d.halveFrame f g = .ok () out) ↔ format.Filterable)) := by
  refine ⟨fun fault => pair_eq_error_iff, fun hwidth hheight heven hmultiples => ?_⟩
  rw [Nat.mul_assoc] at hmultiples
  rcases exists_refused_or_exists_pair width height format with
    ⟨fault, hrefused, -⟩ | ⟨-, -, -, -, -, f, g, hpair⟩
  · exfalso
    have haddressable : addressable = 2 ^ 64 := rfl
    have hbytes := Nat.mul_le_mul_left (width * height) format.sampleBytes_le
    cases hrefused <;> omega
  · have h := isPair_of_pair hpair hmultiples
    exact ⟨f, g, hpair, h, fun d hd => h.exists_halveFrame_iff hd⟩

/-- A row of four bytes takes the levels 0, 919, 838 and 757 of a thousand and is halved.  With
seven bits it is made and not halved.  A row of three has no destination, and a row of `2 ^ 62`
words has no source. -/
theorem TestPattern.pair_outcome_row :
    (4 ≠ 0 ∧ 1 ≠ 0 ∧ 4 % 2 = 0 ∧ 7919 * 4 * 1 < addressable) ∧
      (∃ f g out samples, pair 4 1 (.fixed 8) = .ok (f, g) ∧
        f.u.samples? .uint8 = some samples ∧ samples.size = 4 ∧
        samples[1]? = some 235 ∧ samples[2]? = some 214 ∧ samples[3]? = some 193 ∧
        Decimator.sharpen.halveFrame f g = .ok () out) ∧
      (∃ f g, pair 4 1 (.fixed 7) = .ok (f, g) ∧
        ∀ out, Decimator.sharpen.halveFrame f g ≠ .ok () out) ∧
      (∃ fault, pair 3 1 .float = .error fault ∧
        fault.message = "bench destination frame: " ++
          "invalid dimensions: 3x1 (4:2:2 requires luma size divisible by 2x1)") ∧
      pair (2 ^ 62) 1 (.fixed 10) = .error (.source .unallocatable) := by
  have hmultiples : 7919 * 4 * 1 < addressable := by decide
  refine ⟨⟨by decide, by decide, by decide, hmultiples⟩, ?_, ?_, ?_, ?_⟩
  · obtain ⟨f, g, hpair, h, hhalve⟩ :=
      (pair_outcome 4 1 (.fixed 8)).2 (by decide) (by decide) (by decide) hmultiples
    obtain ⟨samples, hsamples, hsize, hlevel⟩ := h.chroma .u (by decide)
    obtain ⟨out, hrun⟩ := (hhalve _ Decimator.sharpen_isBuilt).mpr (by decide : 8 ≤ 8)
    let byte (i : ℕ) : UInt8 := SampleKind.uint8.ofNominal (level (.fullScale (.fixed 8) .u) i)
    have hbytes : byte 1 = 235 ∧ byte 2 = 214 ∧ byte 3 = 193 := by decide +kernel
    exact ⟨f, g, out, samples, hpair, hsamples, hsize,
      (hlevel 1 (by decide)).2.trans (congrArg some hbytes.1),
      (hlevel 2 (by decide)).2.trans (congrArg some hbytes.2.1),
      (hlevel 3 (by decide)).2.trans (congrArg some hbytes.2.2), hrun⟩
  · obtain ⟨f, g, hpair, -, hhalve⟩ :=
      (pair_outcome 4 1 (.fixed 7)).2 (by decide) (by decide) (by decide) hmultiples
    have hdepth : ¬(SampleFormat.fixed 7).Filterable := (by decide : ¬8 ≤ 7)
    refine ⟨f, g, hpair, fun out hrun => hdepth ?_⟩
    exact (hhalve _ Decimator.sharpen_isBuilt).mp ⟨out, hrun⟩
  · have hodd : Refused 3 1 .float _ :=
      .odd (by decide) (by decide) (by decide) (by decide) (by decide)
    exact ⟨_, ((pair_outcome 3 1 .float).1 _).mpr hodd, by decide +kernel⟩
  · refine ((pair_outcome (2 ^ 62) 1 (.fixed 10)).1 _).mpr ?_
    exact .unallocatable (by decide) (by decide) (by decide) (by decide)

end PlanarVideo
