import PlanarVideo.Proofs.FrameStore.Reachable

/-!
# Which frames of a store can be halved into each other

`halveFrame` compares sample formats, luma sample counts, chroma sizes and sample kinds; it looks
at neither the chroma formats nor the luma dimensions.  For the frames of a reachable store the
comparisons leave exactly one way to succeed: from full chroma to half chroma, at the same luma
size, in a format whose planes are stored in the kind in which they are filtered.
-/

namespace PlanarVideo

/-- The planes of the format are stored in the kind in which they are filtered: all formats but
the fixed ones of fewer than eight bits. -/
def SampleFormat.Filterable : SampleFormat → Prop
  | .float => True
  | .fixed depth => 8 ≤ depth

lemma SampleFormat.storage_eq_filtering_iff {format : SampleFormat} :
    format.storage = format.filtering ↔ format.Filterable := by
  cases format with
  | float => simp [storage, filtering, Filterable]
  | fixed depth =>
    simp only [storage, filtering, Filterable]
    split
    · simp; omega
    · split <;> simp <;> omega

/-- A format that is not filtered in the kind in which it is stored is stored in floats. -/
lemma SampleFormat.storage_of_not_filterable {format : SampleFormat} (h : ¬format.Filterable) :
    format.storage = .float32 := by
  cases format with
  | float => exact absurd trivial h
  | fixed depth =>
    have hdepth : ¬8 ≤ depth := h
    rw [storage, if_neg (by omega), if_neg (by omega)]

namespace Frame

variable {inp out : Frame}

/-! ## The chroma planes of a well-formed frame -/

lemma WellFormed.chroma_width {f : Frame} (hf : f.WellFormed) {c : Component}
    (hc : c ∈ Component.chroma) : 2 ^ f.chroma.shifts.1 * (f.plane c).width = f.width := by
  have hsize := hf.chroma_size c hc
  cases hchroma : f.chroma with
  | full =>
    rw [hchroma, ChromaFormat.planeSize_full] at hsize
    simp only [Except.ok.injEq, Prod.mk.injEq] at hsize
    simp [ChromaFormat.shifts, hsize]
  | half =>
    rw [hchroma, ChromaFormat.planeSize_half_eq_ok_iff] at hsize
    simp only [Prod.mk.injEq] at hsize
    simp only [ChromaFormat.shifts]
    omega

lemma WellFormed.chroma_height {f : Frame} (hf : f.WellFormed) {c : Component}
    (hc : c ∈ Component.chroma) : (f.plane c).height = f.height := by
  have hsize := hf.chroma_size c hc
  cases hchroma : f.chroma with
  | full =>
    rw [hchroma, ChromaFormat.planeSize_full] at hsize
    simp only [Except.ok.injEq, Prod.mk.injEq] at hsize
    exact hsize.2.symm
  | half =>
    rw [hchroma, ChromaFormat.planeSize_half_eq_ok_iff] at hsize
    simp only [Prod.mk.injEq] at hsize
    exact hsize.2.2.symm

lemma WellFormed.sampleCount_y {f : Frame} (hf : f.WellFormed) :
    f.y.sampleCount = f.width * f.height := by
  rw [Plane.sampleCount, hf.luma_width, hf.luma_height]

/-- Equal sample counts and a doubled chroma width force full chroma beside half chroma. -/
lemma WellFormed.counts_eq_and_chroma_eq_iff (hinp : inp.WellFormed) (hout : out.WellFormed) :
    inp.y.sampleCount = out.y.sampleCount ∧
        (inp.u.width, inp.u.height) = (2 * out.u.width, out.u.height) ↔
      inp.chroma = .full ∧ out.chroma = .half ∧ inp.width = out.width ∧
        inp.height = out.height := by
  have hinp_width := hinp.chroma_width (c := .u) (by decide)
  have hout_width := hout.chroma_width (c := .u) (by decide)
  have hinp_height : inp.u.height = inp.height := hinp.chroma_height (c := .u) (by decide)
  have hout_height : out.u.height = out.height := hout.chroma_height (c := .u) (by decide)
  simp only [plane] at hinp_width hout_width
  rw [hinp.sampleCount_y, hout.sampleCount_y, Prod.mk.injEq, hinp_height, hout_height]
  constructor
  · rintro ⟨hcount, hwidth, hheight⟩
    rw [hheight] at hcount
    have hluma := Nat.eq_of_mul_eq_mul_right hout.height_pos hcount
    -- the luma width is the chroma width times the subsampling factor, in either frame
    have hpos := hout.width_pos
    cases hi : inp.chroma <;> cases ho : out.chroma <;>
      simp only [hi, ho, ChromaFormat.shifts, pow_zero, pow_one] at hinp_width hout_width
    · omega
    · exact ⟨rfl, rfl, hluma, hheight⟩
    · omega
    · omega
  · rintro ⟨hi, ho, hwidth, hheight⟩
    simp only [hi, ho, ChromaFormat.shifts, pow_zero, pow_one] at hinp_width hout_width
    refine ⟨by rw [hwidth, hheight], ?_, hheight⟩
    omega

end Frame

/-! ## The comparisons of well-formed frames -/

variable {inp out : Frame}

/-- Why a well-formed frame cannot be halved into another. -/
inductive Frame.Refused (inp out : Frame) : DecimationError → Prop
  | format (h : inp.format ≠ out.format) :
      Refused inp out (.formatMismatch inp.format out.format)
  | luma (hformat : inp.format = out.format) (h : inp.y.sampleCount ≠ out.y.sampleCount) :
      Refused inp out
        (.sizeMismatch .y (inp.y.width, inp.y.height) (out.y.width, out.y.height))
  | chroma (hformat : inp.format = out.format) (hcount : inp.y.sampleCount = out.y.sampleCount)
      (h : (inp.u.width, inp.u.height) ≠ (2 * out.u.width, out.u.height)) :
      Refused inp out
        (.sizeMismatch .u (2 * out.u.width, out.u.height) (inp.u.width, inp.u.height))
  | depth (hformat : inp.format = out.format) (hcount : inp.y.sampleCount = out.y.sampleCount)
      (hchroma : (inp.u.width, inp.u.height) = (2 * out.u.width, out.u.height))
      (h : ¬inp.format.Filterable) :
      Refused inp out
        (.frame (.planeMismatch (.planeOf .y inp.format) (.kinds .float32 .float32)))

lemma Frame.Refused.unique {e e' : DecimationError} (h : inp.Refused out e)
    (h' : inp.Refused out e') : e = e' := by
  cases h <;> cases h' <;> first | rfl | contradiction

/-- The second chroma plane is never the first to be refused, and no doubled width saturates. -/
lemma mismatch?_eq_of_wellFormed (hinp : inp.WellFormed) (hout : out.WellFormed) :
    mismatch? out inp =
      if inp.format ≠ out.format then some (.formatMismatch inp.format out.format)
      else if inp.y.sampleCount ≠ out.y.sampleCount then
        some (.sizeMismatch .y (inp.y.width, inp.y.height) (out.y.width, out.y.height))
      else if (inp.u.width, inp.u.height) = (2 * out.u.width, out.u.height) then none
      else some (.sizeMismatch .u (2 * out.u.width, out.u.height) (inp.u.width, inp.u.height)) := by
  -- the two chroma planes of a frame have one size, which the formats determine
  have hv : ∀ f : Frame, f.WellFormed → (f.v.width, f.v.height) = (f.u.width, f.u.height) := by
    intro f hf
    have hu := hf.chroma_size .u (by decide)
    exact Except.ok.inj ((hf.chroma_size .v (by decide)).symm.trans hu)
  have hvi := Prod.mk.inj (hv inp hinp)
  have hvo := Prod.mk.inj (hv out hout)
  have hheight : out.u.height ≠ 0 := by
    have hpos := hout.height_pos
    rw [← hout.chroma_height (c := .u) (by decide)] at hpos
    exact hpos.ne'
  have hdouble := Decimator.saturatingDouble_eq ((hout.wellSized .u).width_lt hheight)
  simp only [Frame.plane] at hdouble
  unfold mismatch?
  simp only [Component.chroma, List.findSome?_cons, List.findSome?_nil, Frame.plane, hvi, hvo,
    hdouble]
  split_ifs <;> rfl

lemma kindFault?_eq_of_wellFormed (hinp : inp.WellFormed) (hout : out.WellFormed)
    (hformat : inp.format = out.format) :
    kindFault? inp.format.filtering out inp =
      if inp.format.storage = inp.format.filtering then none
      else some (.planeMismatch (.planeOf .y inp.format)
        (.kinds inp.format.storage inp.format.storage)) := by
  unfold kindFault?
  simp only [hinp.kind, hout.kind, ← hformat, and_self, Component.all]
  split <;> simp_all

/-- Either the comparisons refuse the frames, or they all pass and the run succeeds. -/
lemma exists_refused_or_exists_halveFrame {d : Decimator} (hd : d.IsBuilt) (hinp : inp.WellFormed)
    (hout : out.WellFormed) :
    (∃ e, inp.Refused out e ∧ d.halveFrame inp out = .error e out) ∨
      (inp.format = out.format ∧ inp.format.Filterable ∧
        inp.y.sampleCount = out.y.sampleCount ∧
        (inp.u.width, inp.u.height) = (2 * out.u.width, out.u.height) ∧
        ∃ out', d.halveFrame inp out = .ok () out') := by
  have hmismatch := mismatch?_eq_of_wellFormed hinp hout
  by_cases hformat : inp.format = out.format
  swap
  · rw [if_pos hformat] at hmismatch
    exact Or.inl ⟨_, .format hformat, Decimator.halveFrame_of_mismatch hmismatch⟩
  rw [if_neg (not_not.mpr hformat)] at hmismatch
  by_cases hcount : inp.y.sampleCount = out.y.sampleCount
  swap
  · rw [if_pos hcount] at hmismatch
    exact Or.inl ⟨_, .luma hformat hcount, Decimator.halveFrame_of_mismatch hmismatch⟩
  rw [if_neg (not_not.mpr hcount)] at hmismatch
  by_cases hchroma : (inp.u.width, inp.u.height) = (2 * out.u.width, out.u.height)
  swap
  · rw [if_neg hchroma] at hmismatch
    exact Or.inl ⟨_, .chroma hformat hcount hchroma, Decimator.halveFrame_of_mismatch hmismatch⟩
  rw [if_pos hchroma] at hmismatch
  have hkind := kindFault?_eq_of_wellFormed hinp hout hformat
  by_cases hdepth : inp.format.Filterable
  · rw [if_pos (SampleFormat.storage_eq_filtering_iff.mpr hdepth)] at hkind
    refine Or.inr ⟨hformat, hdepth, hcount, hchroma, ?_⟩
    exact Decimator.exists_halveFrame hd hinp.wellSized hout.wellSized hmismatch hkind
  · rw [if_neg (mt SampleFormat.storage_eq_filtering_iff.mp hdepth),
      SampleFormat.storage_of_not_filterable hdepth] at hkind
    exact Or.inl ⟨_, .depth hformat hcount hchroma hdepth,
      Decimator.halveFrame_of_kindFault hmismatch hkind⟩

/-- **Which frames of a reachable store can be halved into each other.**  A built decimator halves
one frame into another exactly if their sample formats are equal and filterable, the first has full
chroma and the second half chroma, and their luma sizes agree.  Every other pair is refused with
the error of the first comparison that fails. -/
theorem halveFrame_ok_iff_of_reachable {s : FrameStore} (hs : s.Reachable) {d : Decimator}
    (hd : d.IsBuilt) {source target : String} (hinp : s.get? source = some inp)
    (hout : s.get? target = some out) :
    ((∃ out', d.halveFrame inp out = .ok () out') ↔
      inp.format = out.format ∧ inp.format.Filterable ∧ inp.chroma = .full ∧ out.chroma = .half ∧
        inp.width = out.width ∧ inp.height = out.height) ∧
    (∀ e out', d.halveFrame inp out = .error e out' ↔ out' = out ∧ inp.Refused out e) := by
  have hwi := hs.wellFormed source inp hinp
  have hwo := hs.wellFormed target out hout
  have hgeometry := hwi.counts_eq_and_chroma_eq_iff hwo
  rcases exists_refused_or_exists_halveFrame hd hwi hwo with
    ⟨e, he, hrun⟩ | ⟨hformat, hdepth, hcount, hchroma, out', hrun⟩
  · -- a refusal is unique, and excludes each of the conditions for success
    constructor
    · simp only [hrun, reduceCtorEq, exists_false, false_iff]
      rintro ⟨hformat, hdepth, hsize⟩
      obtain ⟨hcount, hchroma⟩ := hgeometry.mpr hsize
      cases he <;> contradiction
    · intro e' out'
      rw [hrun]
      constructor
      · rintro ⟨⟩
        exact ⟨rfl, he⟩
      · rintro ⟨rfl, he'⟩
        rw [he.unique he']
  · constructor
    · exact iff_of_true ⟨out', hrun⟩ ⟨hformat, hdepth, hgeometry.mp ⟨hcount, hchroma⟩⟩
    · intro e out''
      simp only [hrun, reduceCtorEq, false_iff, not_and]
      intro _ he
      cases he <;> contradiction

/-- A store with a full-chroma and a half-chroma frame of one row of two samples. -/
def FrameStore.sourceAndTarget (format : SampleFormat) : FrameStore :=
  (empty.after (.blank "source" 2 1 .full format)).after (.blank "target" 2 1 .half format)

lemma FrameStore.sourceAndTarget_reachable (format : SampleFormat) :
    (sourceAndTarget format).Reachable :=
  .after (.after .refl trivial) trivial

/-- Bytes are halved; samples of seven bits, which are stored as floats, are refused. -/
theorem halveFrame_ok_iff_of_reachable_seven_bits :
    Decimator.sharpen.IsBuilt ∧
      (∃ inp out out', (FrameStore.sourceAndTarget (.fixed 8)).Reachable ∧
        (FrameStore.sourceAndTarget (.fixed 8)).get? "source" = some inp ∧
        (FrameStore.sourceAndTarget (.fixed 8)).get? "target" = some out ∧
        Decimator.sharpen.halveFrame inp out = .ok () out') ∧
      ∃ inp out, (FrameStore.sourceAndTarget (.fixed 7)).Reachable ∧
        (FrameStore.sourceAndTarget (.fixed 7)).get? "source" = some inp ∧
        (FrameStore.sourceAndTarget (.fixed 7)).get? "target" = some out ∧
        Decimator.sharpen.halveFrame inp out = .error (.frame (.planeMismatch
          (.planeOf .y (.fixed 7)) (.kinds .float32 .float32))) out := by
  refine ⟨Decimator.sharpen_isBuilt, ?_, ?_⟩
  · have hs := FrameStore.sourceAndTarget_reachable (.fixed 8)
    have hinp : (FrameStore.sourceAndTarget (.fixed 8)).get? "source" = some _ := rfl
    have hout : (FrameStore.sourceAndTarget (.fixed 8)).get? "target" = some _ := rfl
    obtain ⟨hok, -⟩ := halveFrame_ok_iff_of_reachable hs Decimator.sharpen_isBuilt hinp hout
    obtain ⟨out', hrun⟩ := hok.mpr ⟨rfl, (by decide : 8 ≤ 8), rfl, rfl, rfl, rfl⟩
    exact ⟨_, _, out', hs, hinp, hout, hrun⟩
  · have hs := FrameStore.sourceAndTarget_reachable (.fixed 7)
    have hinp : (FrameStore.sourceAndTarget (.fixed 7)).get? "source" = some _ := rfl
    have hout : (FrameStore.sourceAndTarget (.fixed 7)).get? "target" = some _ := rfl
    obtain ⟨-, herror⟩ := halveFrame_ok_iff_of_reachable hs Decimator.sharpen_isBuilt hinp hout
    have hdepth : ¬(SampleFormat.fixed 7).Filterable := by
      show ¬8 ≤ 7
      decide
    exact ⟨_, _, hs, hinp, hout, (herror _ _).mpr ⟨rfl, .depth rfl rfl rfl hdepth⟩⟩

end PlanarVideo
