import PlanarVideo.Proofs.FrameStore.Decimation

/-!
# The frames of a history

Commands are carried out one after the other, from the store without frames on, and each may be
refused.  Whatever the commands, the frames are well formed at every time; a refused command
changes none of them; and a frame keeps the shape it was made with until another frame is made
under its name.
-/

namespace PlanarVideo

open Numeric

namespace FrameStore

variable {s s' : FrameStore} {c : Command} {name : String} {f : Frame}

/-! ## Frames keep their shape -/

lemma Effect.exists_sameShape (h : s.Effect c s') (hname : ¬c.MakesAt name)
    (hf : s.get? name = some f) : ∃ f', s'.get? name = some f' ∧ f'.SameShape f := by
  -- every frame that is made goes under another name
  have hmake : ∀ {s : FrameStore} {target : String} {g : Frame}, c.MakesAt target →
      s.get? name = some f → (s.insert target g).get? name = some f := by
    intro s target g htarget hf
    have hne : name ≠ target := fun heq => hname (heq ▸ htarget)
    rw [get?_insert, if_neg hne, hf]
  cases h with
  | none => exact ⟨f, hf, .refl f⟩
  | @change target g g' hg hchange =>
    rw [get?_insert]
    split
    · next heq =>
      subst heq
      obtain rfl := Option.some.inj (hf.symm.trans hg)
      exact ⟨g', rfl, hchange.sameShape⟩
    · exact ⟨f, hf, .refl f⟩
  | make htarget _ => exact ⟨f, hmake htarget hf, .refl f⟩
  | makePair htarget _ htarget' _ => exact ⟨f, hmake htarget' (hmake htarget hf), .refl f⟩

lemma exists_sameShape_after (hs : s.WellFormed) (hc : c.Feasible) (hname : ¬c.MakesAt name)
    (hf : s.get? name = some f) : ∃ f', (s.after c).get? name = some f' ∧ f'.SameShape f := by
  unfold after
  cases hrun : run c s with
  | ok r s' => exact (effect_of_run_eq_ok hrun).exists_sameShape hname hf
  | error e s' => exact ⟨f, (get?_of_run_eq_error hc hs hrun name).trans hf, .refl f⟩

lemma Leads.exists_sameShape (h : s.Leads (fun c => c.Feasible ∧ ¬c.MakesAt name) s')
    (hs : s.WellFormed) (hf : s.get? name = some f) :
    ∃ f', s'.get? name = some f' ∧ f'.SameShape f := by
  induction h with
  | refl => exact ⟨f, hf, .refl f⟩
  | after h hc ih =>
    obtain ⟨f₁, hf₁, hshape₁⟩ := ih
    have hwellFormed := h.wellFormed (fun _ hc => hc.1) hs
    obtain ⟨f', hf', hshape⟩ := exists_sameShape_after hwellFormed hc.1 hc.2 hf₁
    exact ⟨f', hf', hshape.trans hshape₁⟩

end FrameStore

/-- **Frames are sound at every time.**  Every frame of a reachable store is well formed: it is not
empty, of even width if its chroma is halved, and each plane has the size and the length that the
luma size and the formats call for.  Its samples are bytes for eight bits, words for more, and
floats otherwise.  A command that is then refused changes no frame.  Later commands that make no
frame under a name leave a frame of the same shape there.  No count of samples, of a stored plane or
of a chroma plane that is about to be made, reaches the end of the address space. -/
theorem frames_sound {s : FrameStore} (hs : s.Reachable) :
    (∀ name f, s.get? name = some f →
      f.WellFormed ∧ (f.chroma = .half → f.width % 2 = 0) ∧
        ∀ c, (f.plane c).sampleCount < addressable ∧
          ((f.plane c).data.kind = .uint8 ↔ f.format = .fixed 8) ∧
          ((f.plane c).data.kind = .uint16 ↔ ∃ depth > 8, f.format = .fixed depth) ∧
          ((f.plane c).data.kind = .float32 ↔
            f.format = .float ∨ ∃ depth < 8, f.format = .fixed depth)) ∧
    (∀ c : Command, c.Feasible → ∀ e s', FrameStore.run c s = .error e s' →
      ∀ name, s'.get? name = s.get? name) ∧
    (∀ name f, s.get? name = some f →
      ∀ s', s.Leads (fun c => c.Feasible ∧ ¬c.MakesAt name) s' →
        ∃ f', s'.get? name = some f' ∧ f'.SameShape f) ∧
    (∀ (chroma : ChromaFormat) width height size, chroma.planeSize width height = .ok size →
      width * height < addressable → size.1 * size.2 < addressable) := by
  have hwellFormed := hs.wellFormed
  refine ⟨?_, ?_, ?_, ?_⟩
  · intro name f hf
    have hframe := hwellFormed name f hf
    refine ⟨hframe, hframe.even_width, fun c => ⟨(hframe.wellSized c).sampleCount_lt, ?_⟩⟩
    rw [hframe.kind]
    exact ⟨SampleFormat.storage_eq_uint8_iff, SampleFormat.storage_eq_uint16_iff,
      SampleFormat.storage_eq_float32_iff⟩
  · intro c hc e s' hrun
    exact FrameStore.get?_of_run_eq_error hc hwellFormed hrun
  · intro name f hf s' hlater
    exact hlater.exists_sameShape hwellFormed hf
  · intro chroma width height size hsize hcount
    exact (Frame.count_le_of_planeSize hsize).trans_lt hcount

/-- A frame that is too large is refused, and so is a decimation the wrong way round; the target
keeps its shape through both, and through the decimation that follows. -/
theorem frames_sound_refusals :
    let s := FrameStore.sourceAndTarget (.fixed 8)
    let s' := ((s.after (.blank "huge" (2 ^ 31) (2 ^ 30) .full .float)).after
      (.decimate "source" "target" .sharpen)).after (.decimate "target" "source" .sharpen)
    s.Reachable ∧ s.Leads (fun c => c.Feasible ∧ ¬c.MakesAt "target") s' ∧
      ∃ f f', s.get? "target" = some f ∧ f.WellFormed ∧ f.u.data.kind = .uint8 ∧
        s'.get? "target" = some f' ∧ f'.SameShape f := by
  intro s s'
  have hs : s.Reachable := FrameStore.sourceAndTarget_reachable (.fixed 8)
  have hlater : s.Leads (fun c => c.Feasible ∧ ¬c.MakesAt "target") s' := by
    refine .after (.after (.after .refl ⟨trivial, ?_⟩) ⟨Decimator.sharpen_isBuilt, id⟩)
      ⟨Decimator.sharpen_isBuilt, id⟩
    simp [Command.MakesAt]
  obtain ⟨hsound, -, hkeep, -⟩ := frames_sound hs
  have hf : s.get? "target" = some _ := rfl
  obtain ⟨hwellFormed, -, hplane⟩ := hsound "target" _ hf
  obtain ⟨f', hf', hshape⟩ := hkeep "target" _ hf s' hlater
  exact ⟨hs, hlater, _, f', hf, hwellFormed, (hplane .u).2.1.mpr rfl, hf', hshape⟩

end PlanarVideo
