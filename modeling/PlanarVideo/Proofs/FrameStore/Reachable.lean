import PlanarVideo.FrameStore
import PlanarVideo.Proofs.Decimator.Picture

/-!
# The frames of a reachable store

A store is reachable if commands lead to it from the store without frames, carried out or refused
in any order.  A command that is refused changes no frame; one that is carried out makes frames,
changes frames, or both, and each way leads from well-formed frames to well-formed ones.
-/

namespace PlanarVideo

/-- The command can be given: if it decimates, its decimator has been built.  This holds of all
decimators that are made from built tables or from settings. -/
def Command.Feasible : Command → Prop
  | .decimate _ _ d => d.IsBuilt
  | _ => True

/-- The command puts a new frame under the name, if it is carried out. -/
def Command.MakesAt : Command → String → Prop
  | .blank target .., name => name = target
  | .clone target _, name => name = target
  | .pattern source destination .., name => name = source ∨ name = destination
  | _, _ => False

namespace FrameStore

variable {s s' : FrameStore} {c : Command} {allowed : Command → Prop} {name : String}
  {f f' : Frame}

/-- The store after a command, whether it has been carried out or refused. -/
def after (s : FrameStore) (c : Command) : FrameStore :=
  match run c s with
  | .ok _ s' => s'
  | .error _ s' => s'

/-- From the store `s`, allowed commands lead to a store, each of them carried out or refused. -/
inductive Leads (s : FrameStore) (allowed : Command → Prop) : FrameStore → Prop
  | refl : Leads s allowed s
  | after {s' : FrameStore} {c : Command} (h : Leads s allowed s') (hc : allowed c) :
      Leads s allowed (s'.after c)

/-- Feasible commands lead to the store from the store without frames. -/
def Reachable (s : FrameStore) : Prop :=
  empty.Leads Command.Feasible s

/-- Every frame of the store is well formed. -/
def WellFormed (s : FrameStore) : Prop :=
  ∀ name f, s.get? name = some f → f.WellFormed

/-- The frames that a command can make. -/
inductive Makes (s : FrameStore) : Frame → Prop
  | blank {width height : ℕ} {chroma : ChromaFormat} {format : SampleFormat} {f : Frame}
      (h : Frame.blank width height chroma format = .ok f) : Makes s f
  | clone {name : String} {f : Frame} (h : s.get? name = some f) : Makes s f
  | source {width height : ℕ} {format : SampleFormat} {f g : Frame}
      (h : TestPattern.pair width height format = .ok (f, g)) : Makes s f
  | destination {width height : ℕ} {format : SampleFormat} {f g : Frame}
      (h : TestPattern.pair width height format = .ok (f, g)) : Makes s g

/-- The ways in which a command can change a frame. -/
inductive Changes (s : FrameStore) : Frame → Frame → Prop
  | overwrite {f : Frame} {c : Component} {values : SampleBuffer} {p : Plane}
      (h : (f.plane c).overwriteSamples? values = some p) : Changes s f (f.withPlane c p)
  | replace {f : Frame} {c : Component} {data : SampleBuffer} {p : Plane}
      (h : (f.plane c).replaceData data = .ok p) : Changes s f (f.withPlane c p)
  | range (f : Frame) (c : Component) (range : NominalRange) :
      Changes s f (f.withPlane c { f.plane c with range })
  | metadata (f : Frame) (number : UInt64) (available : Bool) :
      Changes s f { f with number, available }
  | copy (f : Frame) {name : String} {donor : Frame} (h : s.get? name = some donor) :
      Changes s f (f.withMetadata donor)
  | halve {name : String} {d : Decimator} {inp out out' : Frame} (h : s.get? name = some inp)
      (hrun : d.halveFrame inp out = .ok () out') : Changes s out out'

/-- What a command that is carried out does to the store: nothing, or it changes one frame, or it
makes one frame or two. -/
inductive Effect (s : FrameStore) (c : Command) : FrameStore → Prop
  | none : Effect s c s
  | change {name : String} {f f' : Frame} (hf : s.get? name = some f) (h : s.Changes f f') :
      Effect s c (s.insert name f')
  | make {name : String} {f : Frame} (hname : c.MakesAt name) (h : s.Makes f) :
      Effect s c (s.insert name f)
  | makePair {name name' : String} {f f' : Frame} (hname : c.MakesAt name) (h : s.Makes f)
      (hname' : c.MakesAt name') (h' : s.Makes f') : Effect s c ((s.insert name f).insert name' f')

/-! ## Steps of a command -/

section Run

variable {α : Type} {r : α} {e : StoreError} {x : Frame → Run α}

lemma find_bind :
    (find name >>= x) s =
      match s.get? name with
      | some f => x f s
      | none => .error (.noFrame name) s := by
  rw [find, bind_assoc, run_get_bind]
  cases s.get? name <;> rfl

lemma find_bind_eq_ok_iff :
    (find name >>= x) s = .ok r s' ↔ ∃ f, s.get? name = some f ∧ x f s = .ok r s' := by
  rw [find_bind]
  cases s.get? name <;> simp

lemma find_bind_eq_error (h : (find name >>= x) s = .error e s') :
    s' = s ∨ ∃ f, s.get? name = some f ∧ x f s = .error e s' := by
  rw [find_bind] at h
  cases hf : s.get? name with
  | none =>
    rw [hf] at h
    cases h
    exact Or.inl rfl
  | some f =>
    rw [hf] at h
    exact Or.inr ⟨f, rfl, h⟩

lemma put_bind {y : Unit → Run α} : (put name f >>= y) s = y () (s.insert name f) := rfl

end Run

/-! ## Carrying out a command -/

lemma effect_of_run_eq_ok {r : Reply} (h : run c s = .ok r s') : s.Effect c s' := by
  cases c with
  | blank target width height chroma format =>
    simp only [run, run_ofExcept_bind_eq_ok_iff, mapError_eq_ok_iff, put_bind, run_pure] at h
    obtain ⟨g, hg, ⟨⟩⟩ := h
    exact .make rfl (.blank hg)
  | clone target source =>
    simp only [run, find_bind_eq_ok_iff, put_bind, run_pure] at h
    obtain ⟨g, hg, ⟨⟩⟩ := h
    exact .make rfl (.clone hg)
  | pattern source destination width height format =>
    simp only [run, run_ofExcept_bind_eq_ok_iff, mapError_eq_ok_iff, put_bind, run_pure] at h
    obtain ⟨⟨g, g'⟩, hpair, ⟨⟩⟩ := h
    exact .makePair (Or.inl rfl) (.source hpair) (Or.inr rfl) (.destination hpair)
  | overwrite target component values =>
    simp only [run, find_bind_eq_ok_iff] at h
    obtain ⟨g, hg, h⟩ := h
    cases hp : (g.plane component).overwriteSamples? values with
    | some p =>
      simp only [hp, put_bind, run_pure] at h
      cases h
      exact .change hg (.overwrite hp)
    | none =>
      simp only [hp, run_pure] at h
      cases h
      exact .none
  | replace target component data =>
    simp only [run, find_bind_eq_ok_iff, run_ofExcept_bind_eq_ok_iff, mapError_eq_ok_iff, put_bind,
      run_pure] at h
    obtain ⟨g, hg, p, hp, ⟨⟩⟩ := h
    exact .change hg (.replace hp)
  | setRange target component range =>
    simp only [run, find_bind_eq_ok_iff, put_bind, run_pure] at h
    obtain ⟨g, hg, ⟨⟩⟩ := h
    exact .change hg (.range g component range)
  | setMetadata target number available =>
    simp only [run, find_bind_eq_ok_iff, put_bind, run_pure] at h
    obtain ⟨g, hg, ⟨⟩⟩ := h
    exact .change hg (.metadata g number available)
  | copyMetadata target source =>
    simp only [run, find_bind_eq_ok_iff, put_bind, run_pure] at h
    obtain ⟨donor, hdonor, g, hg, ⟨⟩⟩ := h
    exact .change hg (.copy g hdonor)
  | decimate target source d =>
    simp only [run, find_bind_eq_ok_iff] at h
    obtain ⟨inp, hinp, out, hout, h⟩ := h
    cases hrun : d.halveFrame inp out with
    | ok _ out' =>
      simp only [hrun, put_bind, run_pure] at h
      cases h
      exact .change hout (.halve hinp hrun)
    | error e out' =>
      simp only [hrun, put_bind] at h
      cases h
  | views target component =>
    simp only [run, find_bind_eq_ok_iff, run_pure] at h
    obtain ⟨-, -, ⟨⟩⟩ := h
    exact .none
  | compare target other =>
    simp only [run, find_bind_eq_ok_iff, run_pure] at h
    obtain ⟨-, -, -, -, ⟨⟩⟩ := h
    exact .none
  | display target =>
    simp only [run, find_bind_eq_ok_iff, run_pure] at h
    obtain ⟨-, -, ⟨⟩⟩ := h
    exact .none

/-! ## Refusing a command -/

/-- Only a decimation can have written to the store before it is refused. -/
lemma eq_or_of_run_eq_error {e : StoreError} (h : run c s = .error e s') :
    s' = s ∨ ∃ target source d inp out fault out', c = .decimate target source d ∧
      s.get? source = some inp ∧ s.get? target = some out ∧
      d.halveFrame inp out = .error fault out' ∧ s' = s.insert target out' := by
  cases c with
  | blank | pattern =>
    rcases run_ofExcept_bind_eq_error h with rfl | ⟨_, h⟩
    · exact Or.inl rfl
    · cases h
  | clone | setRange | setMetadata | views | display =>
    rcases find_bind_eq_error h with rfl | ⟨_, -, h⟩
    · exact Or.inl rfl
    · cases h
  | copyMetadata | compare =>
    rcases find_bind_eq_error h with rfl | ⟨_, -, h⟩
    · exact Or.inl rfl
    · rcases find_bind_eq_error h with rfl | ⟨_, -, h⟩
      · exact Or.inl rfl
      · cases h
  | replace =>
    rcases find_bind_eq_error h with rfl | ⟨_, -, h⟩
    · exact Or.inl rfl
    · rcases run_ofExcept_bind_eq_error h with rfl | ⟨_, h⟩
      · exact Or.inl rfl
      · cases h
  | overwrite target component values =>
    rcases find_bind_eq_error h with rfl | ⟨g, -, h⟩
    · exact Or.inl rfl
    · cases hp : (g.plane component).overwriteSamples? values <;> simp only [hp] at h <;> cases h
  | decimate target source d =>
    rcases find_bind_eq_error h with rfl | ⟨inp, hinp, h⟩
    · exact Or.inl rfl
    rcases find_bind_eq_error h with rfl | ⟨out, hout, h⟩
    · exact Or.inl rfl
    cases hrun : d.halveFrame inp out with
    | ok _ out' =>
      simp only [hrun] at h
      cases h
    | error fault out' =>
      simp only [hrun] at h
      cases h
      exact Or.inr ⟨target, source, d, inp, out, fault, out', rfl, hinp, hout, hrun, rfl⟩

/-- A command that is refused changes no frame. -/
theorem get?_of_run_eq_error (hc : c.Feasible) (hs : s.WellFormed) {e : StoreError}
    (h : run c s = .error e s') (name : String) : s'.get? name = s.get? name := by
  rcases eq_or_of_run_eq_error h with
    rfl | ⟨target, source, d, inp, out, fault, out', rfl, hinp, hout, hrun, rfl⟩
  · rfl
  · -- the frame that is put back is the one that has been found
    obtain ⟨rfl, -⟩ := Decimator.eq_of_halveFrame_eq_error hc (hs source inp hinp).wellSized
      (hs target out hout).wellSized hrun
    rw [get?_insert]
    split
    · next heq => rw [heq, hout]
    · rfl

/-! ## Reachable stores -/

lemma Makes.wellFormed (h : s.Makes f) (hs : s.WellFormed) : f.WellFormed := by
  cases h with
  | blank hblank => exact Frame.wellFormed_of_blank hblank
  | clone hf => exact hs _ f hf
  | source hpair => exact (TestPattern.wellFormed_of_pair hpair).1
  | destination hpair => exact (TestPattern.wellFormed_of_pair hpair).2

lemma Changes.sameShape (h : s.Changes f f') : f'.SameShape f := by
  cases h with
  | overwrite hp => exact Frame.overwriteSamples?_sameShape hp
  | replace hp => exact Frame.replaceData_sameShape hp
  | range _ c range => exact f.withPlane_sameShape c rfl rfl rfl rfl
  | metadata => exact ⟨⟨rfl, rfl, rfl, rfl, fun _ => rfl, fun _ => rfl⟩, fun _ => rfl, fun _ => rfl⟩
  | copy _ hdonor => exact f.withMetadata_sameShape _
  | halve _ hrun => exact Decimator.sameShape_of_halveFrame hrun

lemma WellFormed.insert (hs : s.WellFormed) (hf : f.WellFormed) : (s.insert name f).WellFormed := by
  intro other g hg
  rw [get?_insert] at hg
  split at hg
  · cases hg
    exact hf
  · exact hs other g hg

lemma Effect.wellFormed (h : s.Effect c s') (hs : s.WellFormed) : s'.WellFormed := by
  cases h with
  | none => exact hs
  | change hf hchange => exact hs.insert ((hs _ _ hf).of_sameShape hchange.sameShape)
  | make _ hmake => exact hs.insert (hmake.wellFormed hs)
  | makePair _ hmake _ hmake' =>
    exact (hs.insert (hmake.wellFormed hs)).insert (hmake'.wellFormed hs)

lemma WellFormed.after (hs : s.WellFormed) (hc : c.Feasible) : (s.after c).WellFormed := by
  unfold FrameStore.after
  cases hrun : run c s with
  | ok r s' => exact (effect_of_run_eq_ok hrun).wellFormed hs
  | error e s' =>
    intro name f hf
    exact hs name f ((get?_of_run_eq_error hc hs hrun name).symm.trans hf)

lemma Leads.wellFormed (h : s.Leads allowed s') (hallowed : ∀ c, allowed c → c.Feasible)
    (hs : s.WellFormed) : s'.WellFormed := by
  induction h with
  | refl => exact hs
  | after _ hc ih => exact ih.after (hallowed _ hc)

/-- Every frame of a reachable store is well formed. -/
theorem Reachable.wellFormed (h : s.Reachable) : s.WellFormed := by
  refine Leads.wellFormed h (fun _ => id) ?_
  intro name f hf
  cases hf

end FrameStore
end PlanarVideo
