import Mathlib

/-!
# Computations that can fail

When a chain of fallible steps ends well, and with what.  A step is a value of `Option` or of
`Except`, or a function of a state that ends in either way; a chain is a `bind`, a traversal of a
list, or a fold over it.
-/

namespace PlanarVideo

variable {ε α β : Type}

@[simp] lemma ok_bind (a : α) (f : α → Except ε β) : Except.ok a >>= f = f a := rfl

@[simp] lemma error_bind (e : ε) (f : α → Except ε β) : Except.error e >>= f = .error e := rfl

lemma bind_eq_ok_iff {x : Except ε α} {f : α → Except ε β} {b : β} :
    x >>= f = .ok b ↔ ∃ a, x = .ok a ∧ f a = .ok b := by
  cases x <;> simp [bind, Except.bind]

lemma mapError_eq_ok_iff {ε' : Type} {x : Except ε α} {f : ε → ε'} {a : α} :
    x.mapError f = .ok a ↔ x = .ok a := by
  cases x <;> simp [Except.mapError]

lemma map_eq_ok_iff {x : Except ε α} {f : α → β} {b : β} :
    x.map f = .ok b ↔ ∃ a, x = .ok a ∧ f a = b := by
  cases x <;> simp [Except.map]

/-! ## Traversals -/

/-- A traversal ends well with the values that the steps give one by one. -/
lemma mapM_eq_ok_iff {f : α → Except ε β} {xs : List α} {ys : List β} :
    xs.mapM f = .ok ys ↔ List.Forall₂ (fun x y => f x = .ok y) xs ys := by
  induction xs generalizing ys with
  | nil =>
    rw [List.mapM_nil, List.forall₂_nil_left_iff]
    exact ⟨fun h => (Except.ok.inj h).symm, fun h => congrArg Except.ok h.symm⟩
  | cons x xs ih =>
    rw [List.mapM_cons, bind_eq_ok_iff, List.forall₂_cons_left_iff]
    constructor
    · rintro ⟨y, hy, hrest⟩
      obtain ⟨zs, hzs, hcons⟩ := bind_eq_ok_iff.mp hrest
      exact ⟨y, zs, hy, ih.mp hzs, (Except.ok.inj hcons).symm⟩
    · rintro ⟨y, zs, hy, hzs, rfl⟩
      exact ⟨y, hy, bind_eq_ok_iff.mpr ⟨zs, ih.mpr hzs, rfl⟩⟩

lemma exists_mapM_eq_ok {f : α → Except ε β} {xs : List α} (h : ∀ x ∈ xs, ∃ y, f x = .ok y) :
    ∃ ys, xs.mapM f = .ok ys := by
  induction xs with
  | nil => exact ⟨[], rfl⟩
  | cons x xs ih =>
    obtain ⟨y, hy⟩ := h x (by simp)
    obtain ⟨ys, hys⟩ := ih fun z hz => h z (by simp [hz])
    exact ⟨y :: ys, by rw [List.mapM_cons, hy, hys]; rfl⟩

lemma mapM_eq_some_iff {f : α → Option β} {xs : List α} {ys : List β} :
    xs.mapM f = some ys ↔ List.Forall₂ (fun x y => f x = some y) xs ys := by
  induction xs generalizing ys with
  | nil =>
    rw [List.mapM_nil, List.forall₂_nil_left_iff]
    exact ⟨fun h => (Option.some.inj h).symm, fun h => congrArg some h.symm⟩
  | cons x xs ih =>
    rw [List.mapM_cons, Option.bind_eq_bind, Option.bind_eq_some_iff, List.forall₂_cons_left_iff]
    constructor
    · rintro ⟨y, hy, hrest⟩
      obtain ⟨zs, hzs, hcons⟩ := Option.bind_eq_some_iff.mp hrest
      exact ⟨y, zs, hy, ih.mp hzs, (Option.some.inj hcons).symm⟩
    · rintro ⟨y, zs, hy, hzs, rfl⟩
      exact ⟨y, hy, Option.bind_eq_some_iff.mpr ⟨zs, ih.mpr hzs, rfl⟩⟩

/-! ## Folds -/

/-- A fold whose steps all end well is the fold of what they give. -/
lemma foldlM_eq_ok_foldl {f : β → α → Except ε β} {g : β → α → β} {xs : List α}
    (h : ∀ x ∈ xs, ∀ b, f b x = .ok (g b x)) (b : β) :
    xs.foldlM f b = .ok (xs.foldl g b) := by
  induction xs generalizing b with
  | nil => rfl
  | cons x xs ih =>
    rw [List.foldlM_cons, h x (by simp) b]
    exact ih (fun y hy => h y (by simp [hy])) (g b x)

/-! ## Computations with a state -/

variable {σ : Type} {s s' t : σ} {a : α} {b : β} {e : ε}

lemma run_bind_eq_ok_iff {x : EStateM ε σ α} {f : α → EStateM ε σ β} :
    (x >>= f) s = .ok b s' ↔ ∃ a t, x s = .ok a t ∧ f a t = .ok b s' := by
  change EStateM.bind x f s = .ok b s' ↔ _
  unfold EStateM.bind
  cases x s <;> simp

lemma run_get_bind {f : σ → EStateM ε σ α} : ((get : EStateM ε σ σ) >>= f) s = f s s := rfl

lemma run_set : (set t : EStateM ε σ PUnit) s = .ok () t := rfl

lemma run_set_bind {f : PUnit → EStateM ε σ α} : ((set t : EStateM ε σ PUnit) >>= f) s = f () t :=
  rfl

lemma run_throw : (throw e : EStateM ε σ α) s = .error e s := rfl

lemma run_pure : (pure a : EStateM ε σ α) s = .ok a s := rfl

lemma run_ofExcept_bind_eq_ok_iff {x : Except ε α} {f : α → EStateM ε σ β} :
    ((ofExcept x : EStateM ε σ α) >>= f) s = .ok b s' ↔ ∃ a, x = .ok a ∧ f a s = .ok b s' := by
  cases x with
  | ok a =>
    show f a s = _ ↔ _
    simp
  | error e =>
    show EStateM.Result.error e s = _ ↔ _
    simp

lemma run_ofExcept_bind_eq_error {x : Except ε α} {f : α → EStateM ε σ β}
    (h : ((ofExcept x : EStateM ε σ α) >>= f) s = .error e s') :
    s' = s ∨ ∃ a, f a s = .error e s' := by
  cases x with
  | ok a => exact Or.inr ⟨a, h⟩
  | error e =>
    cases h
    exact Or.inl rfl

/-- A loop whose steps succeed wherever an invariant holds, and keep it, succeeds and keeps it. -/
lemma exists_forM_eq_ok {f : α → EStateM ε σ Unit} {xs : List α} {P : σ → Prop}
    (h : ∀ x ∈ xs, ∀ s, P s → ∃ t, f x s = .ok () t ∧ P t) (hs : P s) :
    ∃ t, xs.forM f s = .ok () t ∧ P t := by
  induction xs generalizing s with
  | nil => exact ⟨s, rfl, hs⟩
  | cons x xs ih =>
    obtain ⟨t, hstep, ht⟩ := h x (by simp) s hs
    obtain ⟨u, hrest, hu⟩ := ih (fun y hy => h y (by simp [hy])) ht
    exact ⟨u, run_bind_eq_ok_iff.mpr ⟨(), t, hstep, hrest⟩, hu⟩

lemma forM_congr {f g : α → EStateM ε σ Unit} {xs : List α} (h : ∀ x ∈ xs, f x = g x) :
    xs.forM f = xs.forM g := by
  induction xs with
  | nil => rfl
  | cons x xs ih =>
    show (f x >>= fun _ => xs.forM f) = g x >>= fun _ => xs.forM g
    rw [h x (by simp), ih fun y hy => h y (by simp [hy])]

/-- The last step of a loop over the numbers below `n + 1`. -/
lemma forM_range_succ_eq_ok_iff {f : ℕ → EStateM ε σ Unit} {n : ℕ} {u : σ} :
    (List.range (n + 1)).forM f s = .ok () u ↔
      ∃ t, (List.range n).forM f s = .ok () t ∧ f n t = .ok () u := by
  rw [List.range_succ, List.forM_eq_forM, List.forM_append, run_bind_eq_ok_iff]
  constructor
  · rintro ⟨_, t, hinit, hlast⟩
    obtain ⟨_, u', hstep, hnil⟩ := run_bind_eq_ok_iff.mp hlast
    cases hnil
    exact ⟨t, hinit, hstep⟩
  · rintro ⟨t, hinit, hstep⟩
    exact ⟨(), t, hinit, run_bind_eq_ok_iff.mpr ⟨(), u, hstep, rfl⟩⟩

end PlanarVideo
