import PlanarVideo.Proofs.TapTable.Derived

/-!
# Filters with a stated integer form

A filter whose integer form is stated is built without any rounding.  Its settings ask for one table
(`TapTable.asked`), whatever their order: each part of it has the value that was set last, or its
default.  This table has to meet six requirements, and the first that it does not meet is the fault
that is reported (`Checked`).  The precision is not among its parts and has no influence.

A table that has been built is accepted again when it is stated with its own integer form, also if
that form was derived.
-/

namespace PlanarVideo

open Numeric

/-! ## Requirements in a row -/

section Checked

variable {α ε : Type}

/-- The fault belongs to the first requirement that is not met. -/
inductive FirstUnmet : List (Prop × ε) → ε → Prop
  | here {p : Prop} {fault : ε} {rest : List (Prop × ε)} (h : ¬p) :
      FirstUnmet ((p, fault) :: rest) fault
  | later {r : Prop × ε} {fault : ε} {rest : List (Prop × ε)} (h : r.1)
      (hrest : FirstUnmet rest fault) : FirstUnmet (r :: rest) fault

/-- The outcome is `a` if all requirements are met, and the fault of the first that is not
otherwise. -/
structure Checked (a : α) (requirements : List (Prop × ε)) (outcome : Except ε α) : Prop where
  ok_iff : ∀ b, outcome = .ok b ↔ b = a ∧ ∀ r ∈ requirements, r.1
  error_iff : ∀ fault, outcome = .error fault ↔ FirstUnmet requirements fault

variable {a : α} {requirements : List (Prop × ε)} {p q : Prop} {fault fault' : ε}
  {outcome outcome' : Except ε α}

lemma firstUnmet_cons_iff :
    FirstUnmet ((p, fault) :: requirements) fault' ↔
      ¬p ∧ fault = fault' ∨ p ∧ FirstUnmet requirements fault' := by
  constructor
  · intro h
    cases h with
    | here h => exact Or.inl ⟨h, rfl⟩
    | later h hrest => exact Or.inr ⟨h, hrest⟩
  · rintro (⟨h, rfl⟩ | ⟨h, hrest⟩)
    · exact .here h
    · exact .later h hrest

namespace Checked

lemma nil (a : α) : Checked a ([] : List (Prop × ε)) (.ok a) where
  ok_iff b := by simp [eq_comm]
  error_iff fault := by
    simp only [reduceCtorEq, false_iff]
    intro h
    cases h

/-- One more check in front of the others. -/
lemma cons [Decidable q] (hpq : p ↔ ¬q) (fault : ε) (h : Checked a requirements outcome) :
    Checked a ((p, fault) :: requirements) (if q then .error fault else outcome) where
  ok_iff b := by
    by_cases hq : q
    · simp [hq, hpq]
    · simp [hq, hpq, h.ok_iff b]
  error_iff fault' := by
    rw [firstUnmet_cons_iff, hpq]
    by_cases hq : q
    · simp [hq]
    · simp [hq, h.error_iff fault']

/-- The requirements leave no choice of the outcome. -/
lemma unique (h : Checked a requirements outcome) (h' : Checked a requirements outcome') :
    outcome = outcome' := by
  cases outcome with
  | ok b => exact ((h'.ok_iff b).mpr ((h.ok_iff b).mp rfl)).symm
  | error fault => exact ((h'.error_iff fault).mpr ((h.error_iff fault).mp rfl)).symm

end Checked

end Checked

/-! ## Building a stated form -/

/-- What a table has to meet, in the order in which it is checked, and the fault that is reported
for want of it. -/
def TapTable.requirements (t : TapTable) : List (Prop × TableFault) :=
  [(t.size ≠ 0, .noTaps),
    (t.center < t.size, .centerOutside t.center t.size),
    ((∀ x ∈ t.real.taps, x.isFinite = true) ∧ t.real.offset.isFinite = true ∧
      t.real.scale.isFinite = true, .notFinite),
    (t.fixed.taps.size = t.size, .tapCount t.fixed.taps.size t.size),
    (t.fixed.shift ≤ 30, .shiftTooLarge t.fixed.shift),
    (|t.fixed.offset.toInt| + 65535 * ∑ k ∈ Finset.range t.fixed.taps.size, |t.integerTap k|
      ≤ 2 ^ 63 - 1, .accumulator)]

lemma RealTaps.isFinite_iff {r : RealTaps} :
    r.isFinite = true ↔
      (∀ x ∈ r.taps, x.isFinite = true) ∧ r.offset.isFinite = true ∧ r.scale.isFinite = true := by
  simp only [isFinite, Bool.and_eq_true, Array.all_eq_true_iff_forall_mem, and_assoc]

namespace TapSpec

variable {s : TapSpec} {f : FixedTaps} {taps : Array Float} {settings : List TapSetting}

/-- The table that a statement with the integer form `f` asks for. -/
def table (s : TapSpec) (f : FixedTaps) : TapTable where
  center := s.center
  real := s.real
  fixed := f
  clip := s.clip

lemma build_of_stated (h : s.stated? = some f) :
    s.build =
      if s.size = 0 then .error .noTaps
      else if s.size ≤ s.center then .error (.centerOutside s.center s.size)
      else if s.real.isFinite = false then .error .notFinite
      else if f.taps.size ≠ s.size then .error (.tapCount f.taps.size s.size)
      else if maxShift < f.shift then .error (.shiftTooLarge f.shift)
      else if f.reach?.isNone then .error .accumulator
      else .ok (s.table f) := by
  unfold build
  by_cases hsize : f.taps.size = s.size
  · simp only [fixed, h, hsize, if_true, ne_eq, not_true_eq_false, if_false]
    rfl
  · simp only [fixed, h, hsize, if_false, ne_eq, not_false_eq_true, if_true]

/-- A stated form is built exactly as its table meets the requirements. -/
lemma checked_build (h : s.stated? = some f) :
    Checked (s.table f) (s.table f).requirements s.build := by
  have hreach : FitsInt64 f.reach ↔ |f.offset.toInt|
      + 65535 * ∑ k ∈ Finset.range f.taps.size, |(s.table f).integerTap k| ≤ 2 ^ 63 - 1 :=
    FixedTaps.fitsInt64_reach_iff rfl (fun _ _ => rfl) rfl
  rw [build_of_stated h]
  refine .cons Iff.rfl _ (.cons Nat.not_le.symm _ (.cons ?_ _ (.cons not_not.symm _
    (.cons Nat.not_lt.symm _ (.cons ?_ _ (.nil _))))))
  · rw [Bool.not_eq_false]
    exact RealTaps.isFinite_iff.symm
  · rw [FixedTaps.reach?_eq, Option.isNone_iff_eq_none, ← ne_eq, ← Option.isSome_iff_ne_none,
      isSome_int64?_iff]
    exact hreach.symm

end TapSpec

/-! ## Settings in a row -/

namespace TapSetting

/-- The center that is set. -/
def center? : TapSetting → Option ℕ
  | .center value => some value
  | _ => none

/-- The offset of the float form that is set. -/
def offset? : TapSetting → Option Float
  | .offset value => some value
  | _ => none

/-- The scale of the float form that is set. -/
def scale? : TapSetting → Option Float
  | .scale value => some value
  | _ => none

/-- The precision that is set. -/
def precision? : TapSetting → Option ℕ
  | .precision value => some value
  | _ => none

/-- The integer form that is set. -/
def fixed? : TapSetting → Option FixedTaps
  | .fixed value => some value
  | _ => none

/-- The choice whether to clamp that is set. -/
def clip? : TapSetting → Option Bool
  | .clip value => some value
  | _ => none

end TapSetting

section Settings

variable {α : Type} {pick : TapSetting → Option α} {taps : Array Float}
  {settings before after : List TapSetting} {f : FixedTaps}

/-- What the last of the settings that `pick` looks at has set, if there is one. -/
def lastSet (pick : TapSetting → Option α) (settings : List TapSetting) : Option α :=
  settings.reverse.findSome? pick

/-- The table that settings with the integer form `f` ask for, in whatever order they come. -/
def TapTable.asked (taps : Array Float) (settings : List TapSetting) (f : FixedTaps) :
    TapTable where
  center := (lastSet TapSetting.center? settings).getD 0
  real :=
    { taps
      offset := (lastSet TapSetting.offset? settings).getD 0
      scale := (lastSet TapSetting.scale? settings).getD 1 }
  fixed := f
  clip := (lastSet TapSetting.clip? settings).getD false

lemma lastSet_concat (pick : TapSetting → Option α) (settings : List TapSetting) (x : TapSetting) :
    lastSet pick (settings ++ [x]) = (pick x).or (lastSet pick settings) := by
  rw [lastSet, List.reverse_concat, List.findSome?_cons]
  cases pick x with
  | none => rfl
  | some value => rfl

/-- A precision makes no difference to whoever does not look for it. -/
lemma lastSet_insert_precision (pick : TapSetting → Option α) {precision : ℕ}
    (h : pick (.precision precision) = none) :
    lastSet pick (before ++ .precision precision :: after) = lastSet pick (before ++ after) := by
  simp [lastSet, List.findSome?_append, h]

/-- Each part of a statement is what was set last, or its default. -/
lemma TapSpec.ofSettings_eq (taps : Array Float) (settings : List TapSetting) :
    ofSettings taps settings =
      { real :=
          { taps
            offset := (lastSet TapSetting.offset? settings).getD 0
            scale := (lastSet TapSetting.scale? settings).getD 1 }
        center := (lastSet TapSetting.center? settings).getD 0
        precision := (lastSet TapSetting.precision? settings).getD defaultPrecision
        stated? := lastSet TapSetting.fixed? settings
        clip := (lastSet TapSetting.clip? settings).getD false } := by
  induction settings using List.reverseRecOn with
  | nil => rfl
  | append_singleton settings x ih =>
    simp only [lastSet_concat]
    rw [ofSettings, List.foldl_concat, ← ofSettings, ih]
    cases x <;> rfl

lemma TapTable.asked_insert_precision (taps : Array Float) (precision : ℕ) (f : FixedTaps) :
    asked taps (before ++ .precision precision :: after) f = asked taps (before ++ after) f := by
  rw [asked, asked, lastSet_insert_precision TapSetting.center? rfl,
    lastSet_insert_precision TapSetting.offset? rfl,
    lastSet_insert_precision TapSetting.scale? rfl, lastSet_insert_precision TapSetting.clip? rfl]

/-- What becomes of settings that state an integer form. -/
lemma TapSpec.checked_build_ofSettings (taps : Array Float)
    (h : lastSet TapSetting.fixed? settings = some f) :
    let t := TapTable.asked taps settings f
    Checked t t.requirements (ofSettings taps settings).build := by
  have hspec := ofSettings_eq taps settings
  have hstated : (ofSettings taps settings).stated? = some f := by rw [hspec, h]
  have htable : (ofSettings taps settings).table f = .asked taps settings f := by
    rw [hspec]
    rfl
  rw [← htable]
  exact checked_build hstated

end Settings

/-- **A stated integer form is checked, not derived.**  Settings in any order, the last integer form
among them being `f`, ask for one table, each other part of which is what was set last or its
default.  It is built, with its parts as they are, if it meets all requirements: there are taps, the
center is one of them, the float coefficients are finite, there are as many integer taps, the shift
is at most 30, and sums over 16-bit samples fit the accumulator.  Otherwise the first requirement
that it does not meet is reported.  Setting a precision anywhere in between changes nothing. -/
theorem build_stated (taps : Array Float) {settings : List TapSetting} {f : FixedTaps}
    (hf : lastSet TapSetting.fixed? settings = some f) :
    let t := TapTable.asked taps settings f
    Checked t t.requirements (TapSpec.ofSettings taps settings).build ∧
      ∀ before after precision, settings = before ++ after →
        (TapSpec.ofSettings taps (before ++ .precision precision :: after)).build
          = (TapSpec.ofSettings taps settings).build := by
  have hchecked := TapSpec.checked_build_ofSettings taps hf
  refine ⟨hchecked, ?_⟩
  rintro before after precision rfl
  have hinsert : lastSet TapSetting.fixed? (before ++ .precision precision :: after) = some f := by
    rw [lastSet_insert_precision TapSetting.fixed? rfl, hf]
  have hchecked' := TapSpec.checked_build_ofSettings taps hinsert
  rw [TapTable.asked_insert_precision] at hchecked'
  exact hchecked'.unique hchecked

/-- A form that is stated twice counts as it was stated last, and of two requirements that are not
met the earlier one is reported. -/
theorem build_stated_twice :
    let blur : FixedTaps := { taps := #[1, 1], offset := 1, shift := 1 }
    let wide : FixedTaps := { taps := #[1, 1, 1], offset := 0, shift := 31 }
    let accepted : List TapSetting := [.fixed wide, .precision 31, .fixed blur, .center 1]
    let refused : List TapSetting := [.fixed blur, .center 1, .fixed wide]
    lastSet TapSetting.fixed? accepted = some blur ∧
      (TapSpec.ofSettings #[0.5, 0.5] accepted).build
        = .ok { center := 1, real := { taps := #[0.5, 0.5] }, fixed := blur, clip := false } ∧
      lastSet TapSetting.fixed? refused = some wide ∧
      (TapSpec.ofSettings #[0.5, 0.5] refused).build = .error (.tapCount 3 2) := by
  intro blur wide accepted refused
  have hfinite : ∀ x ∈ (#[0.5, 0.5] : Array Float), x.isFinite = true := by decide +kernel
  have hscale : (0 : Float).isFinite = true ∧ (1 : Float).isFinite = true := by decide +kernel
  have hblur : lastSet TapSetting.fixed? accepted = some blur := rfl
  have hwide : lastSet TapSetting.fixed? refused = some wide := rfl
  obtain ⟨haccepted, -⟩ := build_stated #[0.5, 0.5] hblur
  obtain ⟨hrefused, -⟩ := build_stated #[0.5, 0.5] hwide
  refine ⟨hblur, (haccepted.ok_iff _).mpr ⟨rfl, ?_⟩, hwide, (hrefused.error_iff _).mpr ?_⟩
  · simp only [TapTable.requirements, List.forall_mem_cons]
    exact ⟨by decide, by decide, ⟨hfinite, hscale⟩, rfl, by decide, by decide,
      List.forall_mem_nil _⟩
  · exact .later (by decide) (.later (by decide) (.later ⟨hfinite, hscale⟩ (.here (by decide))))

/-- **A built table is accepted again.**  Stated with its own float form and its own integer form,
be it derived or not, and with any precision, a built table is built as it was.  In particular it
has as many integer taps as float taps, its center is one of them, and its shift is at most 30. -/
theorem build_settings {t : TapTable} (h : t.IsBuilt) (precision : ℕ) :
    (TapSpec.ofSettings t.real.taps (t.settings precision)).build = .ok t ∧
      t.fixed.taps.size = t.real.taps.size ∧ t.center < t.real.taps.size ∧ t.fixed.shift ≤ 30 := by
  have haccepted := h.accepted
  have hspec : TapSpec.ofSettings t.real.taps (t.settings precision) = t.toSpec precision := rfl
  refine ⟨?_, haccepted.size_fixed, haccepted.center_lt, haccepted.shift_le⟩
  rw [hspec]
  exact haccepted.build_toSpec precision

/-- The form derived for thirds is accepted with a precision at which none would be derived. -/
theorem build_settings_thirds :
    ∃ t, TapSpec.thirds.build = .ok t ∧
      (TapSpec.ofSettings t.real.taps (t.settings 31)).build = .ok t := by
  have hbuilt : TapSpec.thirds.build.toOption.isSome := by decide +kernel
  cases h : TapSpec.thirds.build with
  | error fault => simp [h, Except.toOption] at hbuilt
  | ok t => exact ⟨t, rfl, (build_settings ⟨_, h⟩ 31).1⟩

end PlanarVideo
