import PlanarVideo.Proofs.Numeric.FloatValue

/-!
# Rounding goes to the nearest number

The numbers of a format are the multiples of powers of two that its mantissa can count.  Rounding
shifts a mantissa to the right, keeping a round bit and a sticky bit, and the outcome is shown to be
a number of the format that no other comes nearer than.  Nothing more is used of it: nearest points
keep the order, and a number of the format is its own nearest point.
-/

namespace PlanarVideo.Numeric

open Float.Model (Format UnpackedFloat totalExponent)
open Float.Model.UnpackedFloat

/-! ## Nearest numbers of a format -/

section Nearest

variable {F : Format} {x y r s : ℝ}

/-- `r` is a number of the format, and none comes nearer to `x`. -/
structure IsNearest (F : Format) (x r : ℝ) : Prop where
  representable : Representable F r
  abs_sub_le : ∀ s, Representable F s → |x - r| ≤ |x - s|

lemma IsNearest.eq_self (h : IsNearest F x r) (hx : Representable F x) : r = x := by
  have hle := h.abs_sub_le x hx
  rw [sub_self, abs_zero, abs_nonpos_iff] at hle
  linarith

/-- Nearest points keep the order, wherever a tie goes. -/
lemma IsNearest.le (hx : IsNearest F x r) (hy : IsNearest F y s) (h : x < y) : r ≤ s := by
  by_contra hlt
  have hr := hx.abs_sub_le s hy.representable
  have hs := hy.abs_sub_le r hx.representable
  -- both `x` and `y` would lie in the middle between `s` and `r`
  rcases abs_cases (x - r) with h₁ | h₁ <;> rcases abs_cases (x - s) with h₂ | h₂ <;>
    rcases abs_cases (y - r) with h₃ | h₃ <;> rcases abs_cases (y - s) with h₄ | h₄ <;>
    linarith

lemma IsNearest.neg (h : IsNearest F x r) : IsNearest F (-x) (-r) := by
  refine ⟨h.representable.neg, fun s hs => ?_⟩
  have hle := h.abs_sub_le (-s) hs.neg
  rw [← abs_neg (-x - -r), ← abs_neg (-x - s)]
  convert hle using 2 <;> ring

lemma IsNearest.signed (h : IsNearest F x r) (s : Sign) :
    IsNearest F (signed s x) (signed s r) := by
  cases s with
  | positive => exact h
  | negative => exact h.neg

/-- An integer within half a unit is as near as any. -/
lemma abs_sub_le_of_abs_sub_le_half {q : ℤ} (h : |y - q| ≤ 1 / 2) (n : ℤ) :
    |y - q| ≤ |y - n| := by
  rcases eq_or_ne n q with rfl | hne
  · exact le_rfl
  · have hone : (1 : ℝ) ≤ |(n : ℝ) - q| := by
      exact_mod_cast Int.one_le_abs (sub_ne_zero.mpr hne)
    have htri := abs_sub_le (n : ℝ) y q
    rw [abs_sub_comm (n : ℝ) y] at htri
    linarith

/-- On a grid that is fine enough for `x`, the nearest grid point is a nearest number. -/
lemma isNearest_of_abs_sub_le {q t : ℤ} (ht : F.minExponent ≤ t) (hq : |q| ≤ 2 ^ F.mantissaBits)
    (hfull : t = F.minExponent ∨ 2 ^ F.mantissaBitsWithoutImplicit * 2 ^ t ≤ x)
    (h : |x / 2 ^ t - q| ≤ 1 / 2) : IsNearest F x (q * 2 ^ t) := by
  have hpos : (0 : ℝ) < 2 ^ t := by positivity
  have hscale : ∀ n : ℤ, |x - n * 2 ^ t| = |x / 2 ^ t - n| * 2 ^ t := by
    intro n
    rw [← abs_of_pos hpos, ← abs_mul, abs_of_pos hpos, sub_mul, div_mul_cancel₀ _ hpos.ne']
  have hgrid : ∀ n : ℤ, |x - q * 2 ^ t| ≤ |x - n * 2 ^ t| := by
    intro n
    rw [hscale, hscale]
    exact mul_le_mul_of_nonneg_right (abs_sub_le_of_abs_sub_le_half h n) hpos.le
  refine ⟨⟨q, t, ht, hq, rfl⟩, ?_⟩
  rintro _ ⟨n, e, he, hn, rfl⟩
  rcases le_or_gt t e with hle | hlt
  · -- a coarser exponent: the number lies on the grid
    obtain ⟨k, rfl⟩ := Int.le.dest hle
    have hpoint : (n * 2 ^ (t + k) : ℝ) = (n * 2 ^ k : ℤ) * 2 ^ t := by
      rw [zpow_add₀ two_ne_zero, zpow_natCast]
      push_cast
      ring
    rw [hpoint]
    exact hgrid _
  · -- a finer exponent: the number is not above a grid point that is not above `x`
    have hx := hfull.resolve_left (by omega)
    have hnum : (n * 2 ^ e : ℝ) ≤ 2 ^ F.mantissaBitsWithoutImplicit * 2 ^ t := by
      have hn' : (n : ℝ) ≤ 2 * 2 ^ F.mantissaBitsWithoutImplicit := by
        have habs := (le_abs_self n).trans hn
        rw [← Nat.cast_two, ← Nat.cast_pow, two_pow_mantissaBits] at habs
        exact_mod_cast habs
      calc (n * 2 ^ e : ℝ) ≤ 2 * 2 ^ F.mantissaBitsWithoutImplicit * 2 ^ e := by gcongr
        _ = 2 ^ F.mantissaBitsWithoutImplicit * 2 ^ (e + 1) := by
            rw [zpow_add_one₀ two_ne_zero]
            ring
        _ ≤ 2 ^ F.mantissaBitsWithoutImplicit * 2 ^ t := by
            gcongr
            · exact one_le_two
            · omega
    have hedge := hgrid (2 ^ F.mantissaBitsWithoutImplicit)
    push_cast at hedge
    refine hedge.trans ?_
    rw [abs_of_nonneg (sub_nonneg.mpr hx), abs_of_nonneg (by linarith)]
    linarith

end Nearest

/-! ## The bits behind a shifted mantissa -/

section Shift

variable {em : ExtendedMantissa} {y : ℝ}

/-- The mantissa, and a half for the round bit, give `y` to within a half, and exactly unless the
sticky bit is set. -/
structure Approximates (em : ExtendedMantissa) (y : ℝ) : Prop where
  lower : em.mantissa + em.roundBit.toNat / 2 ≤ y
  upper : y ≤ em.mantissa + em.roundBit.toNat / 2 + 1 / 2
  exact : em.stickyBit = false → y = em.mantissa + em.roundBit.toNat / 2

lemma approximates_exact (m : ℕ) :
    Approximates (ExtendedMantissa.ofMantissaAndAccuracy m .exact) m := by
  constructor <;> simp [ExtendedMantissa.ofMantissaAndAccuracy]

/-- A proper fraction behind the mantissa is kept by its side of a half. -/
lemma approximates_inexact (m : ℕ) {f : ℝ} (hpos : 0 < f) (hlt : f < 1) :
    Approximates (ExtendedMantissa.ofMantissaAndAccuracy m (.inexact (cmp f (1 / 2)))) (m + f) := by
  rcases lt_trichotomy f (1 / 2) with h | rfl | h
  · rw [h.cmp_eq_lt]
    constructor <;> simp [ExtendedMantissa.ofMantissaAndAccuracy] <;> linarith
  · rw [cmp_self_eq_eq]
    constructor <;> simp [ExtendedMantissa.ofMantissaAndAccuracy]
  · rw [h.cmp_eq_gt]
    constructor <;> simp [ExtendedMantissa.ofMantissaAndAccuracy] <;> linarith

@[simp] lemma mantissa_ofMantissaAndAccuracy (m : ℕ) (acc : Accuracy) :
    (ExtendedMantissa.ofMantissaAndAccuracy m acc).mantissa = m := by
  rcases acc with _ | (_ | _ | _) <;> rfl

/-- The bit that is shifted out becomes the round bit, and the bits behind it the sticky bit. -/
lemma Approximates.shiftRightOne (h : Approximates em y) :
    Approximates em.shiftRightOne (y / 2) := by
  obtain ⟨m, round, sticky⟩ := em
  obtain ⟨lower, upper, exact⟩ := h
  have hparity : (m : ℝ) = 2 * (m / 2 : ℕ) + (m % 2 : ℕ) := by
    exact_mod_cast (Nat.div_add_mod m 2).symm
  have hbit : m % 2 = 0 ∨ m % 2 = 1 := Nat.mod_two_eq_zero_or_one m
  constructor <;> rcases hbit with hbit | hbit <;> cases round <;> cases sticky <;>
    simp [ExtendedMantissa.shiftRightOne, hbit] at * <;> linarith

lemma Approximates.shiftRight (h : Approximates em y) (k : ℕ) :
    Approximates (em >>> k) (y / 2 ^ k) := by
  show Approximates (k.repeat ExtendedMantissa.shiftRightOne em) (y / 2 ^ k)
  induction k with
  | zero => simpa [Nat.repeat] using h
  | succ k ih =>
    rw [Nat.repeat, pow_succ, ← div_div]
    exact ih.shiftRightOne

/-- Rounding the bits away goes to an integer within a half. -/
lemma Approximates.abs_sub_roundedMantissa_le (h : Approximates em y) :
    |y - em.roundedMantissa| ≤ 1 / 2 := by
  obtain ⟨m, round, sticky⟩ := em
  obtain ⟨lower, upper, exact⟩ := h
  have hbit : m % 2 = 0 ∨ m % 2 = 1 := Nat.mod_two_eq_zero_or_one m
  rw [abs_le]
  constructor <;> rcases hbit with hbit | hbit <;> cases round <;> cases sticky <;>
    simp [ExtendedMantissa.roundedMantissa, ExtendedMantissa.accuracy,
      Accuracy.roundToNearestEven, hbit] at * <;> linarith

/-- Rounding does not pass an integer above. -/
lemma Approximates.roundedMantissa_le (h : Approximates em y) {n : ℕ} (hy : y < n) :
    em.roundedMantissa ≤ n := by
  have hnear := abs_le.mp h.abs_sub_roundedMantissa_le
  have hlt : (em.roundedMantissa : ℝ) < n + 1 := by linarith
  exact Nat.lt_succ_iff.mp (by exact_mod_cast hlt)

/-- Rounding does not pass an integer below. -/
lemma Approximates.le_roundedMantissa (h : Approximates em y) {n : ℕ} (hy : n ≤ y) :
    n ≤ em.roundedMantissa := by
  have hnear := abs_le.mp h.abs_sub_roundedMantissa_le
  have hlt : (n : ℝ) < em.roundedMantissa + 1 := by linarith
  exact Nat.lt_succ_iff.mp (by exact_mod_cast hlt)

end Shift

/-! ## Rounding a mantissa -/

section Round

variable {F : Format} {m q : ℕ} {e t : ℤ} {y : ℝ}

lemma signed_zero (s : Sign) : signed s 0 = 0 := by
  cases s <;> simp [signed]

/-- The target exponent is that of the finest grid on which the magnitude fits the mantissa,
whatever fraction follows the mantissa. -/
lemma magnitude_lt_of_targetExponent_le (hy : y < m + 1)
    (ht : F.targetExponent (totalExponent m e) ≤ t) :
    y * 2 ^ e < 2 ^ F.mantissaBits * 2 ^ t := by
  have hm : (m + 1 : ℝ) ≤ 2 ^ (m.log2 + 1) := by
    exact_mod_cast Nat.succ_le_of_lt (Nat.lt_log2_self (n := m))
  have hexp : (m.log2 + 1 : ℕ) + e ≤ F.mantissaBits + t := by
    simp only [Format.targetExponent, totalExponent] at ht
    push_cast
    omega
  calc y * 2 ^ e < (m + 1) * 2 ^ e := by gcongr
    _ ≤ 2 ^ (m.log2 + 1) * 2 ^ e := by gcongr
    _ = 2 ^ ((m.log2 + 1 : ℕ) + e) := by rw [zpow_add₀ two_ne_zero, zpow_natCast]
    _ ≤ 2 ^ (F.mantissaBits + t) := zpow_le_zpow_right₀ one_le_two hexp
    _ = 2 ^ F.mantissaBits * 2 ^ t := by rw [zpow_add₀ two_ne_zero, zpow_natCast]

/-- On that grid the magnitude fills the mantissa, unless the grid is the finest of all. -/
lemma eq_minExponent_or_le_magnitude (hm : 0 < m ∨ e ≤ F.minExponent)
    (ht : t = F.targetExponent (totalExponent m e)) :
    t = F.minExponent ∨ (2 ^ F.mantissaBitsWithoutImplicit * 2 ^ t : ℝ) ≤ m * 2 ^ e := by
  refine or_iff_not_imp_left.mpr fun hmin => ?_
  have hexp : F.mantissaBitsWithoutImplicit + t = m.log2 + e := by
    simp only [Format.targetExponent, totalExponent, Format.mantissaBits] at ht hmin
    omega
  have hpos : m ≠ 0 := by
    rintro rfl
    have he : e ≤ F.minExponent := hm.resolve_left (by omega)
    simp only [Format.targetExponent, totalExponent, Format.mantissaBits, Nat.log2_zero] at ht
    omega
  have hm' : (2 ^ m.log2 : ℝ) ≤ m := by exact_mod_cast Nat.log2_self_le hpos
  calc (2 ^ F.mantissaBitsWithoutImplicit * 2 ^ t : ℝ)
      = 2 ^ (F.mantissaBitsWithoutImplicit + t) := by rw [zpow_add₀ two_ne_zero, zpow_natCast]
    _ = 2 ^ m.log2 * 2 ^ e := by rw [hexp, zpow_add₀ two_ne_zero, zpow_natCast]
    _ ≤ m * 2 ^ e := by gcongr

/-- The second half of rounding: a mantissa that has been rounded up to one bit more than fits is
shifted once again. -/
def renormalize (F : Format) (s : Sign) (q : ℕ) (t : ℤ) : UnpackedFloat :=
  let shifted := shiftToTargetExponent F q t .exact
  if h : shifted.1.mantissa = 0 then .zero s
  else .finite s shifted.1.mantissa shifted.2 (Nat.pos_of_ne_zero h)

lemma shiftToTargetExponent_of_lt (ht : F.minExponent ≤ t) (hq : q < 2 ^ F.mantissaBits) :
    shiftToTargetExponent F q t .exact = (ExtendedMantissa.ofMantissaAndAccuracy q .exact, t) := by
  have hlog : q.log2 < F.mantissaBits := by
    rcases Nat.eq_zero_or_pos q with rfl | hpos
    · simp [Format.mantissaBits]
    · exact (Nat.log2_lt hpos.ne').mpr hq
  have htarget : (F.targetExponent (totalExponent q t) - t).toNat = 0 := by
    simp only [Format.targetExponent, totalExponent]
    omega
  rw [shiftToTargetExponent, shiftToExponent, htarget]
  simp [HShiftRight.hShiftRight, Nat.repeat]

lemma shiftToTargetExponent_carry (ht : F.minExponent ≤ t) :
    (shiftToTargetExponent F (2 ^ F.mantissaBits) t .exact).1.mantissa
        = 2 ^ F.mantissaBitsWithoutImplicit ∧
      (shiftToTargetExponent F (2 ^ F.mantissaBits) t .exact).2 = t + 1 := by
  have htarget : F.targetExponent (totalExponent (2 ^ F.mantissaBits) t) = t + 1 := by
    simp only [Format.targetExponent, totalExponent, Nat.log2_two_pow]
    omega
  have hone : (t + 1 - t).toNat = 1 := by omega
  rw [shiftToTargetExponent, htarget, shiftToExponent, hone]
  refine ⟨?_, rfl⟩
  show 2 ^ F.mantissaBits / 2 = 2 ^ F.mantissaBitsWithoutImplicit
  rw [two_pow_mantissaBits]
  omega

lemma renormalize_spec (s : Sign) (ht : F.minExponent ≤ t) (hq : q ≤ 2 ^ F.mantissaBits)
    (hfull : t = F.minExponent ∨ 2 ^ F.mantissaBitsWithoutImplicit ≤ q) :
    Canonical F (renormalize F s q t) ∧ renormalize F s q t ≠ .notANumber ∧
      value (renormalize F s q t) = (signed s (q * 2 ^ t) : ℝ) := by
  rcases hq.lt_or_eq with hlt | rfl
  · simp only [renormalize, shiftToTargetExponent_of_lt ht hlt,
      ExtendedMantissa.ofMantissaAndAccuracy]
    rcases Nat.eq_zero_or_pos q with rfl | hpos
    · simp [Canonical, value, signed_zero]
    · simp only [hpos.ne', dif_neg, not_false_eq_true]
      exact ⟨⟨hlt, ht, hfull⟩, by simp, rfl⟩
  · -- the carry: half the mantissa at the next exponent
    obtain ⟨hmantissa, hexponent⟩ := shiftToTargetExponent_carry (F := F) ht
    have hpow := two_pow_mantissaBits F
    have hpos : 0 < 2 ^ F.mantissaBitsWithoutImplicit := by positivity
    simp only [renormalize, hmantissa, hexponent, hpos.ne', dif_neg, not_false_eq_true]
    refine ⟨⟨by omega, by omega, Or.inr le_rfl⟩, by simp, ?_⟩
    rw [value, hpow, zpow_add_one₀ two_ne_zero]
    push_cast
    ring_nf

/-- `u` is what a number of the format has become that is nearest to `x`. -/
structure RoundedFrom (F : Format) (x : ℝ) (u : UnpackedFloat) : Prop where
  canonical : Canonical F u
  ne_nan : u ≠ .notANumber
  nearest : ∃ r : ℝ, value u = r ∧ IsNearest F x r

/-- Rounding goes to the nearest number if the mantissa and its accuracy approximate `y`, the
exponent is not above the target, and nothing is lost where the mantissa is zero. -/
lemma roundWithAccuracy_spec (s : Sign) {acc : Accuracy}
    (happrox : Approximates (ExtendedMantissa.ofMantissaAndAccuracy m acc) y) (hy : y < m + 1)
    (he : e ≤ F.targetExponent (totalExponent m e)) (hm : 0 < m ∨ e ≤ F.minExponent) :
    RoundedFrom F (signed s (y * 2 ^ e)) (roundWithAccuracy F s m e acc) := by
  have hmy : (m : ℝ) ≤ y := by
    have hlower := happrox.lower
    have hbit : (0 : ℝ) ≤ (ExtendedMantissa.ofMantissaAndAccuracy m acc).roundBit.toNat := by
      positivity
    rw [mantissa_ofMantissaAndAccuracy] at hlower
    linarith
  set t := F.targetExponent (totalExponent m e) with ht
  obtain ⟨k, hk⟩ := Int.le.dest he
  have hk' : (t - e).toNat = k := by omega
  -- the shifted mantissa approximates `y * 2 ^ e / 2 ^ t`
  obtain ⟨em, hem⟩ : ∃ em, em = ExtendedMantissa.ofMantissaAndAccuracy m acc >>> k := ⟨_, rfl⟩
  have hround : roundWithAccuracy F s m e acc = renormalize F s em.roundedMantissa t := by
    have hfirst : shiftToTargetExponent F m e acc = (em, t) := by
      rw [shiftToTargetExponent, ← ht, shiftToExponent, hk', hem, hk]
    rw [roundWithAccuracy, hfirst]
    rfl
  have hshifted : Approximates em (y * 2 ^ e / 2 ^ t) := by
    have hquotient : (y * 2 ^ e / 2 ^ t : ℝ) = y / 2 ^ k := by
      rw [← hk, zpow_add₀ two_ne_zero, zpow_natCast]
      field_simp
    rw [hquotient, hem]
    exact happrox.shiftRight k
  have hmin : F.minExponent ≤ t := le_max_right _ _
  have hpos : (0 : ℝ) < 2 ^ t := by positivity
  have hfull : t = F.minExponent ∨ 2 ^ F.mantissaBitsWithoutImplicit * 2 ^ t ≤ y * 2 ^ e := by
    refine (eq_minExponent_or_le_magnitude hm ht).imp_right fun hle => hle.trans ?_
    gcongr
  have hq : em.roundedMantissa ≤ 2 ^ F.mantissaBits := by
    refine hshifted.roundedMantissa_le ?_
    rw [div_lt_iff₀ hpos, Nat.cast_pow, Nat.cast_two]
    exact magnitude_lt_of_targetExponent_le hy ht.ge
  have hq' : t = F.minExponent ∨ 2 ^ F.mantissaBitsWithoutImplicit ≤ em.roundedMantissa := by
    refine hfull.imp_right fun hle => hshifted.le_roundedMantissa ?_
    rwa [le_div_iff₀ hpos, Nat.cast_pow, Nat.cast_two]
  rw [hround]
  obtain ⟨hcanonical, hnan, hvalue⟩ := renormalize_spec s hmin hq hq'
  refine ⟨hcanonical, hnan, _, hvalue, IsNearest.signed ?_ s⟩
  have habs : |(em.roundedMantissa : ℤ)| ≤ 2 ^ F.mantissaBits := by
    rw [Nat.abs_cast]
    exact_mod_cast hq
  exact isNearest_of_abs_sub_le hmin habs hfull hshifted.abs_sub_roundedMantissa_le

/-- A mantissa that is exact is rounded from its own value. -/
lemma roundWithAccuracy_exact_spec (s : Sign) (hm : 0 < m)
    (he : e ≤ F.targetExponent (totalExponent m e)) :
    RoundedFrom F (signed s (m * 2 ^ e)) (roundWithAccuracy F s m e .exact) :=
  roundWithAccuracy_spec s (approximates_exact m) (lt_add_one _) he (Or.inl hm)

lemma log2_shiftLeft (hm : m ≠ 0) (k : ℕ) : (m <<< k).log2 = m.log2 + k := by
  induction k with
  | zero => rfl
  | succ k ih =>
    have hne : m <<< k ≠ 0 := by simp [Nat.shiftLeft_eq, hm]
    rw [Nat.shiftLeft_succ, Nat.log2_two_mul hne, ih, Nat.add_assoc]

/-- Rounding a mantissa and an exponent gives the nearest number of the format. -/
lemma round_spec (s : Sign) (hm : 0 < m) (e : ℤ) :
    RoundedFrom F (signed s (m * 2 ^ e)) (UnpackedFloat.round F s m e) := by
  -- the exponent is lowered to the target first, which is exact
  obtain ⟨k, hk⟩ : ∃ k : ℕ, k = (e - F.targetExponent (totalExponent m e)).toNat := ⟨_, rfl⟩
  have hmagnitude : ((m <<< k : ℕ) * 2 ^ (e - k) : ℝ) = m * 2 ^ e := by
    rw [Nat.shiftLeft_eq, zpow_sub₀ two_ne_zero, zpow_natCast]
    push_cast
    field_simp
  have hpos : 0 < m <<< k := by
    rw [Nat.shiftLeft_eq]
    positivity
  have htotal : totalExponent (m <<< k) (e - k) = totalExponent m e := by
    simp only [totalExponent, log2_shiftLeft hm.ne']
    push_cast
    ring
  have hle : e - k ≤ F.targetExponent (totalExponent (m <<< k) (e - k)) := by
    rw [htotal]
    omega
  have hspec := roundWithAccuracy_exact_spec s hpos hle
  rw [hmagnitude, hk] at hspec
  exact hspec

end Round

end PlanarVideo.Numeric
