import PlanarVideo.Proofs.Numeric.FloatConversion

/-!
# Scaling by a positive number

A double is multiplied or divided by a finite positive one.  Both results are shown to be what is
stored for the exact product and the exact quotient: the nearest double, or an infinity.  So scaling
up keeps the order, and scaling down takes it back wherever the product had not to be rounded.
-/

namespace PlanarVideo.Numeric

open Float.Model (Format UnpackedFloat totalExponent)
open Float.Model.UnpackedFloat

/-! ## Products and quotients of canonical forms -/

section Canonical

variable {F : Format} {s₁ s₂ : Sign} {m₁ m₂ : ℕ} {e₁ e₂ : ℤ} {h₁ : 0 < m₁} {h₂ : 0 < m₂}

lemma signed_mul_signed (s₁ s₂ : Sign) (x y : ℝ) :
    signed s₁ x * signed s₂ y = signed (s₁ * s₂) (x * y) := by
  cases s₁ <;> cases s₂
  · exact neg_mul_neg x y
  · exact neg_mul x y
  · exact mul_neg x y
  · rfl

lemma signed_div_signed (s₁ s₂ : Sign) (x y : ℝ) :
    signed s₁ x / signed s₂ y = signed (s₁ / s₂) (x / y) := by
  cases s₁ <;> cases s₂
  · exact neg_div_neg_eq x y
  · exact neg_div y x
  · exact div_neg x
  · rfl

/-- The mantissa has the bits that rounding asks for, unless the exponent is too small anyway. -/
def Ample (F : Format) (q : ℕ) (t : ℤ) : Prop :=
  t ≤ F.minExponent ∨ 2 ^ F.mantissaBitsWithoutImplicit ≤ q

lemma Ample.pos {q : ℕ} {t : ℤ} (h : Ample F q t) : 0 < q ∨ t ≤ F.minExponent :=
  h.symm.imp_left fun hle => (Nat.two_pow_pos _).trans_le hle

lemma Ample.le_targetExponent {q : ℕ} {t : ℤ} (h : Ample F q t) :
    t ≤ F.targetExponent (totalExponent q t) := by
  simp only [Format.targetExponent, totalExponent, Format.mantissaBits]
  rcases h with hmin | hle
  · exact hmin.trans (le_max_right _ _)
  · have hlog := (Nat.le_log2 ((Nat.two_pow_pos _).trans_le hle).ne').mpr hle
    omega

/-- One full mantissa is enough for the product, and of two short ones both exponents are the least
one. -/
lemma ample_mul (hc₁ : Canonical F (.finite s₁ m₁ e₁ h₁))
    (hc₂ : Canonical F (.finite s₂ m₂ e₂ h₂)) : Ample F (m₁ * m₂) (e₁ + e₂) := by
  obtain ⟨-, -, hfull₁⟩ := hc₁
  obtain ⟨-, -, hfull₂⟩ := hc₂
  have hle₁ := Nat.le_mul_of_pos_right m₁ h₂
  have hle₂ := Nat.le_mul_of_pos_left m₂ h₁
  have hmin := minExponent_eq F
  have hbits := F.hm
  unfold Ample
  omega

lemma mul_spec (hc₁ : Canonical F (.finite s₁ m₁ e₁ h₁))
    (hc₂ : Canonical F (.finite s₂ m₂ e₂ h₂)) :
    RoundedFrom F (signed s₁ (m₁ * 2 ^ e₁) * signed s₂ (m₂ * 2 ^ e₂))
      (mul F (.finite s₁ m₁ e₁ h₁) (.finite s₂ m₂ e₂ h₂)) := by
  have hproduct : signed s₁ (m₁ * 2 ^ e₁) * signed s₂ (m₂ * 2 ^ e₂)
      = signed (s₁ * s₂) ((m₁ * m₂ : ℕ) * 2 ^ (e₁ + e₂)) := by
    rw [signed_mul_signed, zpow_add₀ two_ne_zero, Nat.cast_mul, mul_mul_mul_comm]
  rw [hproduct]
  exact roundWithAccuracy_exact_spec _ (Nat.mul_pos h₁ h₂) (ample_mul hc₁ hc₂).le_targetExponent

/-- The remainder is compared with half the divisor. -/
lemma compare_two_mul (r : ℕ) {d : ℕ} (hd : 0 < d) :
    compare (2 * r) d = cmp (r / d : ℝ) (1 / 2) := by
  have hd' : (0 : ℝ) < 2 * d := by positivity
  have hr : (r / d : ℝ) * (2 * d) = (2 * r : ℕ) := by
    push_cast
    field_simp
  have hhalf : (1 / 2 : ℝ) * (2 * d) = d := by ring
  rw [← cmp_mul_pos_right hd', hr, hhalf, Nat.strictMono_cast.cmp_map_eq, cmp_eq_compare]

/-- An integer quotient and the accuracy of its remainder approximate the exact quotient. -/
lemma approximates_div (a : ℕ) {d : ℕ} (hd : 0 < d) :
    Approximates (ExtendedMantissa.ofMantissaAndAccuracy (a / d) (accuracyOfFraction (a % d) d))
      (a / d : ℝ) := by
  have hd' : (0 : ℝ) < d := by exact_mod_cast hd
  have hsum : (a / d : ℝ) = (a / d : ℕ) + (a % d : ℕ) / d := by
    have hsplit : (d * (a / d : ℕ) + (a % d : ℕ) : ℝ) = a := by
      exact_mod_cast Nat.div_add_mod a d
    rw [← hsplit]
    field_simp
  rw [hsum, accuracyOfFraction]
  split_ifs with hzero
  · simpa [hzero] using approximates_exact (a / d)
  · rw [compare_two_mul _ hd]
    refine approximates_inexact _ (div_pos ?_ hd') ((div_lt_one hd').mpr ?_)
    · exact_mod_cast Nat.pos_of_ne_zero hzero
    · exact_mod_cast Nat.mod_lt a hd

/-- The numerator is shifted so far that the integer quotient has bits enough. -/
lemma ample_div {t : ℤ} {k : ℕ} (h₁ : 0 < m₁) (h₂ : 0 < m₂)
    (ht : t ≤ F.targetExponent (totalExponent m₁ e₁ - totalExponent m₂ e₂))
    (hk : t + k = e₁ - e₂) : Ample F ((m₁ <<< k) / m₂) t := by
  refine or_iff_not_imp_left.mpr fun hmin => ?_
  have hexp : F.mantissaBitsWithoutImplicit + (m₂.log2 + 1) ≤ m₁.log2 + k := by
    simp only [Format.targetExponent, totalExponent, Format.mantissaBits] at ht
    push_cast at ht
    omega
  rw [Nat.le_div_iff_mul_le h₂, Nat.shiftLeft_eq]
  calc 2 ^ F.mantissaBitsWithoutImplicit * m₂
      ≤ 2 ^ F.mantissaBitsWithoutImplicit * 2 ^ (m₂.log2 + 1) :=
        Nat.mul_le_mul_left _ Nat.lt_log2_self.le
    _ = 2 ^ (F.mantissaBitsWithoutImplicit + (m₂.log2 + 1)) := (pow_add ..).symm
    _ ≤ 2 ^ (m₁.log2 + k) := Nat.pow_le_pow_right two_pos hexp
    _ = 2 ^ m₁.log2 * 2 ^ k := pow_add ..
    _ ≤ m₁ * 2 ^ k := Nat.mul_le_mul_right _ (Nat.log2_self_le h₁.ne')

lemma div_spec (F : Format) (s₁ s₂ : Sign) (m₁ m₂ : ℕ) (e₁ e₂ : ℤ) (h₁ : 0 < m₁) (h₂ : 0 < m₂) :
    RoundedFrom F (signed s₁ (m₁ * 2 ^ e₁) / signed s₂ (m₂ * 2 ^ e₂))
      (div F (.finite s₁ m₁ e₁ h₁) (.finite s₂ m₂ e₂ h₂)) := by
  -- the numerator is shifted by `k`, down to the exponent `t` of the quotient
  obtain ⟨t, ht⟩ : ∃ t, t = min (e₁ - e₂)
      (F.targetExponent (totalExponent m₁ e₁ - totalExponent m₂ e₂)) := ⟨_, rfl⟩
  obtain ⟨k, hk⟩ : ∃ k : ℕ, t + k = e₁ - e₂ := Int.le.dest (ht ▸ min_le_left _ _)
  have hcore : divCore F m₁ e₁ m₂ e₂
      = ((m₁ <<< k) / m₂, t, accuracyOfFraction ((m₁ <<< k) % m₂) m₂) := by
    have hk' : (e₁ - e₂ - t).toNat = k := by omega
    simp only [divCore, ← ht, hk']
  have hquotient : signed s₁ (m₁ * 2 ^ e₁) / signed s₂ (m₂ * 2 ^ e₂)
      = signed (s₁ / s₂) ((m₁ <<< k : ℕ) / m₂ * 2 ^ t) := by
    obtain rfl : e₁ = t + k + e₂ := by omega
    rw [signed_div_signed, Nat.shiftLeft_eq, zpow_add₀ two_ne_zero, zpow_add₀ two_ne_zero,
      zpow_natCast]
    congr 1
    push_cast
    field_simp
  have hlt : ((m₁ <<< k : ℕ) / m₂ : ℝ) < ((m₁ <<< k) / m₂ : ℕ) + 1 := by
    rw [div_lt_iff₀ (by exact_mod_cast h₂), mul_comm]
    exact_mod_cast Nat.lt_mul_div_succ _ h₂
  have hample := ample_div h₁ h₂ (ht ▸ min_le_right _ _) hk
  rw [hquotient, div, hcore]
  exact roundWithAccuracy_spec _ (approximates_div _ h₂) hlt hample.le_targetExponent hample.pos

/-! ## Scaling a canonical form -/

variable {u : UnpackedFloat} {m : ℕ} {e : ℤ} {h : 0 < m}

lemma value_positive (h : 0 < m) :
    value (.finite .positive m e h) = ((m * 2 ^ e : ℝ) : EReal) := rfl

lemma magnitude_pos (h : 0 < m) (e : ℤ) : (0 : ℝ) < m * 2 ^ e := by positivity

lemma scaleUp_spec (hF : 2 ≤ F.exponentBits) (hc : Canonical F (.finite .positive m e h))
    (hu : Canonical F u) (hnan : u ≠ .notANumber) :
    Canonical F (mul F (.finite .positive m e h) u) ∧
      mul F (.finite .positive m e h) u ≠ .notANumber ∧
      StoredFor F (value (.finite .positive m e h) * value u)
        (value (overflow F (mul F (.finite .positive m e h) u))) := by
  cases u with
  | notANumber => exact absurd rfl hnan
  | infinity s =>
    cases s with
    | positive =>
      rw [value_positive, value, EReal.coe_mul_top_of_pos (magnitude_pos h e)]
      exact ⟨trivial, by simp [mul], .top⟩
    | negative =>
      rw [value_positive, value, EReal.coe_mul_bot_of_pos (magnitude_pos h e)]
      exact ⟨trivial, by simp [mul], .bot⟩
  | zero s =>
    rw [show value (.zero s) = 0 from rfl, mul_zero]
    exact ⟨trivial, by simp [mul], storedFor_zero F⟩
  | finite s m' e' h' =>
    have hspec := mul_spec hc hu
    rw [value, value, ← EReal.coe_mul]
    exact ⟨hspec.canonical, hspec.ne_nan, hspec.storedFor hF⟩

lemma scaleDown_spec (hF : 2 ≤ F.exponentBits) (hnan : u ≠ .notANumber) :
    Canonical F (div F u (.finite .positive m e h)) ∧
      StoredFor F (value u / value (.finite .positive m e h))
        (value (overflow F (div F u (.finite .positive m e h)))) := by
  have hpos : (0 : EReal) < ((m * 2 ^ e : ℝ) : EReal) := by exact_mod_cast magnitude_pos h e
  cases u with
  | notANumber => exact absurd rfl hnan
  | infinity s =>
    cases s with
    | positive =>
      rw [value_positive, value, EReal.top_div_of_pos_ne_top hpos (EReal.coe_ne_top _)]
      exact ⟨trivial, .top⟩
    | negative =>
      rw [value_positive, value, EReal.bot_div_of_pos_ne_top hpos (EReal.coe_ne_top _)]
      exact ⟨trivial, .bot⟩
  | zero s =>
    rw [show value (.zero s) = 0 from rfl, EReal.zero_div]
    exact ⟨trivial, storedFor_zero F⟩
  | finite s m' e' h' =>
    have hspec := div_spec F s .positive m' m e' e h' h
    rw [value, value, ← EReal.coe_div]
    exact ⟨hspec.canonical, hspec.storedFor hF⟩

end Canonical

/-! ## Scaling a double -/

section Double

variable {s x y : Float}

lemma exists_unpack_eq_of_pos (hfinite : s.isFinite = true) (hpos : 0 < s) :
    ∃ m e h, s.toModel.unpack = .finite .positive m e h := by
  have hfinite' : s.toModel.unpack.isFinite = true := hfinite
  have hvalue := (lt_iff_value.mp hpos).2
  rw [doubleValue_zero, doubleValue] at hvalue
  generalize s.toModel.unpack = u at hfinite' hvalue ⊢
  cases u with
  | notANumber => cases hfinite'
  | infinity => cases hfinite'
  | zero => exact absurd hvalue (lt_irrefl 0)
  | finite sign m e h =>
    cases sign with
    | positive => exact ⟨m, e, h, rfl⟩
    | negative =>
      rw [value, signed, EReal.coe_pos] at hvalue
      linarith [magnitude_pos h e]

lemma doubleValue_pos (hfinite : s.isFinite = true) (hpos : 0 < s) :
    0 < doubleValue s ∧ doubleValue s ≠ ⊤ := by
  obtain ⟨m, e, h, hs⟩ := exists_unpack_eq_of_pos hfinite hpos
  rw [doubleValue, hs, value_positive]
  exact ⟨EReal.coe_pos.mpr (magnitude_pos h e), EReal.coe_ne_top _⟩

/-- Scaling up goes to what is stored for the exact product, and never to NaN. -/
lemma mul_spec_of_pos (hfinite : s.isFinite = true) (hpos : 0 < s) (hx : x ≠ .nan) :
    s * x ≠ .nan ∧
      StoredFor Format.binary64 (doubleValue s * doubleValue x) (doubleValue (s * x)) := by
  obtain ⟨m, e, h, hs⟩ := exists_unpack_eq_of_pos hfinite hpos
  have hcs := (canonical_double s).1
  rw [hs] at hcs
  obtain ⟨hc, hnan, hstored⟩ :=
    scaleUp_spec (by decide) hcs (canonical_double x).1 (mt eq_nan_iff.mpr hx)
  rw [← hs] at hc hnan hstored
  have hunpack : (s * x).toModel.unpack = overflow Format.binary64
      (mul Format.binary64 s.toModel.unpack x.toModel.unpack) := unpack_pack_double hc
  refine ⟨?_, ?_⟩
  · rwa [ne_eq, eq_nan_iff, hunpack, overflow_eq_nan_iff]
  · rwa [← hunpack] at hstored

/-- Scaling down goes to what is stored for the exact quotient. -/
lemma storedFor_div (hfinite : s.isFinite = true) (hpos : 0 < s) (hx : x ≠ .nan) :
    StoredFor Format.binary64 (doubleValue x / doubleValue s) (doubleValue (x / s)) := by
  obtain ⟨m, e, h, hs⟩ := exists_unpack_eq_of_pos hfinite hpos
  obtain ⟨hc, hstored⟩ := scaleDown_spec (F := Format.binary64) (m := m) (e := e) (h := h)
    (by decide) (mt eq_nan_iff.mpr hx)
  rw [← hs] at hc hstored
  rwa [← unpack_pack_double hc] at hstored

/-- Scaling up depends on the value alone, up to the sign of a zero. -/
lemma doubleValue_mul_congr (hfinite : s.isFinite = true) (hpos : 0 < s) (hx : x ≠ .nan)
    (hy : y ≠ .nan) (h : doubleValue x = doubleValue y) :
    doubleValue (s * x) = doubleValue (s * y) := by
  obtain heq | ⟨t, t', hzx, hzy⟩ := unpack_eq_or_zero hx hy h
  · exact congrArg
      (fun u => doubleValue (.ofModel (.pack (mul Format.binary64 s.toModel.unpack u)))) heq
  · -- a product with zero is exact
    have hzero : ∀ z : Float, z ≠ .nan → doubleValue z = 0 → doubleValue (s * z) = 0 := by
      intro z hz hvalue
      have hstored := (mul_spec_of_pos hfinite hpos hz).2
      rw [hvalue, mul_zero] at hstored
      exact hstored.eq_self (doubleValue_zero ▸ storable_doubleValue 0)
    have hvx : doubleValue x = 0 := by rw [doubleValue, hzx, value]
    rw [hzero x hx hvx, hzero y hy (h ▸ hvx)]

/-- Scaling up keeps the order. -/
lemma mul_le_mul_of_pos (hfinite : s.isFinite = true) (hpos : 0 < s) (h : x ≤ y) :
    s * x ≤ s * y := by
  obtain ⟨⟨hx, hy⟩, hle⟩ := le_iff_value.mp h
  obtain ⟨hnx, hsx⟩ := mul_spec_of_pos hfinite hpos hx
  obtain ⟨hny, hsy⟩ := mul_spec_of_pos hfinite hpos hy
  refine le_iff_value.mpr ⟨⟨hnx, hny⟩, ?_⟩
  rcases hle.lt_or_eq with hlt | heq
  · obtain ⟨hpos', htop⟩ := doubleValue_pos hfinite hpos
    refine hsx.le hsy ?_
    rw [mul_comm, ← EReal.lt_div_iff hpos' htop, ← EReal.mul_div,
      EReal.mul_div_cancel (ne_bot_of_gt hpos') htop hpos'.ne']
    exact hlt
  · exact (doubleValue_mul_congr hfinite hpos hx hy heq).le

/-- Scaling down takes back a scaling up that has not been rounded. -/
lemma doubleValue_mul_div (hfinite : s.isFinite = true) (hpos : 0 < s) (hx : x ≠ .nan)
    (hexact : doubleValue (s * x) = doubleValue s * doubleValue x) :
    doubleValue (s * x / s) = doubleValue x := by
  obtain ⟨hpos', htop⟩ := doubleValue_pos hfinite hpos
  have hstored := storedFor_div hfinite hpos (mul_spec_of_pos hfinite hpos hx).1
  rw [hexact, mul_comm, ← EReal.mul_div_right,
    EReal.div_mul_cancel (ne_bot_of_gt hpos') htop hpos'.ne'] at hstored
  exact hstored.eq_self (storable_doubleValue x)

end Double

end PlanarVideo.Numeric
