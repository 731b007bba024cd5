import Mathlib

/-!
# The number that a float stands for

A float is unpacked into a class, a sign, a mantissa and an exponent.  Here it is given a value, an
extended real number, and the machine's comparisons are read as comparisons of values.  That is
possible because only canonical forms are stored: the mantissa fills its bits unless the exponent
is already the least one, so that the order by exponent and mantissa is the order by value.

NaN has no value.  It compares with nothing, and sums and products pass it on.
-/

namespace PlanarVideo.Numeric

open Float.Model (Format UnpackedFloat)
open Float.Model.UnpackedFloat

/-! ## Canonical forms -/

section Canonical

variable {F : Format} {u v : UnpackedFloat} {s : Sign} {m : ℕ} {e : ℤ} {h : 0 < m}

/-- The mantissa fits the format, and fills it unless the exponent is the least one. -/
def Canonical (F : Format) : UnpackedFloat → Prop
  | .finite _ m e _ => m < 2 ^ F.mantissaBits ∧ F.minExponent ≤ e ∧
      (e = F.minExponent ∨ 2 ^ F.mantissaBitsWithoutImplicit ≤ m)
  | _ => True

/-- The first exponent that is too large for a canonical form. -/
def overflowExponent (F : Format) : ℤ :=
  F.exponentBias + 1 - F.mantissaBitsWithoutImplicit

/-- The unpacked float, or the infinity of its sign if its exponent is too large. -/
def overflow (F : Format) : UnpackedFloat → UnpackedFloat
  | .finite s m e h => if e < overflowExponent F then .finite s m e h else .infinity s
  | u => u

lemma two_pow_exponentBits (F : Format) : 2 ^ F.exponentBits = 2 * (F.exponentBias + 1) := by
  have hpos : 0 < 2 ^ (F.exponentBits - 1) := by positivity
  rw [Format.exponentBias, Nat.sub_add_cancel hpos, mul_pow_sub_one F.he.ne']

lemma exponentBias_pos (hF : 2 ≤ F.exponentBits) : 0 < F.exponentBias := by
  have hfour : 2 ^ 2 ≤ 2 ^ F.exponentBits := Nat.pow_le_pow_right (by decide) hF
  rw [two_pow_exponentBits] at hfour
  omega

lemma minExponent_eq (F : Format) :
    F.minExponent = 1 - F.exponentBias - F.mantissaBitsWithoutImplicit := by
  have hpos : 0 < 2 ^ (F.exponentBits - 1) := by positivity
  have hbias : (F.exponentBias : ℤ) = 2 ^ (F.exponentBits - 1) - 1 := by
    rw [Format.exponentBias, Nat.cast_sub hpos]
    push_cast
    rfl
  rw [Format.minExponent, Format.mantissaBits, hbias]
  push_cast
  ring

lemma two_pow_mantissaBits (F : Format) :
    2 ^ F.mantissaBits = 2 * 2 ^ F.mantissaBitsWithoutImplicit := by
  rw [Format.mantissaBits, pow_add, pow_one]

/-! ## Packing and unpacking -/

lemma toNat_allOnes (F : Format) :
    (-1#F.exponentBits : BitVec F.exponentBits).toNat = 2 * F.exponentBias + 1 := by
  rw [BitVec.neg_one_eq_allOnes, BitVec.toNat_allOnes, two_pow_exponentBits]
  omega

lemma toNat_implicit_append {n : ℕ} (x : BitVec n) : (1#1 ++ x).toNat = 2 ^ n + x.toNat := by
  rw [BitVec.toNat_append, BitVec.toNat_ofNat, ← Nat.shiftLeft_add_eq_or_of_lt x.isLt,
    Nat.shiftLeft_eq]
  simp

/-- What is stored is canonical, and of an exponent that is not too large. -/
lemma canonical_unpack (hF : 2 ≤ F.exponentBits) (b : BitVec F.numBits) :
    Canonical F (unpack F b) ∧ overflow F (unpack F b) = unpack F b := by
  have hexponent : (unpackExponent b).toNat < 2 * (F.exponentBias + 1) := by
    rw [← two_pow_exponentBits]
    exact (unpackExponent b).isLt
  have hmantissa : (unpackMantissa b).toNat < 2 ^ F.mantissaBitsWithoutImplicit :=
    (unpackMantissa b).isLt
  have hbias := exponentBias_pos hF
  have hmin := minExponent_eq F
  have hbits := two_pow_mantissaBits F
  unfold unpack
  dsimp only
  split_ifs with htop hzero hbottom hzero
  · exact ⟨trivial, rfl⟩
  · exact ⟨trivial, rfl⟩
  · exact ⟨trivial, rfl⟩
  · -- the exponent field is zero: the mantissa has no implicit bit
    rw [hbottom]
    simp only [Canonical, overflow, overflowExponent, BitVec.toNat_ofNat, Nat.zero_mod]
    refine ⟨⟨by omega, by omega, Or.inl (by omega)⟩, if_pos (by omega)⟩
  · have hpos : (unpackExponent b).toNat ≠ 0 := by
      intro h
      exact hbottom (BitVec.eq_of_toNat_eq (by simpa using h))
    have htop' : (unpackExponent b).toNat ≠ 2 * F.exponentBias + 1 := by
      rw [← toNat_allOnes]
      exact fun h => htop (BitVec.eq_of_toNat_eq h)
    simp only [Canonical, overflow, overflowExponent, toNat_implicit_append]
    refine ⟨⟨by omega, by omega, Or.inr (by omega)⟩, if_pos (by omega)⟩

lemma unpack_packedInfinity (F : Format) (s : Sign) :
    unpack F (packedInfinity F s) = .infinity s := by
  simp [unpack, packedInfinity]

/-- A form whose mantissa fills its bits is stored without the highest of them. -/
lemma unpack_pack_normal (hlow : 2 ^ F.mantissaBitsWithoutImplicit ≤ m)
    (hhigh : m < 2 ^ F.mantissaBits) (hmin : F.minExponent ≤ e) (htop : e < overflowExponent F) :
    unpack F (pack F (.finite s m e h)) = .finite s m e h := by
  have hlog : m.log2 + 1 = F.mantissaBits := by
    have hle := (Nat.le_log2 h.ne').mpr hlow
    have hlt := (Nat.log2_lt h.ne').mpr hhigh
    simp only [Format.mantissaBits] at hlt ⊢
    omega
  rw [minExponent_eq] at hmin
  rw [overflowExponent] at htop
  rw [two_pow_mantissaBits] at hhigh
  have hbits := two_pow_exponentBits F
  obtain ⟨b, hb⟩ : ∃ b : ℕ, e + F.exponentBias + F.mantissaBitsWithoutImplicit = b :=
    Int.eq_ofNat_of_zero_le (by omega)
  have hexponent : (BitVec.ofNat F.exponentBits b).toNat = b := by
    rw [BitVec.toNat_ofNat, Nat.mod_eq_of_lt (by omega)]
  have hmantissa : (1#1 ++ BitVec.ofNat F.mantissaBitsWithoutImplicit m).toNat = m := by
    rw [toNat_implicit_append, BitVec.toNat_ofNat, Nat.mod_eq_sub_mod hlow,
      Nat.mod_eq_of_lt (by omega)]
    omega
  have hne : BitVec.ofNat F.exponentBits b ≠ -1#F.exponentBits := by
    intro heq
    rw [heq, toNat_allOnes] at hexponent
    omega
  have hne' : BitVec.ofNat F.exponentBits b ≠ 0#F.exponentBits := by
    intro heq
    rw [heq, BitVec.toNat_zero] at hexponent
    omega
  have hpack : pack F (.finite s m e h)
      = packComponents F s (BitVec.ofNat _ b) (BitVec.ofNat _ m) := by
    simp only [pack, hb, Int.toNat_natCast, hlog, if_true]
    exact if_neg (by omega)
  simp only [hpack, unpack, unpackExponent_packComponents, unpackMantissa_packComponents,
    unpackSign_packComponents, Sign.ofBitVec_toBitVec, if_neg hne, if_neg hne', hexponent,
    hmantissa, UnpackedFloat.finite.injEq, true_and]
  omega

/-- A form whose mantissa is short is stored with all its bits. -/
lemma unpack_pack_subnormal (hF : 2 ≤ F.exponentBits)
    (hhigh : m < 2 ^ F.mantissaBitsWithoutImplicit) :
    unpack F (pack F (.finite s m F.minExponent h)) = .finite s m F.minExponent h := by
  have hlog : m.log2 + 1 ≠ F.mantissaBits := by
    have hlt := (Nat.log2_lt h.ne').mpr hhigh
    simp only [Format.mantissaBits]
    omega
  have hbias := exponentBias_pos hF
  have hbits := two_pow_exponentBits F
  have hmantissa : (BitVec.ofNat F.mantissaBitsWithoutImplicit m).toNat = m := by
    rw [BitVec.toNat_ofNat, Nat.mod_eq_of_lt hhigh]
  have hne : BitVec.ofNat F.mantissaBitsWithoutImplicit m ≠ 0#F.mantissaBitsWithoutImplicit := by
    intro heq
    rw [heq, BitVec.toNat_zero] at hmantissa
    omega
  have hne' : 0#F.exponentBits ≠ -1#F.exponentBits := by
    intro heq
    have hnat := congrArg BitVec.toNat heq
    rw [toNat_allOnes, BitVec.toNat_zero] at hnat
    omega
  have hpack : pack F (.finite s m F.minExponent h)
      = packComponents F s 0#F.exponentBits (BitVec.ofNat _ m) := by
    simp only [pack, hlog, if_false]
    exact if_neg (by rw [minExponent_eq]; omega)
  simp only [hpack, unpack, unpackExponent_packComponents, unpackMantissa_packComponents,
    unpackSign_packComponents, Sign.ofBitVec_toBitVec, if_neg hne', if_true, dif_neg hne, hmantissa,
    UnpackedFloat.finite.injEq, true_and, BitVec.toNat_zero]
  rw [minExponent_eq]
  omega

/-- Storing a canonical form loses nothing, unless its exponent is too large. -/
lemma unpack_pack (hF : 2 ≤ F.exponentBits) (hu : Canonical F u) :
    unpack F (pack F u) = overflow F u := by
  match u with
  | .notANumber => exact unpack_packedNaN
  | .infinity s => exact unpack_packedInfinity F s
  | .zero s => exact unpack_packedZero
  | .finite s m e h =>
    obtain ⟨hhigh, hmin, hfull⟩ := hu
    have hbias := exponentBias_pos hF
    rw [overflow]
    split_ifs with htop
    · rcases Nat.lt_or_ge m (2 ^ F.mantissaBitsWithoutImplicit) with hshort | hlow
      · obtain rfl : e = F.minExponent := hfull.resolve_right (by omega)
        exact unpack_pack_subnormal hF hshort
      · exact unpack_pack_normal hlow hhigh hmin htop
    · rw [overflowExponent] at htop
      have hpack : pack F (.finite s m e h) = packedInfinity F s := by
        simp only [pack]
        exact if_pos (by rw [two_pow_exponentBits]; omega)
      rw [hpack, unpack_packedInfinity]

/-! ## Values -/

/-- The real number of the given sign and magnitude. -/
def signed : Sign → ℝ → ℝ
  | .positive, x => x
  | .negative, x => -x

/-- The number that an unpacked float stands for; that of NaN means nothing. -/
noncomputable def value : UnpackedFloat → EReal
  | .infinity .negative => ⊥
  | .infinity .positive => ⊤
  | .finite s m e _ => (signed s (m * 2 ^ e) : ℝ)
  | .zero _ | .notANumber => 0

/-- A number of the format, whose exponent may be too large. -/
def Representable (F : Format) (x : ℝ) : Prop :=
  ∃ (n e : ℤ), F.minExponent ≤ e ∧ |n| ≤ 2 ^ F.mantissaBits ∧ x = n * 2 ^ e

lemma Representable.neg {x : ℝ} (h : Representable F x) : Representable F (-x) := by
  obtain ⟨n, e, he, hn, rfl⟩ := h
  exact ⟨-n, e, he, by rwa [abs_neg], by push_cast; ring⟩

/-- The first power of two beyond the numbers that are stored in the format. -/
def limit (F : Format) : ℝ :=
  2 ^ (F.exponentBias + 1)

lemma limit_pos (F : Format) : 0 < limit F := by
  unfold limit
  positivity

variable {s₁ s₂ : Sign} {m₁ m₂ : ℕ} {e₁ e₂ : ℤ} {h₁ : 0 < m₁} {h₂ : 0 < m₂}

/-- Of two canonical forms, the one of greater exponent is greater. -/
lemma magnitude_lt_of_exponent_lt (hc₁ : Canonical F (.finite s₁ m₁ e₁ h₁))
    (hc₂ : Canonical F (.finite s₂ m₂ e₂ h₂)) (he : e₁ < e₂) :
    (m₁ * 2 ^ e₁ : ℝ) < m₂ * 2 ^ e₂ := by
  obtain ⟨hhigh, hmin, -⟩ := hc₁
  obtain ⟨-, -, hfull⟩ := hc₂
  have hlow : 2 ^ F.mantissaBitsWithoutImplicit ≤ m₂ := hfull.resolve_left (by omega)
  rw [two_pow_mantissaBits] at hhigh
  calc (m₁ * 2 ^ e₁ : ℝ) < (2 * 2 ^ F.mantissaBitsWithoutImplicit) * 2 ^ e₁ := by
        gcongr
        exact_mod_cast hhigh
    _ = 2 ^ F.mantissaBitsWithoutImplicit * 2 ^ (e₁ + 1) := by
        rw [zpow_add_one₀ two_ne_zero]
        ring
    _ ≤ m₂ * 2 ^ e₂ := by
        gcongr
        · exact_mod_cast hlow
        · exact one_le_two
        · omega

lemma compare_magnitude (hc₁ : Canonical F (.finite s₁ m₁ e₁ h₁))
    (hc₂ : Canonical F (.finite s₂ m₂ e₂ h₂)) :
    (compare e₁ e₂).then (compare m₁ m₂) = cmp (m₁ * 2 ^ e₁ : ℝ) (m₂ * 2 ^ e₂) := by
  rcases lt_trichotomy e₁ e₂ with he | rfl | he
  · rw [compare_lt_iff_lt.mpr he, cmp_eq_lt_iff _ _ |>.mpr (magnitude_lt_of_exponent_lt hc₁ hc₂ he)]
    rfl
  · have hpos : (0 : ℝ) < 2 ^ e₁ := by positivity
    rw [compare_eq_iff_eq.mpr rfl, Ordering.eq_then, cmp_mul_pos_right hpos]
    rw [Nat.strictMono_cast.cmp_map_eq, cmp_eq_compare]
  · rw [compare_gt_iff_gt.mpr he, cmp_eq_gt_iff _ _ |>.mpr (magnitude_lt_of_exponent_lt hc₂ hc₁ he)]
    rfl

/-- Comparing canonical forms compares their values. -/
lemma compare_eq_cmp_value (hu : Canonical F u) (hv : Canonical F v) (hu' : u ≠ .notANumber)
    (hv' : v ≠ .notANumber) : u.compare v = some (cmp (value u) (value v)) := by
  have hbot : (⊥ : EReal) < ⊤ := bot_lt_top
  have hpos : ∀ (m : ℕ) (e : ℤ), 0 < m → (0 : EReal) < ((m * 2 ^ e : ℝ) : EReal) := by
    intro m e h
    exact_mod_cast (by positivity : (0 : ℝ) < m * 2 ^ e)
  have hneg : ∀ (m : ℕ) (e : ℤ), 0 < m → ((-(m * 2 ^ e) : ℝ) : EReal) < 0 := by
    intro m e h
    exact_mod_cast neg_neg_of_pos (by positivity : (0 : ℝ) < m * 2 ^ e)
  match u, v with
  | .infinity .negative, .infinity .negative => exact congrArg some (cmp_self_eq_eq _).symm
  | .infinity .negative, .infinity .positive => exact congrArg some hbot.cmp_eq_lt.symm
  | .infinity .positive, .infinity .negative => exact congrArg some hbot.cmp_eq_gt.symm
  | .infinity .positive, .infinity .positive => exact congrArg some (cmp_self_eq_eq _).symm
  | .infinity .negative, .zero _ => exact congrArg some EReal.bot_lt_zero.cmp_eq_lt.symm
  | .infinity .positive, .zero _ => exact congrArg some EReal.zero_lt_top.cmp_eq_gt.symm
  | .zero _, .infinity .negative => exact congrArg some EReal.bot_lt_zero.cmp_eq_gt.symm
  | .zero _, .infinity .positive => exact congrArg some EReal.zero_lt_top.cmp_eq_lt.symm
  | .infinity .negative, .finite .. => exact congrArg some (EReal.bot_lt_coe _).cmp_eq_lt.symm
  | .infinity .positive, .finite .. => exact congrArg some (EReal.coe_lt_top _).cmp_eq_gt.symm
  | .finite .., .infinity .negative => exact congrArg some (EReal.bot_lt_coe _).cmp_eq_gt.symm
  | .finite .., .infinity .positive => exact congrArg some (EReal.coe_lt_top _).cmp_eq_lt.symm
  | .zero _, .zero _ => exact congrArg some (cmp_self_eq_eq _).symm
  | .zero _, .finite .negative _ _ h => exact congrArg some (hneg _ _ h).cmp_eq_gt.symm
  | .zero _, .finite .positive _ _ h => exact congrArg some (hpos _ _ h).cmp_eq_lt.symm
  | .finite .negative _ _ h, .zero _ => exact congrArg some (hneg _ _ h).cmp_eq_lt.symm
  | .finite .positive _ _ h, .zero _ => exact congrArg some (hpos _ _ h).cmp_eq_gt.symm
  | .finite .negative _ _ h₁, .finite .positive _ _ h₂ =>
    exact congrArg some ((hneg _ _ h₁).trans (hpos _ _ h₂)).cmp_eq_lt.symm
  | .finite .positive _ _ h₁, .finite .negative _ _ h₂ =>
    exact congrArg some ((hneg _ _ h₂).trans (hpos _ _ h₁)).cmp_eq_gt.symm
  | .finite .positive m₁ e₁ _, .finite .positive m₂ e₂ _ =>
    rw [value, value, EReal.coe_strictMono.cmp_map_eq, signed, signed,
      ← compare_magnitude hu hv]
    rfl
  | .finite .negative m₁ e₁ _, .finite .negative m₂ e₂ _ =>
    rw [value, value, signed, signed, EReal.coe_neg, EReal.coe_neg, EReal.neg_strictAnti.cmp_map_eq,
      EReal.coe_strictMono.cmp_map_eq, ← cmp_swap, ← compare_magnitude hu hv]
    rfl

/-- NaN compares with nothing. -/
lemma compare_eq_none (h : ¬(u ≠ .notANumber ∧ v ≠ .notANumber)) : u.compare v = none := by
  rw [not_and_or, not_not, not_not] at h
  rcases h with rfl | rfl
  · rfl
  · cases u <;> rfl

lemma canonical_lt_iff (hu : Canonical F u) (hv : Canonical F v) :
    u.lt v = true ↔ (u ≠ .notANumber ∧ v ≠ .notANumber) ∧ value u < value v := by
  rw [UnpackedFloat.lt, beq_iff_eq]
  by_cases h : u ≠ .notANumber ∧ v ≠ .notANumber
  · simp only [compare_eq_cmp_value hu hv h.1 h.2, Option.some.injEq, cmp_eq_lt_iff,
      iff_true_intro h, true_and]
  · simp only [compare_eq_none h, reduceCtorEq, h, false_and]

lemma canonical_le_iff (hu : Canonical F u) (hv : Canonical F v) :
    u.le v = true ↔ (u ≠ .notANumber ∧ v ≠ .notANumber) ∧ value u ≤ value v := by
  rw [UnpackedFloat.le]
  by_cases h : u ≠ .notANumber ∧ v ≠ .notANumber
  · simp only [compare_eq_cmp_value hu hv h.1 h.2, Option.any_some, iff_true_intro h, true_and,
      Ordering.isLE_iff_ne_gt, ne_eq, cmp_eq_gt_iff, not_lt]
  · simp only [compare_eq_none h, h, false_and, Option.any_none, Bool.false_eq_true]

end Canonical

/-! ## Double precision -/

section Double

variable {x y z : Float}

/-- The number that a double stands for; that of NaN means nothing. -/
noncomputable def doubleValue (x : Float) : EReal :=
  value x.toModel.unpack

lemma canonical_double (x : Float) :
    Canonical Format.binary64 x.toModel.unpack ∧
      overflow Format.binary64 x.toModel.unpack = x.toModel.unpack :=
  canonical_unpack (F := Format.binary64) (by decide) x.toModel.toBits.toBitVec

/-- A double that has been packed is found again, or has become infinite. -/
lemma unpack_pack_double (hu : Canonical Format.binary64 u) :
    (Float.ofModel (.pack u)).toModel.unpack = overflow Format.binary64 u :=
  unpack_pack (F := Format.binary64) (by decide) hu

lemma eq_nan_iff : x = .nan ↔ x.toModel.unpack = .notANumber := by
  have hnan : x = .nan ↔ x.isNaN = true := by simp
  rw [hnan]
  exact isNaN_iff

/-- Comparing numbers compares their values. -/
lemma compare_double (hx : x ≠ .nan) (hy : y ≠ .nan) :
    x.toModel.unpack.compare y.toModel.unpack = some (cmp (doubleValue x) (doubleValue y)) :=
  compare_eq_cmp_value (canonical_double x).1 (canonical_double y).1 (mt eq_nan_iff.mpr hx)
    (mt eq_nan_iff.mpr hy)

/-- Numbers of one value are stored alike, unless they are zeros. -/
lemma unpack_eq_or_zero (hx : x ≠ .nan) (hy : y ≠ .nan) (h : doubleValue x = doubleValue y) :
    x.toModel.unpack = y.toModel.unpack ∨
      ∃ s t, x.toModel.unpack = .zero s ∧ y.toModel.unpack = .zero t := by
  have hbeq : x.toModel.unpack.beq y.toModel.unpack = true := by
    rw [UnpackedFloat.beq, compare_double hx hy, h, cmp_self_eq_eq]
    rfl
  obtain ⟨-, -, heq | hzero | hzero⟩ := (beq_iff_ne_notANumber_and_eq _ _).mp hbeq
  · exact Or.inl heq
  · exact Or.inr ⟨_, _, hzero⟩
  · exact Or.inr ⟨_, _, hzero⟩

lemma lt_iff_value : x < y ↔ (x ≠ .nan ∧ y ≠ .nan) ∧ doubleValue x < doubleValue y := by
  have hlt : x < y ↔ x.toModel.unpack.lt y.toModel.unpack = true := by
    show decide (_ = true) = true ↔ _
    rw [decide_eq_true_iff, Float.Model.lt]
  simp only [hlt, canonical_lt_iff (canonical_double x).1 (canonical_double y).1, ne_eq,
    eq_nan_iff, doubleValue]

lemma le_iff_value : x ≤ y ↔ (x ≠ .nan ∧ y ≠ .nan) ∧ doubleValue x ≤ doubleValue y := by
  have hle : x ≤ y ↔ x.toModel.unpack.le y.toModel.unpack = true := by
    show decide (_ = true) = true ↔ _
    rw [decide_eq_true_iff, Float.Model.le]
  simp only [hle, canonical_le_iff (canonical_double x).1 (canonical_double y).1, ne_eq,
    eq_nan_iff, doubleValue]

lemma double_le_refl (hx : x ≠ .nan) : x ≤ x :=
  le_iff_value.mpr ⟨⟨hx, hx⟩, le_rfl⟩

/-- Of two numbers, one is not below the other. -/
lemma double_le_of_not_lt (hx : x ≠ .nan) (hy : y ≠ .nan) (h : ¬x < y) : y ≤ x := by
  refine le_iff_value.mpr ⟨⟨hy, hx⟩, ?_⟩
  rw [← not_lt]
  exact fun hlt => h (lt_iff_value.mpr ⟨⟨hx, hy⟩, hlt⟩)

lemma double_lt_of_le_of_lt (hxy : x ≤ y) (hyz : y < z) : x < z := by
  obtain ⟨⟨hx, -⟩, hle⟩ := le_iff_value.mp hxy
  obtain ⟨⟨-, hz⟩, hlt⟩ := lt_iff_value.mp hyz
  exact lt_iff_value.mpr ⟨⟨hx, hz⟩, hle.trans_lt hlt⟩

lemma double_lt_of_lt_of_le (hxy : x < y) (hyz : y ≤ z) : x < z := by
  obtain ⟨⟨hx, -⟩, hlt⟩ := lt_iff_value.mp hxy
  obtain ⟨⟨-, hz⟩, hle⟩ := le_iff_value.mp hyz
  exact lt_iff_value.mpr ⟨⟨hx, hz⟩, hlt.trans_le hle⟩

/-! ## Arithmetic with NaN -/

@[simp] lemma nan_add (y : Float) : .nan + y = .nan := by
  rfl

@[simp] lemma add_nan (x : Float) : x + .nan = .nan := by
  have hadd : UnpackedFloat.add Format.binary64 x.toModel.unpack .notANumber = .notANumber := by
    cases x.toModel.unpack <;> rfl
  exact congrArg (fun u => Float.ofModel (.pack u)) hadd

@[simp] lemma nan_mul (y : Float) : .nan * y = .nan := by
  rfl

@[simp] lemma mul_nan (x : Float) : x * .nan = .nan := by
  have hmul : UnpackedFloat.mul Format.binary64 x.toModel.unpack .notANumber = .notANumber := by
    cases x.toModel.unpack <;> rfl
  exact congrArg (fun u => Float.ofModel (.pack u)) hmul

/-! ## Constants and magnitudes -/

lemma doubleValue_zero : doubleValue 0 = 0 := by
  have hunpack : (0 : Float).toModel.unpack = .zero .positive := rfl
  rw [doubleValue, hunpack, value]

lemma unpack_infinity : (1 / 0 : Float).toModel.unpack = .infinity .positive := rfl

lemma unpack_neg_infinity : (-1 / 0 : Float).toModel.unpack = .infinity .negative := rfl

lemma doubleValue_infinity : doubleValue (1 / 0) = ⊤ := by
  rw [doubleValue, unpack_infinity, value]

lemma doubleValue_neg_infinity : doubleValue (-1 / 0) = ⊥ := by
  rw [doubleValue, unpack_neg_infinity, value]

lemma infinity_ne_nan : (1 / 0 : Float) ≠ .nan := by
  rw [ne_eq, eq_nan_iff, unpack_infinity]
  exact UnpackedFloat.noConfusion

lemma neg_infinity_ne_nan : (-1 / 0 : Float) ≠ .nan := by
  rw [ne_eq, eq_nan_iff, unpack_neg_infinity]
  exact UnpackedFloat.noConfusion

lemma ne_nan_of_isFinite (h : x.isFinite = true) : x ≠ .nan := by
  have hfinite : x.toModel.unpack.isFinite = true := h
  rw [ne_eq, eq_nan_iff]
  intro hnan
  rw [hnan] at hfinite
  cases hfinite

/-- Taking the magnitude drops the sign and nothing else. -/
lemma unpack_abs (x : Float) : x.abs.toModel.unpack = x.toModel.unpack.abs := by
  have hstored : ∀ u, Canonical Format.binary64 u → overflow Format.binary64 u = u →
      Canonical Format.binary64 u.abs ∧ overflow Format.binary64 u.abs = u.abs := by
    intro u hc hin
    cases u with
    | finite s m e h =>
      have htop : e < overflowExponent Format.binary64 := by
        by_contra htop
        rw [overflow, if_neg htop] at hin
        cases hin
      exact ⟨hc, if_pos htop⟩
    | _ => exact ⟨trivial, rfl⟩
  obtain ⟨hc, hin⟩ := canonical_double x
  obtain ⟨hc', hin'⟩ := hstored _ hc hin
  exact (unpack_pack_double hc').trans hin'

lemma abs_ne_nan (h : x ≠ .nan) : x.abs ≠ .nan := by
  rw [ne_eq, eq_nan_iff] at h ⊢
  rw [unpack_abs]
  cases hu : x.toModel.unpack with
  | notANumber => exact absurd hu h
  | _ => exact UnpackedFloat.noConfusion

lemma doubleValue_abs_nonneg (x : Float) : 0 ≤ doubleValue x.abs := by
  rw [doubleValue, unpack_abs]
  cases x.toModel.unpack with
  | finite s m e h =>
    rw [UnpackedFloat.abs, value, signed]
    exact_mod_cast (by positivity : (0 : ℝ) ≤ m * 2 ^ e)
  | infinity s => exact le_top
  | _ => exact le_rfl

end Double

/-! ## Single precision -/

section Single

variable {x y : Float32} {u : UnpackedFloat}

/-- The number that a single stands for; that of NaN means nothing. -/
noncomputable def singleValue (x : Float32) : EReal :=
  value x.toModel.unpack

lemma canonical_single (x : Float32) :
    Canonical Format.binary32 x.toModel.unpack ∧
      overflow Format.binary32 x.toModel.unpack = x.toModel.unpack :=
  canonical_unpack (F := Format.binary32) (by decide) x.toModel.toBits.toBitVec

lemma unpack_pack_single (hu : Canonical Format.binary32 u) :
    (Float32.ofModel (.pack u)).toModel.unpack = overflow Format.binary32 u :=
  unpack_pack (F := Format.binary32) (by decide) hu

lemma single_eq_nan_iff : x = .nan ↔ x.toModel.unpack = .notANumber := by
  have hnan : x = .nan ↔ x.isNaN = true := by simp
  rw [hnan]
  exact isNaN_iff

lemma single_le_iff_value :
    x ≤ y ↔ (x ≠ .nan ∧ y ≠ .nan) ∧ singleValue x ≤ singleValue y := by
  have hle : x ≤ y ↔ x.toModel.unpack.le y.toModel.unpack = true := by
    show decide (_ = true) = true ↔ _
    rw [decide_eq_true_iff, Float32.Model.le]
  simp only [hle, canonical_le_iff (canonical_single x).1 (canonical_single y).1, ne_eq,
    single_eq_nan_iff, singleValue]

end Single

end PlanarVideo.Numeric
