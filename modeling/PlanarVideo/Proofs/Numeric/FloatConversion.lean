import PlanarVideo.Numeric.Precision
import PlanarVideo.Proofs.Numeric.FloatRounding

/-!
# Conversions between precisions

Widening a single keeps its value.  Narrowing a double goes to the nearest single, or to an infinity
beyond the greatest; it keeps the order, and it undoes widening.
-/

namespace PlanarVideo.Numeric

open Float.Model (Format UnpackedFloat)
open Float.Model.UnpackedFloat

/-! ## What is stored for a number -/

section Stored

variable {F : Format} {u : UnpackedFloat} {x r : ℝ} {a b a' b' : EReal}

/-- The number, or an infinity from the limit on. -/
noncomputable def saturate (F : Format) (x : ℝ) : EReal :=
  if limit F ≤ x then ⊤ else if x ≤ -limit F then ⊥ else x

lemma saturate_mono (F : Format) : Monotone (saturate F) := by
  intro x y hxy
  have hpos := limit_pos F
  unfold saturate
  split_ifs
  all_goals first | exact le_top | exact bot_le | exact EReal.coe_le_coe_iff.mpr hxy | linarith

lemma saturate_of_abs_lt (h : |x| < limit F) : saturate F x = x := by
  obtain ⟨hlow, hhigh⟩ := abs_lt.mp h
  rw [saturate, if_neg (by linarith), if_neg (by linarith)]

/-- A canonical form has too large an exponent exactly if its magnitude reaches the limit. -/
lemma exponent_lt_iff {s : Sign} {m : ℕ} {e : ℤ} {h : 0 < m} (hF : 2 ≤ F.exponentBits)
    (hc : Canonical F (.finite s m e h)) :
    e < overflowExponent F ↔ (m * 2 ^ e : ℝ) < limit F := by
  obtain ⟨hhigh, hmin, hfull⟩ := hc
  have hlimit : limit F = 2 ^ F.mantissaBitsWithoutImplicit * 2 ^ overflowExponent F := by
    rw [limit, ← zpow_natCast, ← zpow_natCast, ← zpow_add₀ two_ne_zero, overflowExponent]
    congr 1
    push_cast
    ring
  have hbits := two_pow_mantissaBits F
  rw [hlimit]
  constructor
  · intro htop
    calc (m * 2 ^ e : ℝ) < (2 * 2 ^ F.mantissaBitsWithoutImplicit) * 2 ^ e := by
          gcongr
          exact_mod_cast hbits ▸ hhigh
      _ = 2 ^ F.mantissaBitsWithoutImplicit * 2 ^ (e + 1) := by
          rw [zpow_add_one₀ two_ne_zero]
          ring
      _ ≤ 2 ^ F.mantissaBitsWithoutImplicit * 2 ^ overflowExponent F := by
          gcongr
          · exact one_le_two
          · omega
  · intro hlt
    by_contra htop
    have hbias := exponentBias_pos hF
    rw [not_lt] at htop
    rw [minExponent_eq] at hfull
    have hlow : 2 ^ F.mantissaBitsWithoutImplicit ≤ m := by
      rw [overflowExponent] at htop
      exact hfull.resolve_left (by omega)
    have hle : (2 ^ F.mantissaBitsWithoutImplicit * 2 ^ overflowExponent F : ℝ) ≤ m * 2 ^ e := by
      gcongr
      · exact_mod_cast hlow
      · exact one_le_two
    linarith

/-- The value of what is stored for a canonical form. -/
lemma value_overflow (hF : 2 ≤ F.exponentBits) (hc : Canonical F u) (hu : u ≠ .notANumber)
    (hr : value u = r) : value (overflow F u) = saturate F r := by
  have hpos := limit_pos F
  match u with
  | .infinity .positive => exact absurd hr.symm (EReal.coe_ne_top r)
  | .infinity .negative => exact absurd hr.symm (EReal.coe_ne_bot r)
  | .zero s =>
    obtain rfl : 0 = r := EReal.coe_eq_coe_iff.mp hr
    exact (saturate_of_abs_lt (by rwa [abs_zero])).symm
  | .finite s m e h =>
    obtain rfl : signed s (m * 2 ^ e) = r := EReal.coe_eq_coe_iff.mp hr
    have hmagnitude : (0 : ℝ) < m * 2 ^ e := by positivity
    rw [overflow]
    split_ifs with htop
    · -- below the limit the form is stored as it is
      rw [exponent_lt_iff hF hc] at htop
      have habs : |signed s (m * 2 ^ e)| < limit F := by
        cases s <;> simpa [signed, abs_of_pos hmagnitude] using htop
      rw [saturate_of_abs_lt habs, value]
    · rw [exponent_lt_iff hF hc, not_lt] at htop
      cases s with
      | positive => rw [signed, saturate, if_pos htop, value]
      | negative => rw [signed, saturate, if_neg (by linarith), if_pos (by linarith), value]

/-- `b` is stored for the number `a`: an infinity for itself, and for a real number the nearest
number of the format, if that is below the limit. -/
inductive StoredFor (F : Format) : EReal → EReal → Prop
  | bot : StoredFor F ⊥ ⊥
  | top : StoredFor F ⊤ ⊤
  | real {x r : ℝ} (h : IsNearest F x r) : StoredFor F x (saturate F r)

/-- Storing keeps the order. -/
lemma StoredFor.le (h : StoredFor F a b) (h' : StoredFor F a' b') (hlt : a < a') : b ≤ b' := by
  cases h with
  | bot => exact bot_le
  | top => exact absurd hlt not_top_lt
  | real hx =>
    cases h' with
    | bot => exact absurd hlt not_lt_bot
    | top => exact le_top
    | real hy => exact saturate_mono F (hx.le hy (EReal.coe_lt_coe_iff.mp hlt))

/-- The values of the floats of a format. -/
def Storable (F : Format) (a : EReal) : Prop :=
  a = ⊥ ∨ a = ⊤ ∨ ∃ x : ℝ, a = x ∧ Representable F x ∧ |x| < limit F

/-- A value of the format is stored as it is. -/
lemma StoredFor.eq_self (h : StoredFor F a b) (ha : Storable F a) : b = a := by
  cases h with
  | bot => rfl
  | top => rfl
  | real h =>
    obtain ⟨x, hx, hrep, hlt⟩ := (ha.resolve_left (EReal.coe_ne_bot _)).resolve_left
      (EReal.coe_ne_top _)
    obtain rfl := EReal.coe_eq_coe_iff.mp hx
    rw [h.eq_self hrep, saturate_of_abs_lt hlt]

lemma storable_value (hF : 2 ≤ F.exponentBits) (hc : Canonical F u) (hin : overflow F u = u) :
    Storable F (value u) := by
  have hzero : Storable F 0 :=
    Or.inr (Or.inr
      ⟨0, rfl, ⟨0, F.minExponent, le_rfl, by simp, by simp⟩, by simpa using limit_pos F⟩)
  match u with
  | .infinity .positive => exact Or.inr (Or.inl rfl)
  | .infinity .negative => exact Or.inl rfl
  | .zero _ => exact hzero
  | .notANumber => exact hzero
  | .finite s m e h =>
    have htop : e < overflowExponent F := by
      by_contra htop
      rw [overflow, if_neg htop] at hin
      cases hin
    rw [exponent_lt_iff hF hc] at htop
    obtain ⟨hhigh, hmin, -⟩ := hc
    have hmagnitude : (0 : ℝ) < m * 2 ^ e := by positivity
    refine Or.inr (Or.inr ⟨_, rfl, ?_, ?_⟩)
    · have habs : |(m : ℤ)| ≤ 2 ^ F.mantissaBits := by
        rw [Nat.abs_cast]
        exact_mod_cast hhigh.le
      have hrep : Representable F (m * 2 ^ e) := ⟨m, e, hmin, habs, by simp⟩
      cases s with
      | positive => exact hrep
      | negative => exact hrep.neg
    · cases s <;> simpa [signed, abs_of_pos hmagnitude] using htop

lemma storedFor_zero (F : Format) : StoredFor F 0 0 := by
  have hzero : IsNearest F 0 0 :=
    ⟨⟨0, F.minExponent, le_rfl, by simp, by simp⟩, fun s _ => by simp⟩
  have hstored := StoredFor.real hzero
  rwa [saturate_of_abs_lt (by simpa using limit_pos F)] at hstored

/-- What is stored for a number after it has been rounded. -/
lemma RoundedFrom.storedFor (hF : 2 ≤ F.exponentBits) (h : RoundedFrom F x u) :
    StoredFor F x (value (overflow F u)) := by
  obtain ⟨r, hr, hnear⟩ := h.nearest
  rw [value_overflow hF h.canonical h.ne_nan hr]
  exact .real hnear

lemma storedFor_inFormat (hF : 2 ≤ F.exponentBits) (hu : u ≠ .notANumber) :
    StoredFor F (value u) (value (overflow F (inFormat F u))) := by
  match u with
  | .infinity .positive => exact .top
  | .infinity .negative => exact .bot
  | .zero s => exact storedFor_zero F
  | .finite s m e h => exact (round_spec s h e).storedFor hF

lemma canonical_inFormat (u : UnpackedFloat) : Canonical F (inFormat F u) := by
  cases u with
  | finite s m e h => exact (round_spec s h e).canonical
  | _ => trivial

lemma overflow_eq_nan_iff : overflow F u = .notANumber ↔ u = .notANumber := by
  cases u with
  | finite s m e h =>
    rw [overflow]
    split_ifs <;> simp
  | _ => rfl

lemma inFormat_eq_nan_iff : overflow F (inFormat F u) = .notANumber ↔ u = .notANumber := by
  rw [overflow_eq_nan_iff]
  cases u with
  | finite s m e h => simp [inFormat, (round_spec (F := F) s h e).ne_nan]
  | _ => rfl

end Stored

/-! ## Widening -/

section

variable {x y : Float} {l : Float32}

lemma unpack_toDouble (l : Float32) :
    (toDouble l).toModel.unpack
      = overflow Format.binary64 (inFormat Format.binary64 l.toModel.unpack) :=
  unpack_pack_double (canonical_inFormat _)

lemma unpack_toSingle (x : Float) :
    (toSingle x).toModel.unpack
      = overflow Format.binary32 (inFormat Format.binary32 x.toModel.unpack) :=
  unpack_pack_single (canonical_inFormat _)

lemma toDouble_eq_nan_iff : toDouble l = .nan ↔ l = .nan := by
  rw [eq_nan_iff, unpack_toDouble, inFormat_eq_nan_iff, single_eq_nan_iff]

lemma toSingle_eq_nan_iff : toSingle x = .nan ↔ x = .nan := by
  rw [single_eq_nan_iff, unpack_toSingle, inFormat_eq_nan_iff, eq_nan_iff]

/-- Every single is a double. -/
lemma storable_double_of_single {a : EReal} (h : Storable Format.binary32 a) :
    Storable Format.binary64 a := by
  refine h.imp_right (Or.imp_right ?_)
  rintro ⟨x, rfl, ⟨n, e, he, hn, rfl⟩, hlt⟩
  have hmin : Format.binary64.minExponent ≤ Format.binary32.minExponent := by decide
  have hbits : (2 : ℤ) ^ Format.binary32.mantissaBits ≤ 2 ^ Format.binary64.mantissaBits := by
    decide
  have hlimit : limit Format.binary32 ≤ limit Format.binary64 :=
    pow_le_pow_right₀ one_le_two (by decide)
  exact ⟨_, rfl, ⟨n, e, hmin.trans he, hn.trans hbits, rfl⟩, hlt.trans_le hlimit⟩

lemma storable_doubleValue (x : Float) : Storable Format.binary64 (doubleValue x) :=
  storable_value (by decide) (canonical_double x).1 (canonical_double x).2

lemma storable_singleValue (l : Float32) : Storable Format.binary32 (singleValue l) :=
  storable_value (by decide) (canonical_single l).1 (canonical_single l).2

/-- Widening is exact. -/
lemma doubleValue_toDouble (h : l ≠ .nan) : doubleValue (toDouble l) = singleValue l := by
  have hstored := storedFor_inFormat (F := Format.binary64) (by decide)
    (mt single_eq_nan_iff.mpr h)
  rw [← unpack_toDouble] at hstored
  exact hstored.eq_self (storable_double_of_single (storable_singleValue l))

/-- Widening keeps the order, both ways. -/
lemma toDouble_le_toDouble_iff {m : Float32} : toDouble l ≤ toDouble m ↔ l ≤ m := by
  simp only [le_iff_value, single_le_iff_value, ne_eq, toDouble_eq_nan_iff]
  refine and_congr_right fun ⟨hl, hm⟩ => ?_
  rw [doubleValue_toDouble hl, doubleValue_toDouble hm]

/-! ## Narrowing -/

lemma storedFor_toSingle (h : x ≠ .nan) :
    StoredFor Format.binary32 (doubleValue x) (singleValue (toSingle x)) := by
  have hstored := storedFor_inFormat (F := Format.binary32) (by decide) (mt eq_nan_iff.mpr h)
  rwa [← unpack_toSingle] at hstored

/-- Narrowing takes back what widening has done. -/
lemma singleValue_toSingle_toDouble (h : l ≠ .nan) :
    singleValue (toSingle (toDouble l)) = singleValue l := by
  have hstored := storedFor_toSingle (mt toDouble_eq_nan_iff.mp h)
  rw [doubleValue_toDouble h] at hstored
  exact hstored.eq_self (storable_singleValue l)

/-- Narrowing depends on the value alone, up to the sign of a zero. -/
lemma singleValue_toSingle_congr (hx : x ≠ .nan) (hy : y ≠ .nan)
    (h : doubleValue x = doubleValue y) : singleValue (toSingle x) = singleValue (toSingle y) := by
  rw [singleValue, singleValue, unpack_toSingle, unpack_toSingle]
  obtain heq | ⟨s, t, hzx, hzy⟩ := unpack_eq_or_zero hx hy h
  · rw [heq]
  · rw [hzx, hzy]
    rfl

/-- Narrowing keeps the order. -/
lemma singleValue_toSingle_le (h : x ≤ y) :
    singleValue (toSingle x) ≤ singleValue (toSingle y) := by
  obtain ⟨⟨hx, hy⟩, hle⟩ := le_iff_value.mp h
  rcases hle.lt_or_eq with hlt | heq
  · exact (storedFor_toSingle hx).le (storedFor_toSingle hy) hlt
  · exact (singleValue_toSingle_congr hx hy heq).le

/-- Narrowing does not go below a single. -/
lemma le_toDouble_toSingle (h : toDouble l ≤ x) : toDouble l ≤ toDouble (toSingle x) := by
  have hmono := singleValue_toSingle_le h
  obtain ⟨⟨hl, hx⟩, -⟩ := le_iff_value.mp h
  have hl' := mt toDouble_eq_nan_iff.mpr hl
  have hx' := mt toSingle_eq_nan_iff.mp hx
  rw [singleValue_toSingle_toDouble hl'] at hmono
  refine le_iff_value.mpr ⟨⟨hl, mt toDouble_eq_nan_iff.mp hx'⟩, ?_⟩
  rwa [doubleValue_toDouble hl', doubleValue_toDouble hx']

/-- Narrowing does not go above a single. -/
lemma toDouble_toSingle_le (h : x ≤ toDouble l) : toDouble (toSingle x) ≤ toDouble l := by
  have hmono := singleValue_toSingle_le h
  obtain ⟨⟨hx, hl⟩, -⟩ := le_iff_value.mp h
  have hl' := mt toDouble_eq_nan_iff.mpr hl
  have hx' := mt toSingle_eq_nan_iff.mp hx
  rw [singleValue_toSingle_toDouble hl'] at hmono
  refine le_iff_value.mpr ⟨⟨mt toDouble_eq_nan_iff.mp hx', hl⟩, ?_⟩
  rwa [doubleValue_toDouble hl', doubleValue_toDouble hx']

end

end PlanarVideo.Numeric
