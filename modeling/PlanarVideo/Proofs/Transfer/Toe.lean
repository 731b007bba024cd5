import PlanarVideo.Transfer.ToeGamma
import PlanarVideo.Proofs.Numeric.FloatScaling

/-!
# A toe value stays in the toe

Encoding and decoding change segment at different thresholds, `beta` and the signal of `beta`.  For
a slope that is a finite positive number they agree on the toe: linear light up to `beta` is encoded
into a signal up to the threshold of decoding, since scaling keeps the order even where it rounds.

That no power segment is evaluated on the way is stated on the same curves with other functions in
place of their power segments, functions which may have no result.
-/

namespace PlanarVideo.ToeGamma

open Numeric

/-! ## Curves with any power segments -/

/-- The power segment of the encoding. -/
def powerSignal (c : ToeGamma) (x : Float) : Float :=
  (1 + c.alpha) * x.pow c.exponent - c.alpha

/-- The power segment of the decoding. -/
def powerLight (c : ToeGamma) (x : Float) : Float :=
  (atLeastZero ((x + c.alpha) / (1 + c.alpha))).pow c.gamma

/-- The signal of the linear light `x`, with `toSignal` for the power segment.  There is none if
`toSignal` is evaluated and has no result. -/
def encodeWith? (c : ToeGamma) (toSignal : Float → Option Float) (x : Float) : Option Float :=
  if x ≤ c.beta then some (c.slope * x) else toSignal x

/-- The linear light of the signal `x`, with `toSignal` and `toLight` for the power segments of
encoding and decoding.  The threshold is encoded first. -/
def decodeWith? (c : ToeGamma) (toSignal toLight : Float → Option Float) (x : Float) :
    Option Float := do
  let threshold ← c.encodeWith? toSignal c.beta
  if x ≤ threshold then some (x / c.slope) else toLight x

variable {c : ToeGamma} {toSignal toLight : Float → Option Float} {x : Float}

/-- With its own power segment, this is the encoding. -/
lemma encodeWith?_powerSignal (c : ToeGamma) (x : Float) :
    c.encodeWith? (fun x => some (c.powerSignal x)) x = some (c.encode x) :=
  (apply_ite some _ _ _).symm

/-- With its own power segments, this is the decoding. -/
lemma decodeWith?_powerLight (c : ToeGamma) (x : Float) :
    c.decodeWith? (fun x => some (c.powerSignal x)) (fun x => some (c.powerLight x)) x
      = some (c.decode x) := by
  rw [decodeWith?, encodeWith?_powerSignal]
  exact (apply_ite some _ _ _).symm

/-! ## The toe -/

lemma encodeWith?_of_le_beta (hx : x ≤ c.beta) : c.encodeWith? toSignal x = some (c.slope * x) :=
  if_pos hx

lemma encode_of_le_beta (hx : x ≤ c.beta) : c.encode x = c.slope * x := by
  have hencode := encodeWith?_powerSignal c x
  rw [encodeWith?_of_le_beta hx] at hencode
  exact (Option.some.inj hencode).symm

/-- The threshold of decoding lies on the toe, unless it is NaN. -/
lemma breakSignal_eq (hbeta : c.beta ≤ c.beta) : c.breakSignal = c.slope * c.beta :=
  encode_of_le_beta hbeta

lemma decodeWith?_of_le_breakSignal (hbeta : c.beta ≤ c.beta) (hx : x ≤ c.breakSignal) :
    c.decodeWith? toSignal toLight x = some (x / c.slope) := by
  rw [decodeWith?, encodeWith?_of_le_beta hbeta, ← breakSignal_eq hbeta]
  exact if_pos hx

lemma decode_of_le_breakSignal (hbeta : c.beta ≤ c.beta) (hx : x ≤ c.breakSignal) :
    c.decode x = x / c.slope := by
  have hdecode := decodeWith?_powerLight c x
  rw [decodeWith?_of_le_breakSignal hbeta hx] at hdecode
  exact (Option.some.inj hdecode).symm

/-- **A toe value stays in the toe.**  Let the slope be a finite positive number and `x` a linear
light up to `beta`.  Then the threshold of decoding is the scaled `beta`, `x` is scaled to a signal
up to that threshold, and decoding scales it back, which gives `x` itself if the product has not
been rounded.  Nothing depends on the power segments, not even on whether they have a result. -/
theorem decode_encode_of_le_beta (hfinite : c.slope.isFinite = true) (hpos : 0 < c.slope)
    (hx : x ≤ c.beta) :
    c.breakSignal = c.slope * c.beta ∧
    (c.encode x = c.slope * x ∧ c.encode x ≤ c.breakSignal) ∧
    c.decode (c.encode x) = c.slope * x / c.slope ∧
    (doubleValue (c.slope * x) = doubleValue c.slope * doubleValue x →
      doubleValue (c.decode (c.encode x)) = doubleValue x) ∧
    ∀ toSignal toLight : Float → Option Float,
      c.encodeWith? toSignal c.beta = some c.breakSignal ∧
      c.encodeWith? toSignal x = some (c.encode x) ∧
      c.decodeWith? toSignal toLight (c.encode x) = some (c.decode (c.encode x)) := by
  obtain ⟨⟨hnx, hnbeta⟩, -⟩ := le_iff_value.mp hx
  have hbeta : c.beta ≤ c.beta := double_le_refl hnbeta
  have hthreshold := breakSignal_eq hbeta
  have hencode := encode_of_le_beta hx
  have hle : c.encode x ≤ c.breakSignal := by
    rw [hencode, hthreshold]
    exact mul_le_mul_of_pos hfinite hpos hx
  have hdecode : c.decode (c.encode x) = c.encode x / c.slope := decode_of_le_breakSignal hbeta hle
  refine ⟨hthreshold, ⟨hencode, hle⟩, hencode ▸ hdecode, ?_, ?_⟩
  · intro hexact
    rw [hdecode, hencode]
    exact doubleValue_mul_div hfinite hpos hnx hexact
  · intro toSignal toLight
    rw [hdecode, hthreshold]
    refine ⟨encodeWith?_of_le_beta hbeta, ?_, decodeWith?_of_le_breakSignal hbeta hle⟩
    rw [encodeWith?_of_le_beta hx, hencode]

/-- Constants with which the power segments divide by zero. -/
def degenerate : ToeGamma := ⟨0, -1, 0.0228, 4⟩

/-- The breakpoint itself is encoded and decoded by the toe. -/
theorem decode_encode_of_le_beta_breakpoint :
    degenerate.slope.isFinite = true ∧ 0 < degenerate.slope ∧ 0.0228 ≤ degenerate.beta ∧
      degenerate.encode 0.0228 = 0.0912 ∧ 0.0912 ≤ degenerate.breakSignal ∧
      degenerate.decode 0.0912 = 0.0228 ∧
      degenerate.decodeWith? (fun _ => none) (fun _ => none) 0.0912 = some 0.0228 := by
  have hfinite : degenerate.slope.isFinite = true := by decide +kernel
  have hpos : 0 < degenerate.slope := by decide +kernel
  have hx : 0.0228 ≤ degenerate.beta := by decide +kernel
  have hscaled : degenerate.slope * 0.0228 = 0.0912 := by decide +kernel
  have hback : (0.0912 : Float) / degenerate.slope = 0.0228 := by decide +kernel
  obtain ⟨-, ⟨hencode, hle⟩, hdecode, -, hany⟩ := decode_encode_of_le_beta hfinite hpos hx
  rw [hscaled] at hencode
  rw [hencode] at hle hdecode hany
  rw [hscaled, hback] at hdecode
  have hnone := (hany (fun _ => none) (fun _ => none)).2.2
  rw [hdecode] at hnone
  exact ⟨hfinite, hpos, hx, hencode, hle, hdecode, hnone⟩

end PlanarVideo.ToeGamma
