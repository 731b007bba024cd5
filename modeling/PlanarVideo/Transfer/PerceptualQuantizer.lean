import PlanarVideo.Transfer.ToeGamma

/-!
# The perceptual quantizer

The curve of ST 2084 spaces its codes by what the eye can tell apart, up to a peak of 10000
candelas per square meter, which is the linear light 1.  Linear light and signals at or below
zero map to zero.
-/

namespace PlanarVideo.PerceptualQuantizer

/-- The inner exponent of the encoding. -/
def innerExponent : Float := 2610 / 16384

/-- The outer exponent of the encoding. -/
def outerExponent : Float := 2523 / 4096 * 128

/-- The constant term of the numerator. -/
def c1 : Float := 3424 / 4096

/-- The linear term of the numerator. -/
def c2 : Float := 2413 / 4096 * 32

/-- The linear term of the denominator. -/
def c3 : Float := 2392 / 4096 * 32

/-- The linear light of a signal.  Signals beyond the pole of the curve decode to the peak. -/
def decode (x : Float) : Float :=
  if x ≤ 0 then
    0
  else
    let power := x.pow (1 / outerExponent)
    let numerator := atLeastZero (power - c1)
    let denominator := c2 - c3 * power
    if denominator ≤ 0 then 1 else (numerator / denominator).pow (1 / innerExponent)

/-- The signal of a linear light. -/
def encode (x : Float) : Float :=
  if x ≤ 0 then
    0
  else
    let power := x.pow innerExponent
    ((c1 + c2 * power) / (1 + c3 * power)).pow outerExponent

end PlanarVideo.PerceptualQuantizer
