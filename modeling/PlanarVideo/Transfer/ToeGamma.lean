/-!
# Curves with a linear toe and a power segment

Four standards share one pair of curves and differ in four constants.  Encoding maps linear light
to a signal: below the breakpoint `beta` it is the line of slope `slope`, above it the power
`exponent`, scaled and lowered by `alpha`.  Decoding undoes each segment.  Its breakpoint is the
signal of `beta`, so both curves change segment at the same point.

The published constants are rounded, so the two segments need not meet exactly.
-/

namespace PlanarVideo

/-- The greater of `x` and zero; zero if `x` is NaN. -/
def atLeastZero (x : Float) : Float :=
  if 0 < x then x else 0

/-- The constants of a curve. -/
structure ToeGamma where
  /-- The exponent of the encoding power segment. -/
  exponent : Float
  /-- The offset of the power segment. -/
  alpha : Float
  /-- The breakpoint in linear light. -/
  beta : Float
  /-- The slope of the encoding toe. -/
  slope : Float
deriving Repr

namespace ToeGamma

/-- The exponent of the decoding power segment. -/
def gamma (c : ToeGamma) : Float :=
  1 / c.exponent

/-- The signal of the linear light `x`. -/
def encode (c : ToeGamma) (x : Float) : Float :=
  if x ≤ c.beta then c.slope * x
  else (1 + c.alpha) * x.pow c.exponent - c.alpha

/-- The breakpoint in the signal. -/
def breakSignal (c : ToeGamma) : Float :=
  c.encode c.beta

/-- The linear light of the signal `x`.  The base of the power is kept from being negative. -/
def decode (c : ToeGamma) (x : Float) : Float :=
  if x ≤ c.breakSignal then x / c.slope
  else (atLeastZero ((x + c.alpha) / (1 + c.alpha))).pow c.gamma

/-- The curve of ST 240M. -/
def st240 : ToeGamma := ⟨0.45, 0.1115, 0.0228, 4⟩

/-- The curve of BT.709. -/
def bt709 : ToeGamma := ⟨0.45, 0.099, 0.018, 4.5⟩

/-- The curve of BT.2020, with the constants at which the segments meet. -/
def bt2020 : ToeGamma := ⟨0.45, 0.09929682680944, 0.018053968510807, 4.5⟩

/-- The curve of sRGB. -/
def srgb : ToeGamma := ⟨1 / 2.4, 0.055, 0.0031308, 12.92⟩

end ToeGamma
end PlanarVideo
