/-!
# Hybrid log-gamma

The curve of BT.2100 is a square root in the shadows and a logarithm in the highlights; the two
meet at one twelfth of linear light, which is half of the signal.  Linear light and signals at or
below zero map to zero.
-/

namespace PlanarVideo.HybridLogGamma

/-- The scale of the logarithm. -/
def a : Float := 0.17883277

/-- The shift of the argument of the logarithm. -/
def b : Float := 1 - 4 * a

/-- The offset of the logarithmic segment. -/
def c : Float := 0.559910729529562

/-- The linear light of a signal. -/
def decode (x : Float) : Float :=
  if x ≤ 0 then 0
  else if x ≤ 0.5 then x * x / 3
  else (((x - c) / a).exp + b) / 12

/-- The signal of a linear light. -/
def encode (x : Float) : Float :=
  if x ≤ 0 then 0
  else if x ≤ 1 / 12 then (3 * x).sqrt
  else a * (12 * x - b).log + c

end PlanarVideo.HybridLogGamma
