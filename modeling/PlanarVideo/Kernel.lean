/-!
# Resampling kernels

A kernel is an even function of bounded support, given at unit sample spacing.  This file holds
the four kernels from which tap tables are sampled: a box, a triangle, the Mitchell–Netravali
cubic and the Lanczos window of radius three.
-/

namespace PlanarVideo

/-- A resampling kernel. -/
inductive Kernel
  /-- A box of width one. -/
  | nearest
  /-- A triangle of radius one. -/
  | bilinear
  /-- The cubic whose two parameters are one third. -/
  | bicubic
  /-- The windowed sinc of radius three. -/
  | lanczos3
deriving DecidableEq, Repr

namespace Kernel

instance : Inhabited Kernel := ⟨lanczos3⟩

/-- The name of the kernel. -/
def label : Kernel → String
  | nearest => "Nearest"
  | bilinear => "Bilinear"
  | bicubic => "Bicubic"
  | lanczos3 => "Lanczos3"

/-- The width of the support: the kernel vanishes outside an interval of this length about
zero. -/
def diameter : Kernel → Nat
  | nearest => 1
  | bilinear => 2
  | bicubic => 4
  | lanczos3 => 6

/-- The radius of the support. -/
def radius (kernel : Kernel) : Float :=
  Float.ofNat kernel.diameter / 2

/-- One within half a sample of zero. -/
def box (x : Float) : Float :=
  if x.abs < 0.5 then 1 else 0

/-- Falls linearly from one at zero to zero at distance one. -/
def triangle (x : Float) : Float :=
  if x.abs < 1 then 1 - x.abs else 0

/-- The piecewise cubic with blur `b` and ringing `c`. -/
def cubic (b c x : Float) : Float :=
  let d := x.abs
  if d < 1 then
    ((12 - 9 * b - 6 * c) * d * d * d + (-18 + 12 * b + 6 * c) * d * d + (6 - 2 * b)) / 6
  else if d < 2 then
    ((-b - 6 * c) * d * d * d + (6 * b + 30 * c) * d * d + (-12 * b - 48 * c) * d
      + (8 * b + 24 * c)) / 6
  else
    0

/-- The double nearest to the circle constant. -/
def pi : Float := 3.141592653589793

/-- The sinc function windowed by its own central lobe stretched to `radius`. -/
def lanczos (radius x : Float) : Float :=
  let d := x.abs
  if d < 1e-8 then
    1
  else if d < radius then
    let inner := pi * d
    let outer := inner / radius
    (inner.sin / inner) * (outer.sin / outer)
  else
    0

/-- The weight that the kernel gives to a sample at distance `x`. -/
def weight : Kernel → Float → Float
  | nearest, x => box x
  | bilinear, x => triangle x
  | bicubic, x => cubic (1 / 3) (1 / 3) x
  | lanczos3, x => lanczos 3 x

end Kernel
end PlanarVideo
