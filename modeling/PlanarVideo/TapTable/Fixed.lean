import PlanarVideo.TapTable.Basic
import PlanarVideo.Numeric.Checked

/-!
# The integer form of a filter

`RealTaps.toFixed` derives the integer form of a filter at a precision of `p` bits.  Each tap is
scaled by `2 ^ p` and rounded to the nearest integer; the rounding errors are then repaid by the
tap of greatest magnitude, so that the integer taps sum exactly to the rounded gain.  The offset
carries half a unit, which turns the final shift into rounding to nearest.

Every derived coefficient must fit a 32-bit word.
-/

namespace PlanarVideo

open Numeric

namespace RealTaps

/-- The sum of the taps, in order. -/
def total (r : RealTaps) : Float :=
  r.taps.foldl (· + ·) 0

/-- The index of the tap of greatest magnitude; of several, the last. -/
def peak (r : RealTaps) : Nat :=
  ((List.range r.taps.size).zip r.taps.toList).foldl
    (fun (best : Nat × Float) (k, tap) => if best.2 ≤ tap.abs then (k, tap.abs) else best)
    (0, 0) |>.1

/-- The level `x` of the filter as a 32-bit integer with `precision` fractional bits. -/
def scaled? (r : RealTaps) (precision : Nat) (x : Float) : Option Int32 :=
  nearestInt32? (x * r.scale * Float.ofNat (1 <<< precision))

/-- `taps` with `residual` added to the tap of greatest magnitude. -/
def repay? (r : RealTaps) (taps : Array Int32) (residual : Int64) : Option (Array Int32) :=
  if residual = 0 then
    some taps
  else
    match taps[r.peak]? with
    | none => some taps
    | some tap => (int32? (tap.toInt64 + residual)).map (taps.setIfInBounds r.peak)

/-- The integer form at the given precision. -/
def toFixed (r : RealTaps) (precision : Nat) : Except TableFault FixedTaps :=
  match r.taps.mapM (r.scaled? precision) with
  | none => .error (.tooWide .tap precision)
  | some rounded =>
    match r.scaled? precision r.total with
    | none => .error (.tooWide .gain precision)
    | some gain =>
      let sum := rounded.foldl (fun sum tap => sum + tap.toInt64) 0
      match r.repay? rounded (gain.toInt64 - sum) with
      | none => .error (.tooWide .tap precision)
      | some taps =>
        let half : Int64 := if precision = 0 then 0 else Int64.ofNat (1 <<< (precision - 1))
        match (r.scaled? precision r.offset).bind fun offset => int32? (offset.toInt64 + half) with
        | none => .error (.tooWide .offset precision)
        | some offset => .ok { taps, offset, shift := precision }

end RealTaps
end PlanarVideo
