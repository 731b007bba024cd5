import PlanarVideo.Kernel
import PlanarVideo.Siting

/-!
# Tap tables

A tap table is a finite filter in two numeric forms.  On float samples it computes
`(sum + offset) * scale` with double-precision taps, on integer samples `(sum + offset) >> shift`
with 32-bit taps, where `sum` adds the products of the taps with the samples in their window.

The window of an anchor column `pos` has one column per tap: tap `k` reads column
`pos + k - center`, moved into the row where it falls outside.  A row therefore behaves as if
its first and its last sample were repeated without end.
-/

namespace PlanarVideo

/-- A filter for float samples. -/
structure RealTaps where
  /-- The coefficients. -/
  taps : Array Float
  /-- Added to the sum of products. -/
  offset : Float := 0
  /-- Applied after the offset. -/
  scale : Float := 1
deriving BEq, Repr

/-- A filter for integer samples. -/
structure FixedTaps where
  /-- The coefficients. -/
  taps : Array Int32
  /-- Added to the sum of products. -/
  offset : Int32
  /-- The number of bits dropped after the offset. -/
  shift : Nat
deriving DecidableEq, Repr

/-- A filter in both numeric forms. -/
structure TapTable where
  /-- The tap that reads the anchor column. -/
  center : Nat
  /-- The form for float samples. -/
  real : RealTaps
  /-- The form for integer samples. -/
  fixed : FixedTaps
  /-- Whether results are clamped to the nominal range of the plane. -/
  clip : Bool
deriving BEq, Repr

/-- The greatest shift of an integer form. -/
def maxShift : Nat := 30

/-- The shift of integer forms derived without a stated precision. -/
def defaultPrecision : Nat := 6

/-- A coefficient of the integer form. -/
inductive Coefficient
  /-- One of the taps. -/
  | tap
  /-- The sum that the taps must reach. -/
  | gain
  /-- The number added to the sum of products. -/
  | offset
deriving DecidableEq, Repr

/-- The words for a coefficient. -/
def Coefficient.label : Coefficient → String
  | tap => "integer tap"
  | gain => "filter gain"
  | offset => "integer offset"

/-- Why a filter is refused. -/
inductive TableFault
  /-- There are no taps. -/
  | noTaps
  /-- The center is not the index of a tap. -/
  | centerOutside (center count : Nat)
  /-- A float coefficient is infinite or NaN. -/
  | notFinite
  /-- There are not as many integer taps as float taps. -/
  | tapCount (integer float : Nat)
  /-- The shift exceeds `maxShift`. -/
  | shiftTooLarge (shift : Nat)
  /-- A derived integer coefficient does not fit 32 bits. -/
  | tooWide (coefficient : Coefficient) (shift : Nat)
  /-- The integer taps can overflow the accumulator. -/
  | accumulator
  /-- The kernel vanishes on the whole sampling grid. -/
  | noSupport (kernel : Kernel) (phase : Phase)
  /-- The kernel vanishes up to and including the anchor column. -/
  | anchorUncovered (kernel : Kernel)
  /-- A reason stated in words. -/
  | stated (text : String)
deriving DecidableEq, Repr

/-- The wording of a table fault. -/
def TableFault.message : TableFault → String
  | noTaps => "filter has no taps"
  | centerOutside center count => s!"center offset {center} outside {count} taps"
  | notFinite => "non-finite float coefficient"
  | tapCount integer float => s!"{integer} integer taps for {float} float taps"
  | shiftTooLarge shift => s!"shift {shift} > {maxShift}"
  | tooWide coefficient shift => s!"{coefficient.label} does not fit 32 bits at shift {shift}"
  | accumulator => "integer taps overflow the accumulator on 16-bit samples"
  | noSupport kernel phase => s!"{kernel.label} kernel has no support at phase {phase.index}"
  | anchorUncovered kernel => s!"{kernel.label} kernel does not cover its anchor sample"
  | stated text => text

/-- The result of the float form for a sum of products. -/
def RealTaps.settle (r : RealTaps) (sum : Float) : Float :=
  (sum + r.offset) * r.scale

/-- The result of the integer form for a sum of products; the shift rounds down. -/
def FixedTaps.settle (f : FixedTaps) (sum : Int64) : Int64 :=
  (sum + f.offset.toInt64) >>> Int64.ofNat f.shift

namespace TapTable

/-- The number of taps. -/
def size (t : TapTable) : Nat :=
  t.real.taps.size

/-- The column read by tap `k` at anchor `pos` in a row whose final column is `last`. -/
def column (t : TapTable) (pos k last : Nat) : Nat :=
  min (pos + k - t.center) last

theorem column_le_last (t : TapTable) (pos k last : Nat) : t.column pos k last ≤ last :=
  Nat.min_le_right _ _

end TapTable
end PlanarVideo
