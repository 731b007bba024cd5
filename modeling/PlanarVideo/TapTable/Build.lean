import PlanarVideo.TapTable.Fixed

/-!
# Building tap tables

A `TapSpec` states a filter: its float form, its center, and either its integer form or the
precision at which that form is to be derived.  `TapSpec.build` checks the statement and
completes it to a table.  The checks run in a fixed order, and the first that fails is reported:
there are taps; the center is one of them; the float coefficients are finite; the integer form
has as many taps, or can be derived; its shift is at most `maxShift`; and no row of 16-bit
samples can overflow the accumulator.

A statement starts from the float taps and is completed by settings, one after the other; a part
that is set twice keeps what it was given last.
-/

namespace PlanarVideo

open Numeric

/-- The greatest sample of an integer plane. -/
def maxSample : Int64 := 65535

/-- The greatest magnitude that the accumulator can reach on 16-bit samples, if it fits. -/
def FixedTaps.reach? (f : FixedTaps) : Option Int64 :=
  f.taps.foldlM
    (fun reach tap => (product? tap.toInt64.abs maxSample).bind (sum? reach))
    f.offset.toInt64.abs

/-- Whether all coefficients are finite. -/
def RealTaps.isFinite (r : RealTaps) : Bool :=
  r.taps.all Float.isFinite && r.offset.isFinite && r.scale.isFinite

/-- A filter as stated by its designer. -/
structure TapSpec where
  /-- The float form. -/
  real : RealTaps
  /-- The tap that reads the anchor column. -/
  center : Nat := 0
  /-- The precision at which an integer form is derived. -/
  precision : Nat := defaultPrecision
  /-- The integer form, if it is stated; the precision then has no influence. -/
  stated? : Option FixedTaps := none
  /-- Whether results are clamped to the nominal range of the plane. -/
  clip : Bool := false

namespace TapSpec

/-- The number of float taps. -/
def size (s : TapSpec) : Nat :=
  s.real.taps.size

/-- The integer form: the stated one if its length fits, otherwise the derived one. -/
def fixed (s : TapSpec) : Except TableFault FixedTaps :=
  match s.stated? with
  | some stated =>
    if stated.taps.size = s.size then .ok stated
    else .error (.tapCount stated.taps.size s.size)
  | none =>
    if s.precision ≤ maxShift then s.real.toFixed s.precision
    else .error (.shiftTooLarge s.precision)

/-- The table of a stated filter. -/
def build (s : TapSpec) : Except TableFault TapTable :=
  if s.size = 0 then
    .error .noTaps
  else if s.size ≤ s.center then
    .error (.centerOutside s.center s.size)
  else if s.real.isFinite = false then
    .error .notFinite
  else
    match s.fixed with
    | .error fault => .error fault
    | .ok fixed =>
      if maxShift < fixed.shift then
        .error (.shiftTooLarge fixed.shift)
      else if fixed.reach?.isNone then
        .error .accumulator
      else
        .ok { center := s.center, real := s.real, fixed, clip := s.clip }

end TapSpec

/-! ## Settings -/

/-- One part of a statement, to take the place of what was there. -/
inductive TapSetting
  /-- The tap that reads the anchor column. -/
  | center (center : Nat)
  /-- The offset of the float form. -/
  | offset (offset : Float)
  /-- The scale of the float form. -/
  | scale (scale : Float)
  /-- The precision at which an integer form is derived. -/
  | precision (precision : Nat)
  /-- The integer form. -/
  | fixed (fixed : FixedTaps)
  /-- Whether results are clamped to the nominal range of the plane. -/
  | clip (clip : Bool)

namespace TapSpec

/-- The statement with one part replaced. -/
def set (s : TapSpec) : TapSetting → TapSpec
  | .center center => { s with center }
  | .offset offset => { s with real := { s.real with offset } }
  | .scale scale => { s with real := { s.real with scale } }
  | .precision precision => { s with precision }
  | .fixed fixed => { s with stated? := some fixed }
  | .clip clip => { s with clip }

/-- The statement with the given float taps that the settings lead to. -/
def ofSettings (taps : Array Float) (settings : List TapSetting) : TapSpec :=
  settings.foldl set { real := { taps } }

end TapSpec

/-- The settings that state a table again, with both forms given. -/
def TapTable.settings (t : TapTable) (precision : Nat) : List TapSetting :=
  [.center t.center, .offset t.real.offset, .scale t.real.scale, .precision precision,
    .fixed t.fixed, .clip t.clip]

/-- The statement of a filter that has been built, with both forms given. -/
def TapTable.toSpec (t : TapTable) (precision : Nat) : TapSpec where
  real := t.real
  center := t.center
  precision := precision
  stated? := some t.fixed
  clip := t.clip

end PlanarVideo
