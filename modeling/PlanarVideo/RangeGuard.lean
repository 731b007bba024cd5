import PlanarVideo.TapSum

/-!
# Range guards

A sharp filter overshoots beside strong edges.  A range guard compares the result of a primary
table with the local range, the least and the greatest sample in a tap window, and corrects
results that leave it with the help of a fallback table.  It acts on float samples only.

A window is walked once: `survey` forms the tap sum and the range together, so that no sum is
formed twice when the range window is also the window of a filter that is needed.
-/

namespace PlanarVideo

/-- The table whose window gives the local range. -/
inductive RangeSource
  /-- The table that is corrected. -/
  | primary
  /-- The table that corrects. -/
  | fallback
deriving DecidableEq, Repr

/-- The window that a policy uses unless told otherwise; the policy `none` corrects nothing. -/
def RangeSource.standard : Option Correction → RangeSource
  | some .recompute => .primary
  | some .blend | some .clamp | none => .fallback

/-- The tap sum of a window and the range of its samples. -/
structure Survey where
  /-- The sum of products. -/
  sum : Float
  /-- The least sample, infinite if all are NaN. -/
  low : Float
  /-- The greatest sample, infinite if all are NaN. -/
  high : Float

namespace Survey

/-- The survey of no sample. -/
def empty : Survey where
  sum := 0
  low := 1 / 0
  high := -1 / 0

/-- The survey with one more tap and its sample. -/
def push (w : Survey) (tap x : Float) : Survey where
  sum := w.sum + tap * x
  low := if x < w.low then x else w.low
  high := if w.high < x then x else w.high

/-- Whether a value lies outside the range.  NaN lies outside no range. -/
def excludes (w : Survey) (value : Float) : Bool :=
  w.high < value || value < w.low

end Survey

/-- One walk over the window of `t` at `pos`, for the sum and the range. -/
def survey (row : Array Float32) (t : TapTable) (pos last : Nat) :
    Except DecimationError Survey :=
  (List.range t.size).foldlM
    (fun w j => do
      let tap ← SampleKind.float32.tap t j
      let x ← fetch row (t.column pos j last)
      return w.push tap (SampleKind.float32.load x))
    .empty

/-- A correction with the table and the window it uses. -/
structure RangeGuard where
  /-- What is done to a result outside the local range. -/
  correction : Correction
  /-- The table that corrects. -/
  fallback : TapTable
  /-- The window that gives the local range. -/
  window : RangeSource

namespace RangeGuard

/-- The guard of a policy.  The policy `none` has none and drops the fallback table; every
correction needs that table. -/
def ofPolicy (policy : Option Correction) (fallback : Option TapTable)
    (window : Option RangeSource) : Except DecimationError (Option RangeGuard) :=
  match policy with
  | none => .ok none
  | some correction =>
    match fallback with
    | none => .error (.invalidParameter (.missingFallback correction))
    | some table =>
      .ok (some
        { correction
          fallback := table
          window := window.getD (.standard (some correction)) })

/-- The result of the primary table, and the survey of the range window. -/
def valueAndSurvey (g : RangeGuard) (row : Array Float32) (primary : TapTable) (pos last : Nat) :
    Except DecimationError (Float × Survey) :=
  match g.window with
  | .primary => do
    let range ← survey row primary pos last
    return (primary.real.settle range.sum, range)
  | .fallback => do
    let value ← filtered .float32 row primary pos last
    let range ← survey row g.fallback pos last
    return (value, range)

/-- The result of the fallback table; the survey already holds its sum if it is the range window. -/
def substitute (g : RangeGuard) (row : Array Float32) (range : Survey) (pos last : Nat) :
    Except DecimationError Float :=
  match g.window with
  | .fallback => .ok (g.fallback.real.settle range.sum)
  | .primary => filtered .float32 row g.fallback pos last

/-- The result of the primary table, corrected where it leaves the local range. -/
def corrected (g : RangeGuard) (row : Array Float32) (primary : TapTable) (pos last : Nat) :
    Except DecimationError Float := do
  let (value, range) ← g.valueAndSurvey row primary pos last
  match g.correction with
  | .recompute | .blend =>
    if range.excludes value then g.substitute row range pos last else return value
  | .clamp =>
    return if range.high < value then range.high
      else if value < range.low then range.low
      else value

end RangeGuard

/-- The result of the primary table under a guard.  Integer samples are not corrected. -/
def guarded : (k : SampleKind) → Option RangeGuard → Array k.Sample → TapTable →
    (pos last : Nat) → Except DecimationError k.Acc
  | .float32, some g, row, primary, pos, last => g.corrected row primary pos last
  | .float32, none, row, primary, pos, last => filtered .float32 row primary pos last
  | .uint16, _, row, primary, pos, last => filtered .uint16 row primary pos last
  | .uint8, _, row, primary, pos, last => filtered .uint8 row primary pos last

end PlanarVideo
