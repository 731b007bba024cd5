import PlanarVideo.Frame.Basic

/-!
# A test pattern

`TestPattern.pair` makes a full-chroma source frame with busy chroma planes, and the empty
half-chroma frame into which it can be decimated.  Chroma sample `i` is one of a thousand equally
spaced levels of the nominal range, picked by a multiplicative sequence that leaves no two
neighbors alike.
-/

namespace PlanarVideo.TestPattern

/-- Why there is no pair of a given size and format. -/
inductive Fault
  /-- The source frame is not made. -/
  | source (fault : BlankFault)
  /-- The destination frame is not made. -/
  | destination (fault : BlankFault)
deriving DecidableEq, Repr

/-- The wording of a fault.  A refusal says which frame is refused. -/
def Fault.message : Fault → String
  | source (.refused error) => s!"bench source frame: {error.message}"
  | destination (.refused error) => s!"bench destination frame: {error.message}"
  | source .unallocatable | destination .unallocatable => BlankFault.unallocatable.message

/-- The level of chroma sample `i`. -/
def level (range : NominalRange) (i : Nat) : Float :=
  range.low + (range.high - range.low) * Float.ofNat (i * 7919 % 1000) / 999

/-- The plane with busy samples of the kind that it stores. -/
def busy (p : Plane) : Plane :=
  let k := p.data.kind
  let samples := (List.range p.data.size).map fun i => k.ofNominal (level p.range i)
  { p with data := .ofArray k samples.toArray }

/-- The source and the destination frame. -/
def pair (width height : Nat) (format : SampleFormat) : Except Fault (Frame × Frame) :=
  match Frame.blank width height .full format with
  | .error e => .error (.source e)
  | .ok source =>
    match Frame.blank width height .half format with
    | .error e => .error (.destination e)
    | .ok destination =>
      .ok ({ source with u := busy source.u, v := busy source.v }, destination)

end PlanarVideo.TestPattern
