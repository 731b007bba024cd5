import PlanarVideo.Decimator.Plane
import PlanarVideo.Frame.Basic

/-!
# Frames

`halveFrame` works in place on an output frame with half the chroma width of the input frame.  It
first compares the frames: their sample formats, their luma sample counts, the sizes of their
chroma planes, and the kinds of samples that the six planes store.  Only then does it write:
sequence number, availability and ranges, the luma samples, and the two chroma planes, each
clipped to the nominal range of its input plane.

The state of `halveFrame` is the output frame, so a run that ends in an error still shows what had
been written by then.
-/

namespace PlanarVideo

open Numeric

/-- How the formats or the sizes of two frames keep `inp` from being halved into `out`. -/
def mismatch? (out inp : Frame) : Option DecimationError :=
  if inp.format ≠ out.format then
    some (.formatMismatch inp.format out.format)
  else if inp.y.sampleCount ≠ out.y.sampleCount then
    some (.sizeMismatch .y (inp.y.width, inp.y.height) (out.y.width, out.y.height))
  else
    Component.chroma.findSome? fun c =>
      let expected := (saturatingDouble (out.plane c).width, (out.plane c).height)
      let actual := ((inp.plane c).width, (inp.plane c).height)
      if actual = expected then none else some (.sizeMismatch c expected actual)

/-- The first plane that does not store samples of kind `k` in both frames. -/
def kindFault? (k : SampleKind) (out inp : Frame) : Option FrameError :=
  Component.all.findSome? fun c =>
    let source := (inp.plane c).data.kind
    let destination := (out.plane c).data.kind
    if source = k ∧ destination = k then none
    else some (.planeMismatch (.planeOf c inp.format) (.kinds source destination))

/-- Copies the luma samples of kind `k`. -/
def copyLuma (k : SampleKind) (inp : Frame) : EStateM DecimationError Frame Unit := do
  let out ← get
  match inp.y.samples? k, out.y.samples? k with
  | some source, some destination =>
    if source.size = destination.size then
      set { out with y := { out.y with data := .ofArray k source } }
    else
      throw (.bounds (.copy source.size destination.size))
  | _, _ => return

namespace Decimator

/-- Writes the samples of one chroma plane, of kind `k`. -/
def writeChroma (d : Decimator) (k : SampleKind) (inp : Frame) (c : Component) :
    EStateM DecimationError Frame Unit := do
  let out ← get
  let source := inp.plane c
  let plane := out.plane c
  match source.samples? k, plane.samples? k with
  | some input, some output =>
    let low := k.ofNominal source.range.low
    let high := k.ofNominal source.range.high
    match d.halvePlane k input plane.width plane.height low high output with
    | .ok _ written => set (out.withPlane c { plane with data := .ofArray k written })
    | .error e written =>
      set (out.withPlane c { plane with data := .ofArray k written })
      throw e
  | _, _ => return

/-- Writes the metadata and the samples of all planes, of kind `k`. -/
def writeFrame (d : Decimator) (k : SampleKind) (inp : Frame) :
    EStateM DecimationError Frame Unit := do
  modify fun out => out.withMetadata inp
  copyLuma k inp
  d.writeChroma k inp .u
  d.writeChroma k inp .v

/-- Writes `inp`, with its chroma halved, into the frame that is the state. -/
def halveFrame (d : Decimator) (inp : Frame) : EStateM DecimationError Frame Unit := do
  let out ← get
  match mismatch? out inp with
  | some e => throw e
  | none =>
    let k := inp.format.filtering
    match kindFault? k out inp with
    | some e => throw (.frame e)
    | none => d.writeFrame k inp

end Decimator
end PlanarVideo
