import PlanarVideo.Decimator.Row
import PlanarVideo.Plane
import PlanarVideo.Numeric.Checked

/-!
# Planes

`halvePlane` works in place on the buffer of an output plane of `width` by `height` samples,
reading an input plane of twice that width.  Both buffers may be longer than their planes; the
samples beyond stay as they are and are not read.  Dimensions whose products are not sizes and
buffers that are too short are refused before anything is written.
-/

namespace PlanarVideo

open Numeric

/-- What is wrong with buffers of `held` output and `given` input samples for an output plane of
`width` by `height`. -/
def bufferFault? (width height held given : Nat) : Option BufferFault :=
  match sizeProduct? width 2 with
  | none => some .widthOverflow
  | some sourceWidth =>
    match sizeProduct? width height, sizeProduct? sourceWidth height with
    | some outputs, some inputs =>
      if held < outputs then some (.shortOutput held width height outputs)
      else if given < inputs then some (.shortInput given sourceWidth height inputs)
      else none
    | _, _ => some .sizeOverflow

namespace Decimator

/-- Writes row `y` of the output plane. -/
def writeRow (d : Decimator) (k : SampleKind) (inp : Array k.Sample) (width : Nat)
    (low high : k.Acc) (y : Nat) : EStateM DecimationError (Array k.Sample) Unit := do
  let out ← get
  let row ← ofExcept <|
    d.halveRow k (out.extract (width * y) (width * y + width))
      (inp.extract (2 * width * y) (2 * width * y + 2 * width)) low high
  set (overwrite out (width * y) row)

/-- Writes the output plane of `width` by `height` samples, with the clip range `[low, high]`. -/
def halvePlane (d : Decimator) (k : SampleKind) (inp : Array k.Sample) (width height : Nat)
    (low high : k.Sample) : EStateM DecimationError (Array k.Sample) Unit := do
  if width = 0 ∨ height = 0 then
    return
  else
    let out ← get
    match bufferFault? width height out.size inp.size with
    | some fault => throw (.invalidDimensions fault)
    | none => (List.range height).forM (d.writeRow k inp width (k.load low) (k.load high))

end Decimator
end PlanarVideo
