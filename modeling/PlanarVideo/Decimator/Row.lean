import PlanarVideo.Decimator.Basic

/-!
# Rows

Output sample `i` of a row is the guarded filter result at column `2 * i` of the source row,
clamped to the clip range if the primary table clips, and stored in the kind of the row.  The
source row may be shorter than twice the output: anchors beyond its end read its last sample.  An
empty source row leaves the output row as it was.
-/

namespace PlanarVideo.Decimator

/-- Output sample `i` for the source row `src` and the clip range `[low, high]`. -/
def sampleAt (d : Decimator) (k : SampleKind) (src : Array k.Sample) (low high : k.Acc)
    (i : Nat) : Except DecimationError k.Sample := do
  let value ← guarded k d.guard src d.primary (2 * i) (src.size - 1)
  return k.store (if d.primary.clip then k.clamp value low high else value)

/-- The output row that takes the place of `dst`. -/
def halveRow (d : Decimator) (k : SampleKind) (dst src : Array k.Sample) (low high : k.Acc) :
    Except DecimationError (Array k.Sample) :=
  if src.size = 0 then
    .ok dst
  else
    ((List.range dst.size).mapM (d.sampleAt k src low high)).map List.toArray

end PlanarVideo.Decimator
