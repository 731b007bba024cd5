import PlanarVideo.TapTable.Build

/-!
# Tables that halve the horizontal resolution

Output sample `i` of a halved row is anchored at column `2 * i`.  `TapTable.halving` stretches a
kernel by two, centers it at the chroma position of the phase, samples it at the columns around
the anchor, drops the vanishing weights at both ends and scales the rest to unit gain.  Tables
with a negative tap clip, since only these can leave the range of their samples.
-/

namespace PlanarVideo

namespace Kernel

/-- The weights below this magnitude count as zero. -/
def negligible : Float := 1e-12

/-- The weight of the column `j` to the right of the anchor. -/
def halvingWeight (kernel : Kernel) (phase : Phase) (j : Int) : Float :=
  let w := kernel.weight ((Float.ofInt j - phase.offset) / 2)
  if w.abs < negligible then 0 else w

/-- The columns about the anchor that the stretched kernel can reach, with their weights. -/
def halvingGrid (kernel : Kernel) (phase : Phase) : List (Int × Float) :=
  let reach : Nat := kernel.diameter + 1
  (List.range (2 * reach + 1)).map fun (i : Nat) =>
    let j : Int := i - reach
    (j, kernel.halvingWeight phase j)

end Kernel

/-- Drops the pairs of weight zero at both ends. -/
def trimZeros (weights : List (Int × Float)) : List (Int × Float) :=
  let vanishes : Int × Float → Bool := fun w => w.2 == 0
  ((weights.dropWhile vanishes).reverse.dropWhile vanishes).reverse

/-- The table that halves a row with the given kernel and phase. -/
def TapTable.halving (kernel : Kernel) (phase : Phase) : Except TableFault TapTable :=
  match trimZeros (kernel.halvingGrid phase) with
  | [] => .error (.noSupport kernel phase)
  | window@((origin, _) :: _) =>
    if 0 < origin then
      .error (.anchorUncovered kernel)
    else
      let weights := window.map (·.2)
      let sum := weights.foldl (· + ·) 0
      let taps := (weights.map (· / sum)).toArray
      TapSpec.build
        { real := { taps }
          center := (-origin).toNat
          clip := taps.any (· < 0) }

end PlanarVideo
