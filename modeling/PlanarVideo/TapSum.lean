import PlanarVideo.DecimationError

/-!
# Tap sums

`tapSum k row t pos last` adds the products of the taps of `t` with the samples of `row` in the
window at `pos`, in tap order and in the accumulator type of the kind `k`; `settle` turns the sum
into the result of the filter.  Every access to the row and to the taps is checked, so a run that
returns a value has read nothing outside them.
-/

namespace PlanarVideo

/-- The element at an index, or the fault of reading outside the array. -/
def fetch {α : Type} (a : Array α) (i : Nat) : Except DecimationError α :=
  match a[i]? with
  | some x => .ok x
  | none => .error (.bounds (.read i a.size))

theorem fetch_eq_ok {α : Type} {a : Array α} {i : Nat} (h : i < a.size) :
    fetch a i = .ok a[i] := by
  simp [fetch, h]

namespace SampleKind

/-- Tap `j` of the form that the kind uses. -/
def tap : (k : SampleKind) → TapTable → Nat → Except DecimationError k.Acc
  | float32, t, j => fetch t.real.taps j
  | uint16, t, j => (fetch t.fixed.taps j).map Int32.toInt64
  | uint8, t, j => (fetch t.fixed.taps j).map Int32.toInt64

/-- The result of a filter for a sum of products. -/
def settle : (k : SampleKind) → TapTable → k.Acc → k.Acc
  | float32, t, sum => t.real.settle sum
  | uint16, t, sum => t.fixed.settle sum
  | uint8, t, sum => t.fixed.settle sum

end SampleKind

/-- The sum of products at anchor `pos` of a row whose final column is `last`. -/
def tapSum (k : SampleKind) (row : Array k.Sample) (t : TapTable) (pos last : Nat) :
    Except DecimationError k.Acc :=
  (List.range t.size).foldlM
    (fun sum j => do
      let tap ← k.tap t j
      let x ← fetch row (t.column pos j last)
      return sum + tap * k.load x)
    k.zero

/-- The result of the filter `t` at anchor `pos` of a row whose final column is `last`. -/
def filtered (k : SampleKind) (row : Array k.Sample) (t : TapTable) (pos last : Nat) :
    Except DecimationError k.Acc :=
  (tapSum k row t pos last).map (k.settle t)

end PlanarVideo
