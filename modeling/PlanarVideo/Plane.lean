import PlanarVideo.Frame.Error
import PlanarVideo.Buffer

/-!
# Planes

A plane is a rectangle of samples stored row by row, together with the range of levels that it
nominally spans.  The samples are of one kind throughout; `SampleBuffer.view?` gives them as an
array of that kind, and nothing for any other kind.
-/

namespace PlanarVideo

open Numeric

/-! ## Nominal ranges -/

/-- The nominal levels of a plane. -/
structure NominalRange where
  /-- The lowest legal level. -/
  low : Float
  /-- The neutral level. -/
  neutral : Float
  /-- The highest legal level. -/
  high : Float
deriving BEq, Repr

/-- The range of a plane at full scale: all codes for a fixed format, the unit interval for
float luma, and the centered unit interval for float chroma. -/
def NominalRange.fullScale (format : SampleFormat) (component : Component) : NominalRange :=
  match format with
  | .fixed depth => ⟨0, Float.ofNat (1 <<< (depth - 1)), Float.ofNat ((1 <<< depth) - 1)⟩
  | .float => if component.isChroma then ⟨-0.5, 0, 0.5⟩ else ⟨0, 0.5, 1⟩

/-! ## Buffers of samples -/

/-- The samples of a plane, all of one kind. -/
inductive SampleBuffer
  /-- Single-precision floats. -/
  | float32 (samples : Array Float32)
  /-- Words. -/
  | uint16 (samples : Array UInt16)
  /-- Bytes. -/
  | uint8 (samples : Array UInt8)
deriving BEq, Repr

namespace SampleBuffer

/-- The buffer holding an array of samples. -/
def ofArray : (k : SampleKind) → Array k.Sample → SampleBuffer
  | .float32, samples => float32 samples
  | .uint16, samples => uint16 samples
  | .uint8, samples => uint8 samples

/-- A buffer of `count` zero samples. -/
def blank (k : SampleKind) (count : Nat) : SampleBuffer :=
  ofArray k (Array.replicate count k.blank)

/-- The kind of the samples. -/
def kind : SampleBuffer → SampleKind
  | float32 _ => .float32
  | uint16 _ => .uint16
  | uint8 _ => .uint8

/-- The number of samples. -/
def size : SampleBuffer → Nat
  | float32 samples => samples.size
  | uint16 samples => samples.size
  | uint8 samples => samples.size

/-- The samples as an array of kind `k`, if that is their kind. -/
def view? : (k : SampleKind) → SampleBuffer → Option (Array k.Sample)
  | .float32, float32 samples => some samples
  | .uint16, uint16 samples => some samples
  | .uint8, uint8 samples => some samples
  | _, _ => none

@[simp] theorem kind_ofArray (k : SampleKind) (samples : Array k.Sample) :
    (ofArray k samples).kind = k := by
  cases k <;> rfl

@[simp] theorem size_ofArray (k : SampleKind) (samples : Array k.Sample) :
    (ofArray k samples).size = samples.size := by
  cases k <;> rfl

@[simp] theorem view?_ofArray (k : SampleKind) (samples : Array k.Sample) :
    (ofArray k samples).view? k = some samples := by
  cases k <;> rfl

theorem view?_eq_some_iff {k : SampleKind} {b : SampleBuffer} {samples : Array k.Sample} :
    b.view? k = some samples ↔ b = ofArray k samples := by
  cases k <;> cases b <;> simp [view?, ofArray]

theorem isSome_view?_iff {k : SampleKind} {b : SampleBuffer} :
    (b.view? k).isSome ↔ b.kind = k := by
  cases k <;> cases b <;> simp [view?, kind]

end SampleBuffer

/-! ## Planes -/

/-- One component of a picture. -/
structure Plane where
  /-- Samples per row. -/
  width : Nat
  /-- Rows. -/
  height : Nat
  /-- The levels that the plane nominally spans. -/
  range : NominalRange
  /-- The samples, row by row. -/
  data : SampleBuffer
deriving BEq, Repr

namespace Plane

/-- The number of samples that the dimensions call for. -/
def sampleCount (p : Plane) : Nat :=
  p.width * p.height

/-- The samples as an array of kind `k`, if the plane stores that kind. -/
def samples? (p : Plane) (k : SampleKind) : Option (Array k.Sample) :=
  p.data.view? k

/-- The plane with other samples, which must be as many and of the same kind. -/
def replaceData (p : Plane) (data : SampleBuffer) : Except FrameError Plane :=
  if data.kind = p.data.kind ∧ data.size = p.data.size then
    .ok { p with data }
  else
    .error (.planeMismatch (.buffer p.data.kind p.data.size) (.buffer data.kind data.size))

/-- The plane with its first samples overwritten, if it stores samples of the kind of `values`. -/
def overwriteSamples? (p : Plane) (values : SampleBuffer) : Option Plane :=
  let k := p.data.kind
  match p.samples? k, values.view? k with
  | some samples, some values => some { p with data := .ofArray k (overwrite samples 0 values) }
  | _, _ => none

end Plane
end PlanarVideo
