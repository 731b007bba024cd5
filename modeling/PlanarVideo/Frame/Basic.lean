import PlanarVideo.Plane
import PlanarVideo.Numeric.Checked

/-!
# Frames

A frame is a luma plane and two chroma planes of one sample format, with a sequence number and
a flag for valid picture data.  `Frame.blank` makes the frames of zero samples; it refuses empty
sizes, luma sizes that the chroma format does not divide, and sizes with too many samples, in
this order.  Then it allocates the planes one by one, which fails for buffers of too many bytes.
-/

namespace PlanarVideo

open Numeric

/-- The fixed format of a given depth, from eight to sixteen bits. -/
def SampleFormat.ofBitDepth (depth : Nat) : Except FrameError SampleFormat :=
  if 8 ≤ depth ∧ depth ≤ 16 then .ok (.fixed depth)
  else .error (.unsupportedFormat (.bitDepth depth))

/-- The size of the chroma planes beside a luma plane of `width` by `height`. -/
def ChromaFormat.planeSize (chroma : ChromaFormat) (width height : Nat) :
    Except FrameError (Nat × Nat) :=
  let (across, down) := chroma.shifts
  if width % (1 <<< across) = 0 ∧ height % (1 <<< down) = 0 then
    .ok (width >>> across, height >>> down)
  else
    .error (.invalidDimensions width height (.indivisible chroma))

/-- A picture of three planes. -/
structure Frame where
  /-- Luma columns. -/
  width : Nat
  /-- Luma rows. -/
  height : Nat
  /-- The resolution of the chroma planes. -/
  chroma : ChromaFormat
  /-- The sample format of all planes. -/
  format : SampleFormat
  /-- The sequence number. -/
  number : UInt64
  /-- Whether the planes hold a picture. -/
  available : Bool
  /-- The luma plane. -/
  y : Plane
  /-- The blue difference plane. -/
  u : Plane
  /-- The red difference plane. -/
  v : Plane
deriving BEq, Repr

namespace Frame

/-- The plane of a component. -/
def plane (f : Frame) : Component → Plane
  | .y => f.y
  | .u => f.u
  | .v => f.v

/-- The frame with another plane for a component. -/
def withPlane (f : Frame) (c : Component) (p : Plane) : Frame :=
  match c with
  | .y => { f with y := p }
  | .u => { f with u := p }
  | .v => { f with v := p }

@[simp] theorem plane_withPlane_self (f : Frame) (c : Component) (p : Plane) :
    (f.withPlane c p).plane c = p := by
  cases c <;> rfl

theorem plane_withPlane_of_ne (f : Frame) {c d : Component} (p : Plane) (h : d ≠ c) :
    (f.withPlane c p).plane d = f.plane d := by
  cases c <;> cases d <;> simp_all [withPlane, plane]

/-- A plane of zero samples that spans the full scale of its format. -/
def blankPlane (format : SampleFormat) (component : Component) (width height : Nat) : Plane where
  width := width
  height := height
  range := .fullScale format component
  data := .blank format.storage (width * height)

/-- The plane of zero samples, if its bytes fit a buffer. -/
def allocatePlane (format : SampleFormat) (component : Component) (width height : Nat) :
    Except BlankFault Plane :=
  if width * height * format.storage.bytes < byteLimit then
    .ok (blankPlane format component width height)
  else
    .error .unallocatable

/-- The frame of zero samples with the given luma size and formats. -/
def blank (width height : Nat) (chroma : ChromaFormat) (format : SampleFormat) :
    Except BlankFault Frame :=
  if width = 0 ∨ height = 0 then
    .error (.refused (.invalidDimensions width height .empty))
  else
    match chroma.planeSize width height with
    | .error e => .error (.refused e)
    | .ok (chromaWidth, chromaHeight) =>
      match sizeProduct? width height with
      | none => .error (.refused (.invalidDimensions width height .uncountable))
      | some _ => do
        let y ← allocatePlane format .y width height
        let u ← allocatePlane format .u chromaWidth chromaHeight
        let v ← allocatePlane format .v chromaWidth chromaHeight
        return { width, height, chroma, format, number := 0, available := false, y, u, v }

/-- The frame with the sequence number, the availability and the plane ranges of `source`. -/
def withMetadata (f source : Frame) : Frame :=
  { f with
    number := source.number
    available := source.available
    y := { f.y with range := source.y.range }
    u := { f.u with range := source.u.range }
    v := { f.v with range := source.v.range } }

end Frame
end PlanarVideo
