import PlanarVideo.SampleKind

/-!
# Components, sample formats and chroma formats

A picture has a luma component and two chroma components.  All planes of a frame share one
sample format; the chroma format says how much smaller the chroma planes are than the luma
plane.

A sample format decides two sample kinds.  `storage` is the kind that the planes of a frame
hold; `filtering` is the kind in which the planes are filtered.  They agree for float and for
depths of at least eight bits, the only depths that `SampleFormat.ofBitDepth` admits.
-/

namespace PlanarVideo

/-! ## Components -/

/-- A component of the picture. -/
inductive Component
  /-- Luma. -/
  | y
  /-- Blue difference. -/
  | u
  /-- Red difference. -/
  | v
deriving DecidableEq, Repr

namespace Component

/-- The components in the order in which a frame stores them. -/
def all : List Component := [y, u, v]

/-- The two chroma components. -/
def chroma : List Component := [u, v]

/-- Whether the component carries a color difference. -/
def isChroma : Component → Bool
  | y => false
  | u | v => true

/-- The place of the component in `all`. -/
def index : Component → Nat
  | y => 0
  | u => 1
  | v => 2

/-- The letter of the component. -/
def label : Component → String
  | y => "Y"
  | u => "U"
  | v => "V"

instance : ToString Component := ⟨label⟩

end Component

/-! ## Sample formats -/

/-- How the samples of a frame represent levels. -/
inductive SampleFormat
  /-- Floating-point levels. -/
  | float
  /-- Unsigned integers with this many significant bits. -/
  | fixed (bitDepth : Nat)
deriving DecidableEq, Repr

namespace SampleFormat

instance : Inhabited SampleFormat := ⟨float⟩

/-- Whether the format is the floating-point one. -/
def isFloat : SampleFormat → Bool
  | float => true
  | fixed _ => false

/-- The number of significant bits, for the fixed formats. -/
def bitDepth? : SampleFormat → Option Nat
  | float => none
  | fixed depth => some depth

/-- The kind in which the planes of a frame store their samples: bytes for depth 8, words above,
floats otherwise. -/
def storage : SampleFormat → SampleKind
  | float => .float32
  | fixed depth => if depth = 8 then .uint8 else if 8 < depth then .uint16 else .float32

/-- The kind in which the planes of a frame are filtered: floats for float, bytes for depth 8,
words for every other depth. -/
def filtering : SampleFormat → SampleKind
  | float => .float32
  | fixed depth => if depth = 8 then .uint8 else .uint16

/-- The printed name of the format. -/
def label : SampleFormat → String
  | float => "float"
  | fixed depth => s!"{depth}-bit"

instance : ToString SampleFormat := ⟨label⟩

end SampleFormat

/-! ## Chroma formats -/

/-- The resolution of the chroma planes relative to the luma plane. -/
inductive ChromaFormat
  /-- Chroma at full resolution. -/
  | full
  /-- Chroma at half the horizontal resolution. -/
  | half
deriving DecidableEq, Repr

namespace ChromaFormat

instance : Inhabited ChromaFormat := ⟨full⟩

/-- The base-two logarithms of the horizontal and the vertical subsampling factor. -/
def shifts : ChromaFormat → Nat × Nat
  | full => (0, 0)
  | half => (1, 0)

/-- The customary name of the format. -/
def label : ChromaFormat → String
  | full => "4:4:4"
  | half => "4:2:2"

instance : ToString ChromaFormat := ⟨label⟩

end ChromaFormat
end PlanarVideo
