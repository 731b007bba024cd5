import PlanarVideo.PictureFormat

/-!
# What can be wrong with a frame or a plane

Each way in which a frame, a plane or a format is refused is a constructor that carries its
cause; `FrameError.message` is the one place where the wording is given.  A new frame can also be
too large for its buffers: then nothing is refused, but no frame is made.
-/

namespace PlanarVideo

/-- Why a pair of dimensions is refused. -/
inductive GeometryFault
  /-- A side is zero. -/
  | empty
  /-- The subsampling factors of the chroma format do not divide the luma size. -/
  | indivisible (chroma : ChromaFormat)
  /-- The number of samples is not a size. -/
  | uncountable
  /-- A reason stated in words. -/
  | stated (text : String)
deriving DecidableEq, Repr

/-- The wording of a geometry fault. -/
def GeometryFault.message : GeometryFault → String
  | empty => "width and height must be > 0"
  | indivisible chroma =>
    let across := 1 <<< chroma.shifts.1
    let down := 1 <<< chroma.shifts.2
    s!"{chroma} requires luma size divisible by {across}x{down}"
  | uncountable => "sample count overflows"
  | stated text => text

/-- A sample format that no frame can have. -/
inductive FormatFault
  /-- A fixed format of an unsupported depth. -/
  | bitDepth (depth : Nat)
  /-- A format described in words. -/
  | stated (text : String)
deriving DecidableEq, Repr

/-- The wording of a format fault. -/
def FormatFault.message : FormatFault → String
  | bitDepth depth => s!"{depth}-bit fixed point (supported: 8..=16)"
  | stated text => text

/-- One side of a disagreement about the samples of a plane. -/
inductive PlaneContent
  /-- A buffer of so many samples of a kind. -/
  | buffer (kind : SampleKind) (count : Nat)
  /-- What a plane of a format should hold. -/
  | planeOf (component : Component) (format : SampleFormat)
  /-- The kinds held by the plane of the source and by that of the destination. -/
  | kinds (source destination : SampleKind)
  /-- Contents described in words. -/
  | stated (text : String)
deriving DecidableEq, Repr

/-- The wording of a plane's contents. -/
def PlaneContent.message : PlaneContent → String
  | buffer kind count => s!"{kind.label} x {count}"
  | planeOf component format => s!"{component} plane of {format}"
  | kinds source destination => s!"{source.label} / {destination.label}"
  | stated text => text

/-- Why a frame, a plane, a format or a siting is refused. -/
inductive FrameError
  /-- The dimensions are not those of a frame. -/
  | invalidDimensions (width height : Nat) (reason : GeometryFault)
  /-- The sample format is not supported. -/
  | unsupportedFormat (format : FormatFault)
  /-- The code names no chroma location. -/
  | invalidChromaLocation (code : Nat)
  /-- A plane does not hold the samples it should. -/
  | planeMismatch (expected got : PlaneContent)
deriving DecidableEq, Repr

namespace FrameError

/-- The wording of a frame error. -/
def message : FrameError → String
  | invalidDimensions width height reason =>
    s!"invalid dimensions: {width}x{height} ({reason.message})"
  | unsupportedFormat format => s!"unsupported sample format: {format.message}"
  | invalidChromaLocation code => s!"invalid chroma location {code} (expected 0..=5)"
  | planeMismatch expected got =>
    s!"plane mismatch: expected {expected.message}, got {got.message}"

/-- The class of a frame error. -/
def label : FrameError → String
  | invalidDimensions .. => "InvalidDimensions"
  | unsupportedFormat _ => "UnsupportedFormat"
  | invalidChromaLocation _ => "InvalidChromaLocation"
  | planeMismatch .. => "PlaneMismatch"

end FrameError

/-- Why a new frame is not made. -/
inductive BlankFault
  /-- The size is refused. -/
  | refused (error : FrameError)
  /-- The samples of a plane take more bytes than a buffer has. -/
  | unallocatable
deriving DecidableEq, Repr

/-- The wording of the fault of a new frame. -/
def BlankFault.message : BlankFault → String
  | refused error => error.message
  | unallocatable => "capacity overflow"

end PlanarVideo
