import PlanarVideo.TapTable.Basic
import PlanarVideo.Frame.Error

/-!
# What can go wrong when chroma is decimated

`DecimationError` gathers the causes: frames that do not match, buffers that are too short,
refused filters, and planes that hold the wrong samples.  The constructor `bounds` stands for an
access outside a buffer; it is there so that its absence from every run on built tables and
well-formed frames is a fact that can be stated.
-/

namespace PlanarVideo

/-- How a filter result outside the local range of its samples is corrected. -/
inductive Correction
  /-- Recompute with the fallback table. -/
  | recompute
  /-- Substitute the result of the fallback table, evaluated alongside. -/
  | blend
  /-- Move the result to the nearer end of the range. -/
  | clamp
deriving DecidableEq, Repr

/-- The name of a correction. -/
def Correction.label : Correction → String
  | recompute => "RecomputeIfOutside"
  | blend => "BlendIfOutside"
  | clamp => "ClampToLocalRange"

/-- Why the buffers of a plane are refused. -/
inductive BufferFault
  /-- Twice the output width is not a size. -/
  | widthOverflow
  /-- The number of samples of a plane is not a size. -/
  | sizeOverflow
  /-- The output buffer is too short for its dimensions. -/
  | shortOutput (held width height needed : Nat)
  /-- The input buffer is too short for its dimensions. -/
  | shortInput (held width height needed : Nat)
  /-- A reason stated in words. -/
  | stated (text : String)
deriving DecidableEq, Repr

/-- The wording of a buffer fault. -/
def BufferFault.message : BufferFault → String
  | widthOverflow => "plane width overflows"
  | sizeOverflow => "plane size overflows"
  | shortOutput held width height needed =>
    s!"output holds {held} samples, {width}x{height} needs {needed}"
  | shortInput held width height needed =>
    s!"input holds {held} samples, {width}x{height} needs {needed}"
  | stated text => text

/-- Why a parameter is refused. -/
inductive ParameterFault
  /-- The correction needs a fallback table. -/
  | missingFallback (correction : Correction)
  /-- A reason stated in words. -/
  | stated (text : String)
deriving DecidableEq, Repr

/-- The wording of a parameter fault. -/
def ParameterFault.message : ParameterFault → String
  | missingFallback correction => s!"{correction.label} requires a fallback filter table"
  | stated text => text

/-- An access outside a buffer. -/
inductive BoundsFault
  /-- An index that is not below the size. -/
  | read (index size : Nat)
  /-- A copy between buffers of different lengths. -/
  | copy (source destination : Nat)
deriving DecidableEq, Repr

/-- The wording of a bounds fault. -/
def BoundsFault.message : BoundsFault → String
  | read index size => s!"index {index} outside {size} samples"
  | copy source destination => s!"copy of {source} samples onto {destination}"

/-- Why a decimation did not take place. -/
inductive DecimationError
  /-- The frames have different sample formats. -/
  | formatMismatch (input output : SampleFormat)
  /-- A plane has not the size that the other frame calls for. -/
  | sizeMismatch (component : Component) (expected actual : Nat × Nat)
  /-- The buffers do not fit the dimensions. -/
  | invalidDimensions (fault : BufferFault)
  /-- The filter is refused. -/
  | invalidFilter (fault : TableFault)
  /-- A parameter is refused. -/
  | invalidParameter (fault : ParameterFault)
  /-- A frame is at fault. -/
  | frame (error : FrameError)
  /-- An access outside a buffer. -/
  | bounds (fault : BoundsFault)
deriving DecidableEq, Repr

namespace DecimationError

/-- The wording of a decimation error. -/
def message : DecimationError → String
  | formatMismatch input output =>
    s!"sample format mismatch: input is {input}, output is {output}"
  | sizeMismatch component expected actual =>
    s!"size mismatch on {component} plane: expected {expected.1}x{expected.2}, " ++
      s!"got {actual.1}x{actual.2}"
  | invalidDimensions fault => s!"invalid dimensions: {fault.message}"
  | invalidFilter fault => s!"invalid filter: {fault.message}"
  | invalidParameter fault => s!"invalid parameter: {fault.message}"
  | frame error => error.message
  | bounds fault => s!"out of bounds: {fault.message}"

/-- The class of a decimation error. -/
def label : DecimationError → String
  | formatMismatch .. => "FormatMismatch"
  | sizeMismatch .. => "SizeMismatch"
  | invalidDimensions _ => "InvalidDimensions"
  | invalidFilter _ => "InvalidFilter"
  | invalidParameter _ => "InvalidParameter"
  | frame error => s!"Core.{error.label}"
  | bounds _ => "OutOfBounds"

/-- Whether two frames disagree in format or size. -/
def isMismatch : DecimationError → Bool
  | formatMismatch .. | sizeMismatch .. => true
  | _ => false

end DecimationError
end PlanarVideo
