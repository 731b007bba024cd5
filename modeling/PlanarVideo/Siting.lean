import PlanarVideo.Frame.Error

/-!
# Where chroma samples lie

A chroma sample of a horizontally halved plane belongs to a pair of luma columns.  Its
location says where in the picture it was taken; of the location only the horizontal phase
matters to a horizontal filter.
-/

namespace PlanarVideo

/-- The horizontal position of a chroma sample within its pair of luma columns. -/
inductive Phase
  /-- On the even column. -/
  | coSited
  /-- Midway between the two columns. -/
  | interstitial
deriving DecidableEq, Repr

namespace Phase

instance : Inhabited Phase := ⟨coSited⟩

/-- The number of the phase. -/
def index : Phase → Nat
  | coSited => 0
  | interstitial => 1

/-- The distance from the even column, in luma columns. -/
def offset : Phase → Float
  | coSited => 0
  | interstitial => 0.5

/-- The name of the phase. -/
def label : Phase → String
  | coSited => "CoSited"
  | interstitial => "Interstitial"

end Phase

/-- The location of a chroma sample within its block of luma samples, in code order. -/
inductive ChromaLocation
  /-- On the even column, midway between two rows. -/
  | left
  /-- Midway between two columns and two rows. -/
  | center
  /-- On the even column of the upper row. -/
  | topLeft
  /-- Midway between two columns of the upper row. -/
  | top
  /-- On the even column of the lower row. -/
  | bottomLeft
  /-- Midway between two columns of the lower row. -/
  | bottom
deriving DecidableEq, Repr

namespace ChromaLocation

instance : Inhabited ChromaLocation := ⟨left⟩

/-- The six locations in code order. -/
def all : List ChromaLocation := [left, center, topLeft, top, bottomLeft, bottom]

/-- The code of a location. -/
def code : ChromaLocation → Nat
  | left => 0
  | center => 1
  | topLeft => 2
  | top => 3
  | bottomLeft => 4
  | bottom => 5

/-- The location with a given code. -/
def ofCode (code : Nat) : Except FrameError ChromaLocation :=
  match all[code]? with
  | some location => .ok location
  | none => .error (.invalidChromaLocation code)

/-- The horizontal phase of a location. -/
def phase : ChromaLocation → Phase
  | left | topLeft | bottomLeft => .coSited
  | center | top | bottom => .interstitial

/-- The name of a location. -/
def label : ChromaLocation → String
  | left => "Left"
  | center => "Center"
  | topLeft => "TopLeft"
  | top => "Top"
  | bottomLeft => "BottomLeft"
  | bottom => "Bottom"

theorem ofCode_code (location : ChromaLocation) : ofCode location.code = .ok location := by
  cases location <;> rfl

end ChromaLocation
end PlanarVideo
