import PlanarVideo.Numeric.Rounding
import PlanarVideo.Numeric.Precision

/-!
# Sample kinds

A plane stores its samples as single-precision floats, 16-bit words or bytes.  Each kind has an
accumulator type in which tap sums are formed: double precision for floats, a signed 64-bit
word for the unsigned kinds.  This file holds the kinds, the passage between a sample and its
accumulator (`load`, `store`), and the sample that stands for a nominal level (`ofNominal`).
-/

namespace PlanarVideo

open Numeric

/-- How one sample of a plane is stored. -/
inductive SampleKind
  /-- A single-precision float. -/
  | float32
  /-- A 16-bit word, for depths above 8 bits. -/
  | uint16
  /-- A byte. -/
  | uint8
deriving DecidableEq, Repr

namespace SampleKind

/-- The type of a stored sample. -/
@[reducible] def Sample : SampleKind → Type
  | float32 => Float32
  | uint16 => UInt16
  | uint8 => UInt8

/-- The type in which samples are summed. -/
@[reducible] def Acc : SampleKind → Type
  | float32 => Float
  | uint16 => Int64
  | uint8 => Int64

instance : (k : SampleKind) → Add k.Acc
  | float32 => inferInstanceAs (Add Float)
  | uint16 => inferInstanceAs (Add Int64)
  | uint8 => inferInstanceAs (Add Int64)

instance : (k : SampleKind) → Mul k.Acc
  | float32 => inferInstanceAs (Mul Float)
  | uint16 => inferInstanceAs (Mul Int64)
  | uint8 => inferInstanceAs (Mul Int64)

instance : (k : SampleKind) → LT k.Acc
  | float32 => inferInstanceAs (LT Float)
  | uint16 => inferInstanceAs (LT Int64)
  | uint8 => inferInstanceAs (LT Int64)

instance : (k : SampleKind) → (a b : k.Acc) → Decidable (a < b)
  | float32, a, b => inferInstanceAs (Decidable ((a : Float) < b))
  | uint16, a, b => inferInstanceAs (Decidable ((a : Int64) < b))
  | uint8, a, b => inferInstanceAs (Decidable ((a : Int64) < b))

/-- The short name of the storage type. -/
def label : SampleKind → String
  | float32 => "f32"
  | uint16 => "u16"
  | uint8 => "u8"

/-- The bytes that a stored sample takes. -/
def bytes : SampleKind → Nat
  | float32 => 4
  | uint16 => 2
  | uint8 => 1

/-- The sample zero. -/
def blank : (k : SampleKind) → k.Sample
  | float32 => (0 : Float32)
  | uint16 => (0 : UInt16)
  | uint8 => (0 : UInt8)

/-- The empty sum. -/
def zero : (k : SampleKind) → k.Acc
  | float32 => (0 : Float)
  | uint16 => (0 : Int64)
  | uint8 => (0 : Int64)

/-- The value of a sample, in the accumulator type.  It is exact for every kind. -/
def load : (k : SampleKind) → k.Sample → k.Acc
  | float32, x => toDouble x
  | uint16, x => Int64.ofNat x.toNat
  | uint8, x => Int64.ofNat x.toNat

/-- The sample nearest to an accumulated value: rounded for floats, saturated for words. -/
def store : (k : SampleKind) → k.Acc → k.Sample
  | float32, v => toSingle v
  | uint16, v => UInt16.ofNatClamp v.toNatClampNeg
  | uint8, v => UInt8.ofNatClamp v.toNatClampNeg

/-- The sample nearest to a nominal level. -/
def ofNominal : (k : SampleKind) → Float → k.Sample
  | float32, x => toSingle x
  | uint16, x => UInt16.ofNat (nearestUpTo 65535 x)
  | uint8, x => UInt8.ofNat (nearestUpTo 255 x)

/-- `value` moved into `[low, high]`: first raised to `low`, and if it was not below, lowered
to `high`.  A NaN is left alone. -/
def clamp (k : SampleKind) (value low high : k.Acc) : k.Acc :=
  if value < low then low else if high < value then high else value

end SampleKind
end PlanarVideo
