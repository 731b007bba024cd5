/-!
# Single and double precision

Float samples are stored in single precision and filtered in double precision.  Both
conversions are given on the unpacked form of a float: a finite value is rounded to the target
format, ties to even, and every other value keeps its class and sign.  Widening is exact, since
every single-precision value is a double-precision value.
-/

namespace PlanarVideo.Numeric

open Float.Model

/-- Rounds the finite values to `format`, ties to even; zeros, infinities and NaN stay. -/
def inFormat (format : Format) : UnpackedFloat → UnpackedFloat
  | .finite sign mantissa exponent _ => UnpackedFloat.round format sign mantissa exponent
  | special => special

/-- The single-precision value nearest to `x`; values beyond the range become infinite. -/
def toSingle (x : Float) : Float32 :=
  .ofModel (.pack (inFormat Format.binary32 x.toModel.unpack))

/-- The double-precision value equal to `x`. -/
def toDouble (x : Float32) : Float :=
  .ofModel (.pack (inFormat Format.binary64 x.toModel.unpack))

end PlanarVideo.Numeric
