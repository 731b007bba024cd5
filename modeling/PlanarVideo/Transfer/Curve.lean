import PlanarVideo.Transfer.PerceptualQuantizer
import PlanarVideo.Transfer.HybridLogGamma
import PlanarVideo.Numeric.Precision

/-!
# Transfer curves

A transfer curve relates a signal to linear light, in both directions.  `Standard` lists the
curves by name.  Single-precision samples pass through double precision, sample by sample.
-/

namespace PlanarVideo

open Numeric

/-- A transfer curve. -/
inductive Curve
  /-- A linear toe and a power segment. -/
  | toeGamma (constants : ToeGamma)
  /-- The perceptual quantizer. -/
  | pq
  /-- Hybrid log-gamma. -/
  | hlg

namespace Curve

/-- The linear light of a signal. -/
def decode : Curve → Float → Float
  | toeGamma constants => constants.decode
  | pq => PerceptualQuantizer.decode
  | hlg => HybridLogGamma.decode

/-- The signal of a linear light. -/
def encode : Curve → Float → Float
  | toeGamma constants => constants.encode
  | pq => PerceptualQuantizer.encode
  | hlg => HybridLogGamma.encode

/-- Decodes every sample. -/
def decodeSamples (curve : Curve) (samples : Array Float32) : Array Float32 :=
  samples.map fun x => toSingle (curve.decode (toDouble x))

/-- Encodes every sample. -/
def encodeSamples (curve : Curve) (samples : Array Float32) : Array Float32 :=
  samples.map fun x => toSingle (curve.encode (toDouble x))

end Curve

/-- The named curves. -/
inductive Standard
  /-- ST 240M. -/
  | st240
  /-- BT.709. -/
  | bt709
  /-- BT.2020. -/
  | bt2020
  /-- sRGB. -/
  | srgb
  /-- ST 2084. -/
  | pq
  /-- BT.2100, hybrid log-gamma. -/
  | hlg
deriving DecidableEq, Repr

namespace Standard

instance : Inhabited Standard := ⟨st240⟩

/-- Every named curve. -/
def all : List Standard := [st240, bt709, bt2020, srgb, pq, hlg]

/-- The short name. -/
def label : Standard → String
  | st240 => "st240"
  | bt709 => "bt709"
  | bt2020 => "bt2020"
  | srgb => "srgb"
  | pq => "pq"
  | hlg => "hlg"

/-- The curve of a name. -/
def curve : Standard → Curve
  | st240 => .toeGamma .st240
  | bt709 => .toeGamma .bt709
  | bt2020 => .toeGamma .bt2020
  | srgb => .toeGamma .srgb
  | pq => .pq
  | hlg => .hlg

end Standard
end PlanarVideo
