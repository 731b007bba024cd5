import PlanarVideo.RangeGuard
import PlanarVideo.TapTable.Halving

/-!
# Decimators

A decimator halves the horizontal resolution of rows of chroma samples: a primary table, the
phase for which it is meant, and a guard for the overshoot of that table.  It is made from
settings, which name kernels, or from tables.
-/

namespace PlanarVideo

/-- What a decimator is asked to do. -/
structure Settings where
  /-- The kernel of the primary table. -/
  primary : Kernel := .lanczos3
  /-- The kernel of the fallback table. -/
  fallback : Kernel := .bilinear
  /-- The chroma location of the frame, or of its top field. -/
  location : ChromaLocation := .left
  /-- The chroma location of the bottom field, which has no influence. -/
  bottomLocation : ChromaLocation := .left
  /-- How overshoot is corrected. -/
  policy : Option Correction := none
  /-- The range window, if it is not the standard one of the policy. -/
  window : Option RangeSource := none
deriving DecidableEq, Repr

instance : Inhabited Settings := ⟨{}⟩

/-- The settings with one location for both fields. -/
def Settings.withLocation (s : Settings) (location : ChromaLocation) : Settings :=
  { s with location, bottomLocation := location }

/-- A filter that halves rows. -/
structure Decimator where
  /-- The phase of the output samples. -/
  phase : Phase
  /-- The table that filters. -/
  primary : TapTable
  /-- How its overshoot is corrected. -/
  guard : Option RangeGuard

namespace Decimator

/-- The decimator with the given tables. -/
def ofTables (phase : Phase) (primary : TapTable) (fallback : Option TapTable)
    (policy : Option Correction) (window : Option RangeSource) :
    Except DecimationError Decimator :=
  (RangeGuard.ofPolicy policy fallback window).map fun guard => { phase, primary, guard }

/-- The decimator that the settings ask for.  A fallback table is made only for a correction. -/
def ofSettings (s : Settings) : Except DecimationError Decimator := do
  let phase := s.location.phase
  let primary ← (TapTable.halving s.primary phase).mapError .invalidFilter
  let fallback ← match s.policy with
    | none => pure none
    | some _ => (TapTable.halving s.fallback phase).mapError .invalidFilter |>.map some
  ofTables phase primary fallback s.policy s.window

/-- The fallback table, if overshoot is corrected. -/
def fallback? (d : Decimator) : Option TapTable :=
  d.guard.map (·.fallback)

/-- The correction, if any. -/
def policy (d : Decimator) : Option Correction :=
  d.guard.map (·.correction)

/-- The range window, if overshoot is corrected. -/
def window? (d : Decimator) : Option RangeSource :=
  d.guard.map (·.window)

end Decimator
end PlanarVideo
