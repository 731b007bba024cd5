import PlanarVideo.FrameStore
import PlanarVideo.Transfer.Curve
import PlanarVideo.Proofs.TapTable.Accepted
import PlanarVideo.Proofs.TapSum.Exact
import PlanarVideo.Proofs.Decimator.Row
import PlanarVideo.Proofs.Decimator.Plane
import PlanarVideo.Proofs.Decimator.Frame
import PlanarVideo.Proofs.Decimator.Picture
import PlanarVideo.Proofs.FrameStore.Decimation
import PlanarVideo.Proofs.TapSum.Window
import PlanarVideo.Proofs.RangeGuard.Plain
import PlanarVideo.Proofs.Decimator.Border
import PlanarVideo.Proofs.FrameStore.History
import PlanarVideo.Proofs.Numeric.FloatValue
import PlanarVideo.Proofs.Numeric.FloatRounding
import PlanarVideo.Proofs.Numeric.FloatConversion
import PlanarVideo.Proofs.RangeGuard.LocalRange
import PlanarVideo.Proofs.Decimator.Confined
import PlanarVideo.Proofs.Decimator.Influence
import PlanarVideo.Proofs.TapSum.Overshoot
import PlanarVideo.Proofs.Numeric.FloatInteger
import PlanarVideo.Proofs.TapTable.Peak
import PlanarVideo.Proofs.TapTable.Derived
import PlanarVideo.Proofs.Decimator.IntegerRow
import PlanarVideo.Proofs.Decimator.Depth
import PlanarVideo.Proofs.TapSum.Mirror
import PlanarVideo.Proofs.TapTable.Stated
import PlanarVideo.Proofs.Decimator.Clipped
import PlanarVideo.Proofs.RangeGuard.Nested
import PlanarVideo.Proofs.Numeric.FloatScaling
import PlanarVideo.Proofs.Transfer.Toe
import PlanarVideo.Proofs.TestPattern.Pair
