/-!
# Rounding a float to the nearest integer

`nearestInt? x` is the integer nearest to `x`, computed exactly on the sign, mantissa and
exponent of `x`; a half goes away from zero.  NaN and the infinities have no nearest integer.

`nearestInt32?` asks in addition that the integer fit a 32-bit word, and `nearestUpTo top`
saturates into `[0, top]`, which is how a nominal level becomes an unsigned sample.
-/

namespace PlanarVideo.Numeric

open Float.Model

/-- The integer nearest to `mantissa * 2 ^ exponent`, a half going up. -/
def nearestMagnitude (mantissa : Nat) (exponent : Int) : Nat :=
  if 0 ≤ exponent then
    mantissa <<< exponent.toNat
  else
    (mantissa + (1 <<< ((-exponent).toNat - 1))) >>> (-exponent).toNat

/-- The integer nearest to `x`, a half going away from zero; `none` for NaN and the infinities. -/
def nearestInt? (x : Float) : Option Int :=
  match x.toModel.unpack with
  | .zero _ => some 0
  | .finite sign mantissa exponent _ => some (sign.apply (nearestMagnitude mantissa exponent))
  | .infinity _ => none
  | .notANumber => none

/-- The 32-bit integer nearest to `x`, if `x` is finite and that integer fits. -/
def nearestInt32? (x : Float) : Option Int32 :=
  match nearestInt? x with
  | some n =>
    if Int32.minValue.toInt ≤ n ∧ n ≤ Int32.maxValue.toInt then some (Int32.ofInt n) else none
  | none => none

/-- The integer of `[0, top]` nearest to `x`.  An infinity saturates and NaN becomes zero. -/
def nearestUpTo (top : Nat) (x : Float) : Nat :=
  match nearestInt? x with
  | some n => min n.toNat top
  | none => if 0 < x then top else 0

end PlanarVideo.Numeric
