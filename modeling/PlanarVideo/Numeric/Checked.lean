/-!
# Arithmetic that reports when a result does not fit its word

Sizes, positions and counts are natural numbers; a computer addresses fewer than `2 ^ 64` of
anything, so the products that give a buffer its length are checked against that bound.  A buffer
has to lie within one half of the address space, so that its bytes are fewer than `2 ^ 63`.
Accumulators are 64-bit signed words; `sum?` and `product?` are the sum and the product where
these fit, and `none` where a word would wrap.
-/

namespace PlanarVideo.Numeric

/-- The number of addressable samples: every size is below it. -/
def addressable : Nat := UInt64.size

/-- The bytes of a buffer are fewer than this, which is half the address space. -/
def byteLimit : Nat := addressable / 2

/-- The product of two sizes, if it is a size. -/
def sizeProduct? (a b : Nat) : Option Nat :=
  if a * b < addressable then some (a * b) else none

/-- Twice a size, or the greatest size if that is not one. -/
def saturatingDouble (a : Nat) : Nat :=
  min (2 * a) (addressable - 1)

/-- The 64-bit word holding `n`, if there is one. -/
def int64? (n : Int) : Option Int64 :=
  if Int64.minValue.toInt ≤ n ∧ n ≤ Int64.maxValue.toInt then some (Int64.ofInt n) else none

/-- The sum of two words, if it does not wrap. -/
def sum? (a b : Int64) : Option Int64 :=
  int64? (a.toInt + b.toInt)

/-- The product of two words, if it does not wrap. -/
def product? (a b : Int64) : Option Int64 :=
  int64? (a.toInt * b.toInt)

/-- The 32-bit word with the value of `n`, if there is one. -/
def int32? (n : Int64) : Option Int32 :=
  if Int32.minValue.toInt ≤ n.toInt ∧ n.toInt ≤ Int32.maxValue.toInt then some n.toInt32 else none

end PlanarVideo.Numeric
