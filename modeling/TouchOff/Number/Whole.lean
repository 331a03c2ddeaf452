import TouchOff.Number.Exact

/-!
# Whole steps

`nearestWhole` is the whole number of steps nearest to a quotient, and `lesser` and `greater` choose
between two doubles of which one may be no number.
-/

namespace TouchOff

/-- The smallest step count that a signed 64-bit register holds. -/
def leastCount : Int := -0x8000000000000000

/-- The greatest step count that a signed 64-bit register holds. -/
def greatestCount : Int := 0x7FFFFFFFFFFFFFFF

/-- The whole number nearest to `x`; a half goes away from zero. Beyond the range of a step count
the nearest count is taken, and zero if `x` is not a number. -/
def nearestWhole (x : Float) : Int :=
  match Exact.ofFloat x with
  | .nan => 0
  | .infinite negative => if negative then leastCount else greatestCount
  | .finite negative mantissa exponent =>
    let n : Int := roundedBinary .awayFromZero mantissa exponent 1
    max leastCount (min greatestCount (if negative then -n else n))

/-- The smaller of two numbers, or the one that is a number if the other is not. Of two equal
numbers, such as the zeros of both signs, it is the second. -/
def lesser (x y : Float) : Float :=
  if x.isNaN || y ≤ x then y else x

/-- The larger of two numbers, or the one that is a number if the other is not. Of two equal
numbers, such as the zeros of both signs, it is the second. -/
def greater (x y : Float) : Float :=
  if x.isNaN || x ≤ y then y else x

end TouchOff
