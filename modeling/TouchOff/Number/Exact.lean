/-!
# Exact values

A double as an exact binary number: a sign, a natural mantissa and a power of two (`Exact`). The
rules on numbers that answers show — which digits are written, how a quotient is rounded — are
stated on this form in exact integer arithmetic, so that no rule rests on rounded steps.
-/

namespace TouchOff

/-- What a double stands for: not a number, an infinity, or `mantissa * 2 ^ exponent` with a sign.
A zero has a sign too. -/
inductive Exact where
  | nan
  | infinite (negative : Bool)
  | finite (negative : Bool) (mantissa : Nat) (exponent : Int)
deriving DecidableEq, Repr

namespace Exact

/-- Reads sign, exponent and fraction from the bits of a double. -/
def ofBits (bits : UInt64) : Exact :=
  let negative := bits >>> 63 != 0
  let scale := ((bits >>> 52) &&& 0x7FF).toNat
  let fraction := (bits &&& 0xFFFFFFFFFFFFF).toNat
  if scale == 0x7FF then
    if fraction == 0 then .infinite negative else .nan
  else if scale == 0 then .finite negative fraction (-1074)
  else .finite negative (0x10000000000000 + fraction) (scale - 1075)

/-- The exact value of a double. -/
def ofFloat (x : Float) : Exact :=
  ofBits x.toBits

end Exact

/-- The double nearest to `mantissa * 2 ^ exponent`. -/
def floatOfBinary (mantissa : Nat) (exponent : Int) : Float :=
  if 0 ≤ exponent then Float.ofScientific (mantissa * Nat.pow 2 exponent.toNat) false 0
  else Float.ofScientific (mantissa * Nat.pow 5 (-exponent).toNat) true (-exponent).toNat

/-- How a quotient half way between two whole numbers is rounded. -/
inductive Tie where
  | toEven
  | awayFromZero
deriving DecidableEq, Repr

/-- The whole number nearest to `numerator / denominator`. -/
def roundedQuotient (tie : Tie) (numerator denominator : Nat) : Nat :=
  let whole := numerator / denominator
  match compare (2 * (numerator % denominator)) denominator with
  | .lt => whole
  | .gt => whole + 1
  | .eq =>
    match tie with
    | .toEven => whole + whole % 2
    | .awayFromZero => whole + 1

/-- The whole number nearest to `mantissa * 2 ^ exponent * scale`. -/
def roundedBinary (tie : Tie) (mantissa : Nat) (exponent : Int) (scale : Nat) : Nat :=
  roundedQuotient tie (mantissa * scale * Nat.pow 2 exponent.toNat) (Nat.pow 2 (-exponent).toNat)

end TouchOff
