import TouchOff.Number.Exact

/-!
# Decimal text of a double

Two ways to write a double. `shortest` writes the fewest digits that read back as the same double,
never with an exponent; it serves where the operator is shown a setting or a bound. `fixed` rounds
the exact value to a given number of places; it serves where a position is shown or recorded.
-/

namespace TouchOff

/-- A decimal number `digits * 10 ^ exponent`. -/
structure Decimal where
  digits : Nat
  exponent : Int
deriving DecidableEq, Repr

namespace Decimal

/-- The number of decimal digits of a natural number; one for zero. -/
def length (n : Nat) : Nat :=
  (Nat.toDigits 10 n).length

/-- Compares `d` with `mantissa * 2 ^ exponent`, exactly. -/
def compareBinary (d : Decimal) (mantissa : Nat) (exponent : Int) : Ordering :=
  compare (d.digits * Nat.pow 10 d.exponent.toNat * Nat.pow 2 (-exponent).toNat)
    (mantissa * Nat.pow 2 exponent.toNat * Nat.pow 10 (-d.exponent).toNat)

/-- Whether a decimal is among the numbers whose nearest double is `mantissa * 2 ^ exponent`. The
gap below a power of two is half the gap above it. The ends of the interval belong to it if the
mantissa is even. -/
def readsBack (mantissa : Nat) (exponent : Int) (d : Decimal) : Bool :=
  let narrow := mantissa == 0x10000000000000 && exponent > -1074
  let low := d.compareBinary (4 * mantissa - if narrow then 1 else 2) (exponent - 2)
  let high := d.compareBinary (4 * mantissa + 2) (exponent - 2)
  if mantissa % 2 == 0 then low != .lt && high != .gt else low == .gt && high == .lt

/-- The decimal exponent of the leading digit of `numerator / denominator`, which is not zero. -/
def leadingExponent (numerator denominator : Nat) : Int :=
  if denominator ≤ numerator then length (numerator / denominator) - 1
  else -(length ((denominator + numerator - 1) / numerator - 1) : Int)

/-- The multiple of `10 ^ place` that reads back, if one of the two next to the value does; of two
the nearer, and the upper one if they are equally near. -/
def atPlace? (mantissa : Nat) (exponent place : Int) : Option Decimal :=
  let numerator := mantissa * Nat.pow 2 exponent.toNat * Nat.pow 10 (-place).toNat
  let denominator := Nat.pow 2 (-exponent).toNat * Nat.pow 10 place.toNat
  let below : Decimal := ⟨numerator / denominator, place⟩
  let above : Decimal := ⟨numerator / denominator + 1, place⟩
  match readsBack mantissa exponent below, readsBack mantissa exponent above with
  | true, true => if 2 * (numerator % denominator) < denominator then some below else some above
  | true, false => some below
  | false, true => some above
  | false, false => none

/-- The shortest decimal that reads back as `mantissa * 2 ^ exponent`, which is not zero. The search
starts one place above the leading digit, for values just below a power of ten, and seventeen digits
are enough for a double. -/
def shortestOf (mantissa : Nat) (exponent : Int) : Decimal :=
  let lead := leadingExponent (mantissa * Nat.pow 2 exponent.toNat) (Nat.pow 2 (-exponent).toNat)
  ((List.range 18).findSome? fun n : Nat => atPlace? mantissa exponent (lead + 1 - n)).getD
    ⟨mantissa * Nat.pow 2 exponent.toNat, 0⟩

/-- Writes a natural number with its digits from `place` on behind the point, and a digit in front
of the point in any case. -/
def pointed (n place : Nat) : String :=
  let digits := Nat.toDigits 10 n
  let padded := List.replicate (place + 1 - digits.length) '0' ++ digits
  let whole := padded.length - place
  .ofList (padded.take whole ++ if place == 0 then [] else '.' :: padded.drop whole)

/-- Writes a decimal in positions, without an exponent. -/
def positional (d : Decimal) : String :=
  if 0 ≤ d.exponent then pointed (d.digits * Nat.pow 10 d.exponent.toNat) 0
  else pointed d.digits (-d.exponent).toNat

end Decimal

/-- The sign that stands in front of a number. -/
def signText (negative : Bool) : String :=
  if negative then "-" else ""

/-- The fewest digits that read back as the same double, in positions: `5`, `0.2`, `-0`, `inf`. -/
def shortest (x : Float) : String :=
  match Exact.ofFloat x with
  | .nan => "NaN"
  | .infinite negative => signText negative ++ "inf"
  | .finite negative 0 _ => signText negative ++ "0"
  | .finite negative mantissa exponent =>
    signText negative ++ (Decimal.shortestOf mantissa exponent).positional

/-- The exact value rounded to `places` decimal places; an exact half goes to the even neighbour.
A value that rounds to zero keeps its sign. -/
def fixed (places : Nat) (x : Float) : String :=
  match Exact.ofFloat x with
  | .nan => "NaN"
  | .infinite negative => signText negative ++ "inf"
  | .finite negative mantissa exponent =>
    signText negative ++
      Decimal.pointed (roundedBinary .toEven mantissa exponent (Nat.pow 10 places)) places

end TouchOff
