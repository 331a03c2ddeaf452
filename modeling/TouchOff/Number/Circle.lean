import TouchOff.Number.Exact

/-!
# Sine and cosine

The sine and the cosine of an angle as doubles. Both are worked out in fixed-point arithmetic far
beyond the precision of a double, which leaves two doubles, the last one before the value and the
first one after it. The machine's own function chooses between the two (`chosen`), so an answer is
always one of the doubles next to the value, whatever the machine does.
-/

namespace TouchOff

namespace Circle

/-- The sum of `rounds` terms of the series of sine or cosine from `term` on. The next term is this
one times `square` and divided by `k` and `k + 1`, with its sign changed. -/
def series (places : Nat) (square : Int) : (rounds k : Nat) → (term : Int) → Int
  | 0, _, _ => 0
  | rounds + 1, k, term =>
    term + series places square rounds (k + 2)
      (-(term * square / Int.pow 2 places / (k * (k + 1) : Nat)))

/-- The sum of `rounds` terms of the series of the arc tangent of `1 / n` from `power / k` on, where
`power` is the power of `1 / n` with exponent `k`, with the sign of its term. -/
def arcTangent (n : Nat) : (rounds k : Nat) → (power : Int) → Int
  | 0, _, _ => 0
  | rounds + 1, k, power => power / k + arcTangent n rounds (k + 2) (-(power / (n * n : Nat)))

/-- A quarter of the circumference of the unit circle in units of `2 ^ -places`, from the arc
tangents of a fifth and of one part in 239. -/
def quarter (places : Nat) : Int :=
  let unit : Int := Int.pow 2 (places + 16)
  let eighth := 4 * arcTangent 5 places 1 (unit / 5) - arcTangent 239 places 1 (unit / 239)
  2 * eighth / 0x10000

/-- Sine and cosine in units of `2 ^ -places` of an angle in the same units. -/
def sinCos (places : Nat) (angle : Int) : Int × Int :=
  let turn := angle / quarter places
  let rest := angle % quarter places
  let square := rest * rest / Int.pow 2 places
  let s := series places square places 2 rest
  let c := series places square places 1 (Int.pow 2 places)
  match (turn % 4).toNat with
  | 0 => (s, c)
  | 1 => (c, -s)
  | 2 => (-s, -c)
  | _ => (-c, s)

/-- The double next to `value * 2 ^ -places` on the side of zero, and the one on the other side. If
the value is a double, it is both of them. -/
def neighbours (places : Nat) (value : Int) : Float × Float :=
  let size := value.natAbs
  let drop := size.log2 - 52
  let near := size >>> drop
  let far := if near <<< drop == size then near else near + 1
  let exponent : Int := drop - places
  let sign := fun x : Float => if value < 0 then -x else x
  (sign (floatOfBinary near exponent), sign (floatOfBinary far exponent))

/-- One of the doubles next to a value: the far one if `proposed` is that one. -/
def chosen (proposed : Float) (sides : Float × Float) : Float :=
  if proposed = sides.2 then sides.2 else sides.1

/-- Applies `f` to the fixed-point sine and cosine of a finite angle that is not zero. -/
def neighboursOf (part : Int × Int → Int) (negative : Bool) (mantissa : Nat) (exponent : Int) :
    Float × Float :=
  let places := exponent.natAbs + 320
  let size : Int := mantissa * Int.pow 2 (places + exponent).toNat
  neighbours places (part (sinCos places (if negative then -size else size)))

end Circle

/-- The sine of an angle in radians. -/
def sine (x : Float) : Float :=
  match Exact.ofFloat x with
  | .finite _ 0 _ => x
  | .finite negative mantissa exponent =>
    Circle.chosen x.sin (Circle.neighboursOf Prod.fst negative mantissa exponent)
  | _ => 0.0 / 0.0

/-- The cosine of an angle in radians. -/
def cosine (x : Float) : Float :=
  match Exact.ofFloat x with
  | .finite _ 0 _ => 1.0
  | .finite negative mantissa exponent =>
    Circle.chosen x.cos (Circle.neighboursOf Prod.snd negative mantissa exponent)
  | _ => 0.0 / 0.0

/-- An angle in radians from one in degrees. -/
def radians (degrees : Float) : Float :=
  degrees * (3.141592653589793 / 180.0)

end TouchOff
