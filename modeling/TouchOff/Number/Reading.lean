import TouchOff.Number.Exact

/-!
# Reading numbers

`readFloat?` reads the text of a number: a sign, digits with at most one point, and an exponent, or
one of the words `inf`, `infinity` and `nan` in any letter case. Blanks, digit separators and other
bases are refused. The double nearest to the decimal is the answer; a half way case goes to the
even mantissa, and what is too large reads as an infinity.
-/

namespace TouchOff

/-- The digits at the front of a text, and what follows them. -/
def spanDigits (cs : List Char) : List Char × List Char :=
  (cs.takeWhile Char.isDigit, cs.dropWhile Char.isDigit)

/-- The number that a list of digits writes, most significant first. -/
def digitsValue (cs : List Char) : Nat :=
  cs.foldl (fun n c => 10 * n + (c.toNat - '0'.toNat)) 0

/-- The sign at the front of a text, true for minus, and what follows it. -/
def spanSign : List Char → Bool × List Char
  | '-' :: rest => (true, rest)
  | '+' :: rest => (false, rest)
  | cs => (false, cs)

/-- The exponent that a list of digits writes. Once it is past 65535 the digits that follow are not
counted: it is far beyond the doubles by then. -/
def exponentValue (cs : List Char) : Nat :=
  cs.foldl (fun n c => if n ≤ 65535 then 10 * n + (c.toNat - '0'.toNat) else n) 0

/-- Reads a whole text as an exponent part: nothing, or `e`, a sign if there is one, and digits. -/
def readExponent? : List Char → Option Int
  | [] => some 0
  | mark :: cs =>
    let (negative, rest) := spanSign cs
    let (digits, rest) := spanDigits rest
    if (mark == 'e' || mark == 'E') && !digits.isEmpty && rest.isEmpty then
      some (if negative then -exponentValue digits else exponentValue digits)
    else none

/-- An unsigned decimal: its digits without the point, and the place of the last one. -/
def readDecimal? (cs : List Char) : Option (List Char × Int) :=
  let (whole, rest) := spanDigits cs
  let (fraction, rest) :=
    match rest with
    | '.' :: rest => spanDigits rest
    | _ => ([], rest)
  if whole.isEmpty && fraction.isEmpty then none
  else (readExponent? rest).map fun e => (whole ++ fraction, e - fraction.length)

/-- The double nearest to a decimal. Decimals far beyond the largest double or far below the
smallest one are settled by the place of their leading digit. -/
def floatOfDecimal (digits : List Char) (place : Int) : Float :=
  let digits := digits.dropWhile (· == '0')
  let lead := digits.length + place
  if digits.isEmpty || lead < -400 then 0.0
  else if 400 < lead then Float.ofScientific 1 false 400
  else Float.ofScientific (digitsValue digits) (place < 0) place.natAbs

/-- An unsigned number or word. -/
def readUnsigned? (cs : List Char) : Option Float :=
  match readDecimal? cs with
  | some (digits, place) => some (floatOfDecimal digits place)
  | none =>
    let word := String.ofList (cs.map Char.toLower)
    if word == "inf" || word == "infinity" then some (Float.ofScientific 1 false 400)
    else if word == "nan" then some (0.0 / 0.0)
    else none

/-- The number that a text writes, if it writes one. -/
def readFloat? (s : String) : Option Float :=
  let (negative, rest) := spanSign s.toList
  (readUnsigned? rest).map fun x => if negative then -x else x

end TouchOff
