import ShapeTypes.Number.Double
import ShapeTypes.Number.Integer

/-!
# The text of a double

The digits are the fewest that read back as the same double; of several such decimals the nearest
is taken, and of two equally near ones the one with the even last digit.

* `Double.shortest`: those digits, as an integer times a power of ten.
* `NumeralStyle`: the choices that the digits leave open, and `Double.numeral`, the text in a style.
* `NumeralStyle.message`, `NumeralStyle.source`: the styles of messages and of generated source.
  They agree on finite numbers.
-/

namespace ShapeTypes

namespace Double

/-- Numerator and denominator of `numerator / denominator / 10 ^ exponent`. -/
def scaledByTen (numerator denominator : Nat) (exponent : Int) : Nat × Nat :=
  if 0 ≤ exponent then (numerator, denominator * Nat.pow 10 exponent.toNat)
  else (numerator * Nat.pow 10 (-exponent).toNat, denominator)

/-- The least `k` with `mantissa · 2 ^ exponent < 10 ^ k`, the mantissa being positive. The estimate
from the binary logarithm is at most one off. -/
def decimalPoint (mantissa : Nat) (exponent : Int) : Int :=
  let (n, d) := scaled mantissa 1 (-exponent)
  let estimate := ((mantissa.log2 : Int) + exponent) * 30103 / 100000
  let below (k : Int) : Bool :=
    let (n, d) := scaledByTen n d k
    decide (n < d)
  if below estimate then estimate
  else if below (estimate + 1) then estimate + 1
  else estimate + 2

/-- The interval of numbers that round to a positive double, over a common denominator: its ends,
the double, the denominator, and whether the ends belong to it. The lower end is nearer where the
spacing of doubles changes. -/
structure Neighbourhood where
  /-- The lower end. -/
  low : Nat
  /-- The double itself. -/
  middle : Nat
  /-- The upper end. -/
  high : Nat
  /-- The common denominator. -/
  denominator : Nat
  /-- The ends round to the double, its mantissa being even. -/
  closed : Bool

/-- The neighbourhood of `mantissa · 2 ^ exponent`. -/
def neighbourhood (mantissa : Nat) (exponent : Int) : Neighbourhood :=
  let gap := if mantissa = Nat.pow 2 52 ∧ minExponent < exponent then 1 else 2
  let shift := exponent - 2
  let factor := if 0 ≤ shift then Nat.pow 2 shift.toNat else 1
  { low := (4 * mantissa - gap) * factor
    middle := 4 * mantissa * factor
    high := (4 * mantissa + 2) * factor
    denominator := if 0 ≤ shift then 1 else Nat.pow 2 (-shift).toNat
    closed := mantissa % 2 = 0 }

/-- The multiple of `10 ^ exponent` nearest to the middle among its two neighbours on that grid that
lie in the neighbourhood, as a multiplier. -/
def Neighbourhood.onGrid? (hood : Neighbourhood) (exponent : Int) : Option Nat :=
  let (n, d) := scaledByTen hood.middle hood.denominator exponent
  let (low, _) := scaledByTen hood.low hood.denominator exponent
  let (high, _) := scaledByTen hood.high hood.denominator exponent
  let below := n / d
  let fits (multiplier : Nat) : Bool :=
    if hood.closed then decide (low ≤ multiplier * d) && decide (multiplier * d ≤ high)
    else decide (low < multiplier * d) && decide (multiplier * d < high)
  match fits below, fits (below + 1) with
  | true, true => some (roundHalfEven n d)
  | true, false => some below
  | false, true => some (below + 1)
  | false, false => none

/-- The shortest decimal `digits · 10 ^ power` that reads back as `mantissa · 2 ^ exponent`, the
mantissa being positive. Seventeen digits always do. -/
def shortest (mantissa : Nat) (exponent : Int) : Nat × Int :=
  let point := decimalPoint mantissa exponent
  let hood := neighbourhood mantissa exponent
  let attempt (count : Nat) : Option (Nat × Int) :=
    let power := point - count
    (hood.onGrid? power).map fun digits => (digits, power)
  ((List.range' 1 17).findSome? attempt).getD (0, 0)

end Double

/-- How a double is written once its digits are known. -/
structure NumeralStyle where
  /-- The least position of the decimal point, counted from the first digit, that is written without
  an exponent. -/
  leastPoint : Int
  /-- The greatest such position. -/
  greatestPoint : Int
  /-- The least number of digits of an exponent. -/
  exponentDigits : Nat
  /-- The text of NaN. -/
  nan : String
  /-- The text of infinity, without its sign. -/
  infinity : String

namespace NumeralStyle

/-- The style of messages: an exponent from `1e+16` up and below `0.0001`, always a fraction without
one. -/
def message : NumeralStyle where
  leastPoint := -3
  greatestPoint := 16
  exponentDigits := 2
  nan := "nan"
  infinity := "inf"

/-- The style of generated source: that of messages, but for the names of the numbers that are not
finite. -/
def source : NumeralStyle := { message with nan := "NaN", infinity := "Infinity" }

/-- The digits of an exponent, padded with zeros, after its sign. -/
def exponentText (style : NumeralStyle) (exponent : Int) : List Char :=
  let digits := decimal exponent.natAbs
  (if exponent < 0 then '-' else '+') ::
    (List.replicate (style.exponentDigits - digits.length) '0' ++ digits)

/-- The text of the decimal whose digits are `digits`, the decimal point standing `point` digits
after the first one's left edge. -/
def layout (style : NumeralStyle) (digits : List Char) (point : Int) : List Char :=
  if style.leastPoint ≤ point ∧ point ≤ style.greatestPoint then
    if point ≤ 0 then
      '0' :: '.' :: (List.replicate (-point).toNat '0' ++ digits)
    else
      let whole := digits.take point.toNat
      let fraction := digits.drop point.toNat
      whole ++ List.replicate (point.toNat - whole.length) '0' ++
        '.' :: (if fraction.isEmpty then ['0'] else fraction)
  else
    match digits with
    | [] => []
    | first :: rest =>
      first :: ((if rest.isEmpty then [] else '.' :: rest) ++ 'e' :: style.exponentText (point - 1))

end NumeralStyle

namespace Double

/-- The text of a finite double without its sign. -/
def magnitude (style : NumeralStyle) (mantissa : Nat) (exponent : Int) : List Char :=
  if mantissa = 0 then style.layout ['0'] 1
  else
    let (digits, power) := shortest mantissa exponent
    let text := decimal digits
    let trimmed := (text.reverse.dropWhile (· == '0')).reverse
    style.layout trimmed (power + text.length)

/-- The text of a double. -/
def numeral (style : NumeralStyle) : Double → String
  | .nan _ => style.nan
  | .infinity negative => (if negative then "-" else "") ++ style.infinity
  | .finite negative mantissa exponent =>
    (if negative then "-" else "") ++ String.ofList (magnitude style mantissa exponent)

end Double

end ShapeTypes
