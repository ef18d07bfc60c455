/-!
# Double-precision numbers, exactly

A double is kept as data, so that its text, its order and its equality with integers are computed
without rounding: a finite one is `± mantissa · 2 ^ exponent`.

* `Double.ofRatio`, `Double.ofDecimal`: the double nearest to a quotient or to a decimal numeral, a
  tie going to the even mantissa.
* `Double.eqv`, `Double.eqvInt`: equality of what is meant; the two zeros are equal, and so are two
  NaNs of the same payload.
* `fitsDouble`: the integers that round to a finite double.
-/

namespace ShapeTypes

/-- A double-precision number. In a finite one the mantissa is below `2 ^ 53` and the exponent lies
between `-1074` and `971`; unless the exponent is `-1074`, the mantissa is at least `2 ^ 52`. -/
inductive Double where
  /-- Not a number, with the payload that tells it from others of its kind. -/
  | nan (payload : Nat)
  /-- An infinity, with its sign. -/
  | infinity (negative : Bool)
  /-- The number `± mantissa · 2 ^ exponent`. -/
  | finite (negative : Bool) (mantissa : Nat) (exponent : Int)
deriving DecidableEq

namespace Double

/-- The least exponent of a finite double. -/
def minExponent : Int := -1074

/-- The greatest exponent of a finite double. -/
def maxExponent : Int := 971

/-- The zero of a sign. -/
def zero (negative : Bool) : Double := .finite negative 0 minExponent

/-- Numerator and denominator of `numerator / denominator / 2 ^ exponent`. -/
def scaled (numerator denominator : Nat) (exponent : Int) : Nat × Nat :=
  if 0 ≤ exponent then (numerator, denominator * Nat.pow 2 exponent.toNat)
  else (numerator * Nat.pow 2 (-exponent).toNat, denominator)

/-- The integer nearest to a quotient, of two equally near ones the even one. -/
def roundHalfEven (numerator denominator : Nat) : Nat :=
  let quotient := numerator / denominator
  let twice := 2 * (numerator % denominator)
  if twice < denominator then quotient
  else if denominator < twice then quotient + 1
  else quotient + quotient % 2

/-- The greatest `e` with `2 ^ e ≤ numerator / denominator`. -/
def log2Ratio (numerator denominator : Nat) : Int :=
  let estimate : Int := (numerator.log2 : Int) - denominator.log2
  let (n, d) := scaled numerator denominator estimate
  if n < d then estimate - 1 else estimate

/-- The double nearest to `± numerator / denominator`, a tie going to the even mantissa. -/
def ofRatio (negative : Bool) (numerator denominator : Nat) : Double :=
  if numerator = 0 then zero negative
  else
    let exponent := max (log2Ratio numerator denominator - 52) minExponent
    let (n, d) := scaled numerator denominator exponent
    let mantissa := roundHalfEven n d
    let (mantissa, exponent) :=
      if mantissa = Nat.pow 2 53 then (Nat.pow 2 52, exponent + 1) else (mantissa, exponent)
    if maxExponent < exponent then .infinity negative else .finite negative mantissa exponent

/-- The double nearest to `± digits · 10 ^ exponent`. Far outside the range of doubles the answer is
an infinity or a zero, and no power of ten is computed. -/
def ofDecimal (negative : Bool) (digits : Nat) (exponent : Int) : Double :=
  if digits = 0 then zero negative
  else if 400 < exponent then .infinity negative
  else if exponent + digits.log2 < -400 then zero negative
  else if 0 ≤ exponent then ofRatio negative (digits * Nat.pow 10 exponent.toNat) 1
  else ofRatio negative digits (Nat.pow 10 (-exponent).toNat)

/-- The number is neither infinite nor NaN. -/
def isFinite : Double → Bool
  | .finite .. => true
  | _ => false

/-- The number is zero, of either sign. -/
def isZero : Double → Bool
  | .finite _ mantissa _ => mantissa == 0
  | _ => false

/-- The two doubles mean the same: the two zeros do, and NaN means the same as itself, but not the
same as a NaN of another payload. -/
def eqv (x y : Double) : Bool := x == y || (x.isZero && y.isZero)

/-- The double and the integer mean the same number. -/
def eqvInt : Double → Int → Bool
  | .finite negative mantissa exponent, n =>
    let (m, d) := scaled n.natAbs 1 exponent
    m == mantissa * d && (mantissa == 0 || negative == decide (n < 0))
  | _, _ => false

@[simp] theorem isFinite_finite (s : Bool) (m : Nat) (q : Int) :
    (finite s m q).isFinite = true := rfl

@[simp] theorem isFinite_nan (payload : Nat) : (nan payload).isFinite = false := rfl

@[simp] theorem isFinite_infinity (s : Bool) : (infinity s).isFinite = false := rfl

end Double

/-- The integer rounds to a finite double: it lies below the midpoint between the greatest double
and the power of two above it. -/
def fitsDouble (n : Int) : Bool := decide (n.natAbs < Nat.pow 2 1024 - Nat.pow 2 970)

end ShapeTypes
