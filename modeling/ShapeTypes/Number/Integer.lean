/-!
# The text of an integer

* `decimal`: the decimal digits of a natural number; `integerText`: an integer, with its sign.
* `maxIntegerDigits`: the most digits of an integer that is read, or shown in a message.
-/

namespace ShapeTypes

/-- The greatest number of digits of an integer. -/
def maxIntegerDigits : Nat := 4300

/-- The decimal digits of a natural number. -/
def decimal (n : Nat) : List Char := Nat.toDigits 10 n

/-- The decimal text of an integer. -/
def integerText (n : Int) : String :=
  String.ofList (if n < 0 then '-' :: decimal n.natAbs else decimal n.natAbs)

/-- The decimal text of a natural number. -/
def naturalText (n : Nat) : String := String.ofList (decimal n)

end ShapeTypes
