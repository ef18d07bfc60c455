/-!
# Quoted texts

A text between double quotes: the quote, the backslash and the control characters are escaped, every
other character stands for itself.

* `Quoted.escape`: the written form of one character; `Quoted.body`: of a text, without its quotes.
* `Quoted.quote`: the text between quotes.
-/

namespace ShapeTypes.Text

/-- A hexadecimal numeral with lower-case digits, padded with zeros to a width. -/
def hex (width code : Nat) : List Char :=
  let digits := Nat.toDigits 16 code
  List.replicate (width - digits.length) '0' ++ digits

namespace Quoted

/-- The written form of a character inside a quoted text. -/
def escape (c : Char) : List Char :=
  if c = '"' then ['\\', '"']
  else if c = '\\' then ['\\', '\\']
  else if c = '\n' then ['\\', 'n']
  else if c = '\r' then ['\\', 'r']
  else if c = '\t' then ['\\', 't']
  else if c = '\x08' then ['\\', 'b']
  else if c = '\x0c' then ['\\', 'f']
  else if c.toNat < 0x20 then '\\' :: 'u' :: hex 4 c.toNat
  else [c]

/-- The written form of a text, without its quotes. -/
def body (cs : List Char) : List Char := cs.flatMap escape

/-- The text between double quotes. -/
def quote (s : String) : String := String.ofList ('"' :: (body s.toList ++ ['"']))

@[simp] theorem body_nil : body [] = [] := rfl

@[simp] theorem body_cons (c : Char) (cs : List Char) : body (c :: cs) = escape c ++ body cs := rfl

@[simp] theorem toList_quote (s : String) :
    (quote s).toList = '"' :: (body s.toList ++ ['"']) := by
  simp [quote]

end Quoted

end ShapeTypes.Text
