import ShapeTypes.Number.Integer
import ShapeTypes.Text.CodePoint
import ShapeTypes.Value.Basic

/-!
# Reading JSON

The reader accepts JSON with the names `NaN`, `Infinity` and `-Infinity` added. A numeral without
fraction and exponent is an integer of any size up to `maxIntegerDigits` digits, every other one the
nearest double. A repeated key of an object keeps its first place and its last value. An escape may
name a surrogate without its partner; the reader is told which characters stand for these.

* `Json.read`: the value of a text, or a `Misread` that names what was expected and where.
* `Misread.message`: the wording, with line, column and offset.
* `standInsFor`: characters that stand for surrogates and that the texts to be read do not hold.

Every step of the reader consumes a character, so twice the length of the text bounds the number of
nested steps; the reader takes that bound as fuel.
-/

namespace ShapeTypes.Json

open Text (StandIns)

/-- What the reader found wrong. -/
inductive Fault where
  /-- A value had to stand here. -/
  | value
  /-- A quoted key had to stand here. -/
  | key
  /-- A colon had to stand here. -/
  | colon
  /-- A comma had to stand here. -/
  | comma
  /-- Something follows the value. -/
  | extra
  /-- The quoted text that starts here does not end. -/
  | unterminated
  /-- A control character inside a quoted text. -/
  | control
  /-- An unknown escape. -/
  | escape
  /-- A malformed escape by code. -/
  | codeEscape
  /-- The text starts with a byte order mark. -/
  | byteOrderMark
  /-- An integer with more digits than the reader takes. -/
  | longInteger
deriving DecidableEq

/-- A fault, with the part of the text that starts where it was found. -/
structure Misread where
  /-- What was found wrong. -/
  fault : Fault
  /-- The text from the place of the fault on. -/
  rest : List Char

/-- The reader fails at `rest`. -/
def misread {α : Type} (fault : Fault) (rest : List Char) : Except Misread α :=
  .error ⟨fault, rest⟩

/-- A blank between the parts of a document. -/
def isBlank (c : Char) : Bool := c == ' ' || c == '\t' || c == '\n' || c == '\r'

/-- The text without its leading blanks. -/
def skipBlank (cs : List Char) : List Char := cs.dropWhile isBlank

/-! ## Quoted texts -/

/-- The value of a hexadecimal digit. -/
def hexDigit? (c : Char) : Option Nat :=
  if '0' ≤ c ∧ c ≤ '9' then some (c.toNat - '0'.toNat)
  else if 'a' ≤ c ∧ c ≤ 'f' then some (c.toNat - 'a'.toNat + 10)
  else if 'A' ≤ c ∧ c ≤ 'F' then some (c.toNat - 'A'.toNat + 10)
  else none

/-- The number that four hexadecimal digits at the start of a text mean, and what follows them. -/
def fourHex? (cs : List Char) : Option (Nat × List Char) :=
  match cs with
  | a :: b :: c :: d :: rest => do
    let a ← hexDigit? a
    let b ← hexDigit? b
    let c ← hexDigit? c
    let d ← hexDigit? d
    return (((a * 16 + b) * 16 + c) * 16 + d, rest)
  | _ => none

/-- A code unit that opens a pair. -/
def isHighSurrogate (code : Nat) : Bool := 0xd800 ≤ code && code ≤ 0xdbff

/-- A code unit that closes a pair. -/
def isLowSurrogate (code : Nat) : Bool := 0xdc00 ≤ code && code ≤ 0xdfff

/-- The character of a code point, or the one that stands for it. -/
def charOfCode (standIns : StandIns) (code : Nat) : Char :=
  if h : 0xd800 ≤ code ∧ code < 0xe000 then standIns.char ⟨code, h⟩ else Char.ofNat code

/-- The character that an escape by code means; `cs` starts with the letter of the escape. At least
one character has to follow the digits, since the text still has to end. -/
def readCode (standIns : StandIns) (cs : List Char) : Except Misread (Char × List Char) :=
  match fourHex? cs.tail with
  | some (code, rest) =>
    if rest.isEmpty then misread .codeEscape cs
    else if isHighSurrogate code then
      match rest with
      | '\\' :: 'u' :: more =>
        if more.length < 5 then .ok (charOfCode standIns code, rest)
        else
          match fourHex? more with
          | some (low, rest') =>
            if isLowSurrogate low then
              .ok (charOfCode standIns (0x10000 + (code - 0xd800) * 0x400 + (low - 0xdc00)), rest')
            else .ok (charOfCode standIns code, rest)
          | none => misread .codeEscape ('u' :: more)
      | _ => .ok (charOfCode standIns code, rest)
    else .ok (charOfCode standIns code, rest)
  | none => misread .codeEscape cs

/-- The character that a one-letter escape means. -/
def simpleEscape? (c : Char) : Option Char :=
  if c = '"' ∨ c = '\\' ∨ c = '/' then some c
  else if c = 'b' then some '\x08'
  else if c = 'f' then some '\x0c'
  else if c = 'n' then some '\n'
  else if c = 'r' then some '\r'
  else if c = 't' then some '\t'
  else none

/-- Reads on inside a quoted text up to its end; `start` is the text from its opening quote on. -/
def readQuoted (standIns : StandIns) (start : List Char) :
    Nat → List Char → Except Misread (List Char × List Char)
  | 0, _ => misread .unterminated start
  | fuel + 1, cs =>
    match cs with
    | [] => misread .unterminated start
    | '"' :: rest => .ok ([], rest)
    | ['\\'] => misread .unterminated start
    | '\\' :: c :: rest => do
      let (char, rest) ←
        if c = 'u' then readCode standIns (c :: rest)
        else
          match simpleEscape? c with
          | some char => .ok (char, rest)
          | none => misread .escape cs
      let (chars, rest) ← readQuoted standIns start fuel rest
      return (char :: chars, rest)
    | c :: rest =>
      if c.toNat ≤ 0x1f then misread .control cs
      else do
        let (chars, rest) ← readQuoted standIns start fuel rest
        return (c :: chars, rest)

/-- The quoted text at the start of `cs`, which is a quote. -/
def readText (standIns : StandIns) (cs : List Char) : Except Misread (String × List Char) := do
  let (chars, rest) ← readQuoted standIns cs cs.length cs.tail
  return (String.ofList chars, rest)

/-! ## Numerals -/

/-- A decimal digit. -/
def isDigit (c : Char) : Bool := '0' ≤ c && c ≤ '9'

/-- The number that decimal digits mean. -/
def digitsValue (cs : List Char) : Nat := cs.foldl (fun n c => n * 10 + (c.toNat - '0'.toNat)) 0

/-- The whole part of a numeral: a zero, or digits of which the first is no zero. -/
def wholePart? (cs : List Char) : Option (List Char × List Char) :=
  match cs with
  | '0' :: rest => some (['0'], rest)
  | c :: _ => if isDigit c then some (cs.takeWhile isDigit, cs.dropWhile isDigit) else none
  | [] => none

/-- The digits of a fraction, if a point with a digit behind it stands here. -/
def fraction? (cs : List Char) : Option (List Char × List Char) :=
  match cs with
  | '.' :: rest =>
    if (rest.takeWhile isDigit).isEmpty then none
    else some (rest.takeWhile isDigit, rest.dropWhile isDigit)
  | _ => none

/-- The exponent of a numeral, if its letter, a sign or none, and a digit stand here. -/
def exponent? (cs : List Char) : Option (Int × List Char) :=
  match cs with
  | letter :: rest =>
    if letter = 'e' ∨ letter = 'E' then
      let (negative, digits) :=
        match rest with
        | '-' :: more => (true, more)
        | '+' :: more => (false, more)
        | _ => (false, rest)
      let digitChars := digits.takeWhile isDigit
      if digitChars.isEmpty then none
      else
        let size : Int := digitsValue digitChars
        some (if negative then -size else size, digits.dropWhile isDigit)
    else none
  | [] => none

/-- The numeral at the start of `cs`. -/
def readNumeral (cs : List Char) : Except Misread (Value × List Char) :=
  let (negative, unsigned) :=
    match cs with
    | '-' :: rest => (true, rest)
    | _ => (false, cs)
  match wholePart? unsigned with
  | none => misread .value cs
  | some (whole, rest) =>
    let fraction := fraction? rest
    let (fractionDigits, rest) := fraction.getD ([], rest)
    let exponent := exponent? rest
    let (power, rest) := exponent.getD (0, rest)
    if fraction.isSome || exponent.isSome then
      let digits := digitsValue (whole ++ fractionDigits)
      .ok (.double (.ofDecimal negative digits (power - fractionDigits.length)), rest)
    else if maxIntegerDigits < whole.length then misread .longInteger cs
    else
      let size : Int := digitsValue whole
      .ok (.int (if negative then -size else size), rest)

/-! ## Values -/

/-- The names that stand for values. -/
def names : List (List Char × Value) :=
  [ ("null".toList, .null), ("true".toList, .bool true), ("false".toList, .bool false),
    ("NaN".toList, .double (.nan 0)), ("Infinity".toList, .double (.infinity false)),
    ("-Infinity".toList, .double (.infinity true)) ]

/-- The value whose name stands at the start of a text, and what follows it. -/
def named? (cs : List Char) : Option (Value × List Char) :=
  names.findSome? fun (name, value) =>
    if name.isPrefixOf cs then some (value, cs.drop name.length) else none

mutual

/-- The value at the start of a text. -/
def readValue (standIns : StandIns) : Nat → List Char → Except Misread (Value × List Char)
  | 0, cs => misread .value cs
  | fuel + 1, cs =>
    match cs with
    | '"' :: _ => do
      let (s, rest) ← readText standIns cs
      return (.string s, rest)
    | '[' :: rest => do
      let (items, rest) ←
        match skipBlank rest with
        | ']' :: rest => .ok ([], rest)
        | rest => readItems standIns fuel rest
      return (.list items, rest)
    | '\x7b' :: rest => do
      let (entries, rest) ←
        match skipBlank rest with
        | '\x7d' :: rest => .ok ([], rest)
        | rest => readEntries standIns fuel [] rest
      return (.object entries, rest)
    | _ =>
      match named? cs with
      | some found => .ok found
      | none => readNumeral cs

/-- The items of a list up to its closing bracket, at least one. -/
def readItems (standIns : StandIns) : Nat → List Char → Except Misread (List Value × List Char)
  | 0, cs => misread .value cs
  | fuel + 1, cs => do
    let (item, rest) ← readValue standIns fuel cs
    match skipBlank rest with
    | ']' :: rest => return ([item], rest)
    | ',' :: rest =>
      let (items, rest) ← readItems standIns fuel (skipBlank rest)
      return (item :: items, rest)
    | rest => misread .comma rest

/-- The entries of an object up to its closing brace, at least one, added to those read before. -/
def readEntries (standIns : StandIns) :
    Nat → Entries → List Char → Except Misread (Entries × List Char)
  | 0, _, cs => misread .value cs
  | fuel + 1, entries, cs =>
    match cs with
    | '"' :: _ => do
      let (key, rest) ← readText standIns cs
      match skipBlank rest with
      | ':' :: rest =>
        let (value, rest) ← readValue standIns fuel (skipBlank rest)
        let entries := entries.insert key value
        match skipBlank rest with
        | '\x7d' :: rest => return (entries, rest)
        | ',' :: rest => readEntries standIns fuel entries (skipBlank rest)
        | rest => misread .comma rest
      | rest => misread .colon rest
    | _ => misread .key cs

end

/-- The value that a text holds. -/
def readChars (standIns : StandIns) (cs : List Char) : Except Misread Value :=
  match cs with
  | '\uFEFF' :: _ => misread .byteOrderMark cs
  | _ => do
    let (value, rest) ← readValue standIns (2 * cs.length + 2) (skipBlank cs)
    match skipBlank rest with
    | [] => return value
    | rest => misread .extra rest

/-- The value that a text holds. -/
def read (standIns : StandIns) (s : String) : Except Misread Value := readChars standIns s.toList

/-! ## Characters in the place of surrogates -/

/-- The first of the two code units that open the pairs for the characters of a block. -/
def openingUnit (block : Fin 31) : Nat := 0xdb80 + 2 * block

/-- A character of the block stands in a text, or digits that may belong to an escape for one. -/
def mentions (block : Fin 31) : List Char → Bool
  | [] => false
  | c :: cs =>
    ((StandIns.ofBlock block).surrogate? c).isSome ||
      (match fourHex? (c :: cs) with
        | some (code, _) => openingUnit block ≤ code && code ≤ openingUnit block + 1
        | none => false) ||
      mentions block cs

/-- Characters that stand for surrogates, of the first block that no text mentions. -/
def standInsFor (texts : List String) : StandIns :=
  .ofBlock (((List.finRange 31).find? fun block =>
    texts.all fun text => !mentions block text.toList).getD 0)

/-! ## Wording -/

/-- What a fault is called. -/
def Fault.message : Fault → String
  | .value => "Expecting value"
  | .key => "Expecting property name enclosed in double quotes"
  | .colon => "Expecting ':' delimiter"
  | .comma => "Expecting ',' delimiter"
  | .extra => "Extra data"
  | .unterminated => "Unterminated string starting at"
  | .control => "Invalid control character at"
  | .escape => "Invalid \\escape"
  | .codeEscape => "Invalid \\uXXXX escape"
  | .byteOrderMark => "Unexpected UTF-8 BOM (decode using utf-8-sig)"
  | .longInteger => "Integer with too many digits"

/-- The wording of a misreading of `text`: the fault with its line and column, which count from one,
and its offset, which counts from zero. -/
def Misread.message (misread : Misread) (text : String) : String :=
  let offset := text.length - misread.rest.length
  let before := text.toList.take offset
  let line := before.count '\n' + 1
  let column := (before.reverse.takeWhile (· != '\n')).length + 1
  misread.fault.message ++ ": line " ++ naturalText line ++ " column " ++ naturalText column ++
    " (char " ++ naturalText offset ++ ")"

end ShapeTypes.Json
