import ShapeTypes.Number.Integer
import ShapeTypes.Number.Numeral
import ShapeTypes.Text.Printable
import ShapeTypes.Text.Quoted
import ShapeTypes.Value.Basic

/-!
# The texts of a value

* `Value.inspect`: how a message shows a value; a string stands between quotes.
* `Value.isShowable`: the values that a message can show: no integer in them is too long.
* `Value.text`: the same, but a string stands for itself.
* `Value.source`: how generated source writes a literal, of which the same holds.
-/

namespace ShapeTypes

namespace Text

/-- The written form of a character in a text that a message shows between the quotes `mark`. -/
def inspectChar (mark c : Char) : List Char :=
  if c = mark ∨ c = '\\' then ['\\', c]
  else if c = '\t' then ['\\', 't']
  else if c = '\n' then ['\\', 'n']
  else if c = '\r' then ['\\', 'r']
  else if isPrintable c then [c]
  else if c.toNat ≤ 0xff then '\\' :: 'x' :: hex 2 c.toNat
  else if c.toNat ≤ 0xffff then '\\' :: 'u' :: hex 4 c.toNat
  else '\\' :: 'U' :: hex 8 c.toNat

/-- A text as a message shows it: between single quotes, or between double quotes if it holds a
single quote and no double one. -/
def inspect (s : String) : String :=
  let cs := s.toList
  let mark := if '\'' ∈ cs ∧ '"' ∉ cs then '"' else '\''
  String.ofList (mark :: (cs.flatMap (inspectChar mark) ++ [mark]))

/-- Items between brackets, with a comma and a space between two. -/
def bracketed (opening : String) (items : List String) (closing : String) : String :=
  opening ++ ", ".intercalate items ++ closing

end Text

namespace Value

mutual

/-- How a message shows a value. -/
def inspect : Value → String
  | null => "None"
  | bool b => if b then "True" else "False"
  | int n => integerText n
  | double x => x.numeral .message
  | string s => Text.inspect s
  | list items => Text.bracketed "[" (inspectItems items) "]"
  | object entries => Text.bracketed "\x7b" (inspectEntries entries) "\x7d"

/-- How a message shows the items of a list. -/
def inspectItems : List Value → List String
  | [] => []
  | v :: rest => inspect v :: inspectItems rest

/-- How a message shows the entries of an object. -/
def inspectEntries : List (String × Value) → List String
  | [] => []
  | (k, v) :: rest => (Text.inspect k ++ ": " ++ inspect v) :: inspectEntries rest

end

mutual

/-- The integers in a value, at any depth. -/
def integers : Value → List Int
  | int n => [n]
  | list items => integersOfItems items
  | object entries => integersOfEntries entries
  | _ => []

/-- The integers in the items of a list. -/
def integersOfItems : List Value → List Int
  | [] => []
  | v :: rest => integers v ++ integersOfItems rest

/-- The integers in the values of an object. -/
def integersOfEntries : List (String × Value) → List Int
  | [] => []
  | (_, v) :: rest => integers v ++ integersOfEntries rest

end

/-- A message can show the value, and source can hold it: no integer in it has more than
`maxIntegerDigits` digits. -/
def isShowable (v : Value) : Bool :=
  v.integers.all fun n => decide (n.natAbs < Nat.pow 10 maxIntegerDigits)

/-- The text of a value: a string stands for itself. -/
def text : Value → String
  | string s => s
  | v => v.inspect

mutual

/-- How generated source writes a value. -/
def source : Value → String
  | null => "null"
  | bool b => if b then "true" else "false"
  | int n => integerText n
  | double x => x.numeral .source
  | string s => Text.Quoted.quote s
  | list items => Text.bracketed "[" (sourceItems items) "]"
  | object entries => Text.bracketed "\x7b" (sourceEntries entries) "\x7d"

/-- How generated source writes the items of a list. -/
def sourceItems : List Value → List String
  | [] => []
  | v :: rest => source v :: sourceItems rest

/-- How generated source writes the entries of an object. -/
def sourceEntries : List (String × Value) → List String
  | [] => []
  | (k, v) :: rest => (Text.Quoted.quote k ++ ": " ++ source v) :: sourceEntries rest

end

/-- A value can be shown if each of its integers can. -/
theorem isShowable_iff {v : Value} :
    v.isShowable = true ↔ ∀ n ∈ v.integers, n.natAbs < Nat.pow 10 maxIntegerDigits := by
  rw [isShowable, List.all_eq_true]
  exact forall₂_congr fun n _ => decide_eq_true_iff

@[simp] theorem isShowable_string (s : String) : (string s).isShowable = true := rfl

@[simp] theorem text_string (s : String) : (string s).text = s := rfl

@[simp] theorem source_string (s : String) : (string s).source = Text.Quoted.quote s := by
  simp [source]

end Value

end ShapeTypes
