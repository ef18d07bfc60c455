import ShapeTypes.Number.Double

/-!
# Values

The dynamic values of a JSON document. Keys, names and flags of a shape are usually strings and
booleans, but a document may put any value in their place, and it is carried along.

* `Value`: null, booleans, unbounded integers, doubles, strings, lists, and objects whose entries
  keep their order.
* `Value.truthy`: the values that count as given; null, false, zero and the empty ones do not.
* `Value.eqv`: equality of the values meant: numbers and booleans are compared as numbers, objects
  without regard to the order of their entries.
-/

namespace ShapeTypes

/-- A dynamic value. The entries of an object keep their order. -/
inductive Value where
  /-- The absent value. -/
  | null
  /-- A truth value. -/
  | bool (b : Bool)
  /-- An integer of any size. -/
  | int (n : Int)
  /-- A double-precision number. -/
  | double (x : Double)
  /-- A text. -/
  | string (s : String)
  /-- A sequence of values. -/
  | list (items : List Value)
  /-- A mapping from keys to values, in the order of its entries. -/
  | object (entries : List (String × Value))

/-- The entries of an object. -/
abbrev Entries := List (String × Value)

/-- The value of the first entry with a key. -/
def Entries.get? (entries : Entries) (key : String) : Option Value :=
  List.lookup key entries

/-- The value of a key, or null. -/
def Entries.getOrNull (entries : Entries) (key : String) : Value :=
  (entries.get? key).getD .null

/-- Gives a key a value: a new key goes to the end, a known one keeps its place. -/
def Entries.insert (entries : Entries) (key : String) (value : Value) : Entries :=
  match entries with
  | [] => [(key, value)]
  | (k, v) :: rest =>
    if k = key then (k, value) :: rest else (k, v) :: Entries.insert rest key value

namespace Value

/-- The value counts as given. -/
def truthy : Value → Bool
  | null => false
  | bool b => b
  | int n => n != 0
  | double x => !x.isZero
  | string s => s != ""
  | list items => !items.isEmpty
  | object entries => !entries.isEmpty

/-- The value itself if it counts as given, else the empty string. -/
def orEmpty (v : Value) : Value := if v.truthy then v else string ""

/-- The word by which messages call the kind of a value. -/
def typeName : Value → String
  | null => "NoneType"
  | bool _ => "bool"
  | int _ => "int"
  | double _ => "float"
  | string _ => "str"
  | list _ => "list"
  | object _ => "dict"

/-- A number or a truth value, the latter as zero or one. -/
def number? : Value → Option (Int ⊕ Double)
  | bool b => some (.inl b.toNat)
  | int n => some (.inl n)
  | double x => some (.inr x)
  | _ => none

/-- Equality of two numbers across the two kinds. -/
def numberEqv : Int ⊕ Double → Int ⊕ Double → Bool
  | .inl m, .inl n => m == n
  | .inl n, .inr x => x.eqvInt n
  | .inr x, .inl n => x.eqvInt n
  | .inr x, .inr y => x.eqv y

mutual

/-- The two values mean the same. -/
def eqv : Value → Value → Bool
  | null, null => true
  | string s, string t => s == t
  | list xs, list ys => eqvItems xs ys
  | object xs, object ys => xs.length == ys.length && eqvEntries xs ys
  | x, y =>
    match x.number?, y.number? with
    | some m, some n => numberEqv m n
    | _, _ => false

/-- The two lists agree item by item. -/
def eqvItems : List Value → List Value → Bool
  | [], [] => true
  | x :: xs, y :: ys => eqv x y && eqvItems xs ys
  | _, _ => false

/-- Every entry of the first list has an equal one in the second. -/
def eqvEntries : List (String × Value) → List (String × Value) → Bool
  | [], _ => true
  | (k, v) :: rest, ys =>
    (match ys.lookup k with
      | some w => eqv v w
      | none => false) && eqvEntries rest ys

end

/-! ## Basic lemmas -/

@[simp] theorem truthy_null : null.truthy = false := rfl

@[simp] theorem truthy_bool (b : Bool) : (bool b).truthy = b := rfl

@[simp] theorem truthy_string (s : String) : (string s).truthy = true ↔ s ≠ "" := by
  simp [truthy]

@[simp] theorem orEmpty_null : null.orEmpty = string "" := rfl

@[simp] theorem orEmpty_string (s : String) : (string s).orEmpty = string s := by
  by_cases h : s = "" <;> simp [orEmpty, truthy, h]

/-- Two strings mean the same only if they are equal. -/
@[simp] theorem eqv_string (s t : String) : eqv (string s) (string t) = true ↔ s = t := by
  simp [eqv]

end Value

end ShapeTypes
