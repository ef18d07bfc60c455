import ShapeTypes.Decl.Basic
import ShapeTypes.Name.Derived
import ShapeTypes.Shape.Basic
import ShapeTypes.Shape.Ignored
import ShapeTypes.Traced

/-!
# The declarations of a shape

Every object shape is declared as a record. The declarations of its properties come before its own,
so that a declaration refers to earlier ones only; a failing computation leaves the declarations
that it has put out.

* `sourceName`: what an anonymous object is named after: the name that an array around it hands
  down, else its own key.
* `Shape.declareType`, `Shape.declareObject`, `Shape.declareProperty`: the type of a shape and what
  it declares.
* `Shape.declareRoot`: the declarations of a whole schema, whose root is an object or a named array
  of objects.
-/

namespace ShapeTypes

/-- A computation that puts out declarations. -/
abbrev Declaring := Traced Decl

/-! ## Names -/

/-- A name with its first character in upper case. -/
def capitalizedValue : Value → Except Failure String
  | .string name => .ok (Name.capitalized name)
  | .list _ => .error .noSuchPart
  | _ => .error .wrongKind

/-- The name of an element of a collection. -/
def elementNameOf : Value → Except Failure String
  | .string name => .ok (Name.elementName name)
  | other => if other.truthy then .error .wrongKind else .ok (Name.elementName "")

/-- What an anonymous shape is named after: the name handed down by an array, else its key. -/
def sourceName (attributes : Attributes) : Value → Value
  | .null => attributes.key.orEmpty
  | derived => derived

/-- The name of an object's declaration: the explicit one, else the capitalised source. -/
def objectName (attributes : Attributes) (derived : Value) : Except Failure Value :=
  if attributes.name.truthy then .ok attributes.name
  else
    match capitalizedValue (sourceName attributes derived) with
    | .error failure => .error failure
    | .ok name => if name = "" then .error .namelessObject else .ok (.string name)

/-! ## Enumerations -/

/-- The value can be the literal of an enumeration of numbers: it is a finite number. -/
def isNumberLiteral : Value → Except Failure Bool
  | .int n => if fitsDouble n then .ok true else .error .hugeInteger
  | .double x => .ok x.isFinite
  | _ => .ok false

/-- The value can be the literal of an enumeration of texts. -/
def isStringLiteral : Value → Except Failure Bool
  | .string _ => .ok true
  | _ => .ok false

/-- All values pass a test; the first one that does not ends the search. -/
def allPass (test : Value → Except Failure Bool) : List Value → Except Failure Bool
  | [] => .ok true
  | v :: rest =>
    match test v with
    | .ok true => allPass test rest
    | other => other

/-- The union of the literals of an enumeration. A message that refuses it shows all its values. -/
def enumType (variant : String) (test : Value → Except Failure Bool) (key : Value)
    (values : List Value) : Except Failure TypeExpr :=
  match allPass test values with
  | .error failure => .error failure
  | .ok true => .ok (.union (values.map .literal))
  | .ok false =>
    if (Value.list values).isShowable then
      .error (.unsupported (variant ++ " enum with values " ++ (Value.list values).inspect)
        key.orEmpty)
    else .error .longInteger

/-- The type of a primitive: the union of its enumeration, or its keyword. -/
def primitiveType (variant : String) (test : Value → Except Failure Bool) (key : Value)
    (enumeration : Value) : Except Failure TypeExpr :=
  match enumeration with
  | .list (v :: rest) => enumType variant test key (v :: rest)
  | _ => .ok (.keyword (.string variant))

/-- The type extended with null if the attributes ask for it; a union stays flat. -/
def withNull (attributes : Attributes) (type : TypeExpr) : TypeExpr :=
  if attributes.nullable.truthy then
    match type with
    | .union members => .union (members ++ [.null])
    | other => .union [other, .null]
  else type

/-! ## Shapes -/

/-- Puts out a declaration and refers to it. -/
def declare (decl : Decl) : Declaring TypeExpr := do
  Traced.emit decl
  return .reference decl.name

/-- Declares an object whose fields are known. -/
def declareRecord (attributes : Attributes) (derived : Value) (fields : List Field) :
    Declaring TypeExpr := do
  let name ← Traced.ofExcept (objectName attributes derived)
  declare (Decl.record name fields)

namespace Shape

/-- The key of a shape; a foreign value has none. -/
def key? (shape : Shape) : Except Failure Value :=
  match shape.attributes? with
  | some attributes => .ok attributes.key
  | none => .error .noSuchPart

mutual

/-- The type of a shape; `derived` is the name that an array around it hands down, or null. -/
def declareType (ignored : Ignored) : Shape → Value → Declaring TypeExpr
  | object a properties, derived => do
    let fields ← declareFields ignored properties
    let type ← declareRecord a derived fields
    return withNull a type
  | array a items, derived => do
    if items.isMissing then
      Traced.fail (.unsupported "array without items" a.key.orEmpty)
    else
      let name ← Traced.ofExcept (elementNameOf (sourceName a derived))
      let element ← declareType ignored items (.string name)
      return withNull a (.array [element])
  | boolean a, _ => return withNull a (.keyword (.string "boolean"))
  | number a enumeration, _ => do
    let type ← Traced.ofExcept (primitiveType "number" isNumberLiteral a.key enumeration)
    return withNull a type
  | string a enumeration, _ => do
    let type ← Traced.ofExcept (primitiveType "string" isStringLiteral a.key enumeration)
    return withNull a type
  | untyped a, _ => Traced.fail (.unsupported (untyped a).variant a.key.orEmpty)
  | foreign value, _ => Traced.fail (.unknownVariant value.typeName (.string ""))

/-- The fields of the properties that are not ignored. -/
def declareFields (ignored : Ignored) : List Shape → Declaring (List Field)
  | [] => return []
  | property :: rest => do
    let key ← Traced.ofExcept property.key?
    let hidden ← Traced.ofExcept (ignored.hides key)
    if hidden then declareFields ignored rest
    else
      let type ← declareType ignored property .null
      let fields ← declareFields ignored rest
      let optional := (property.attributes?.map Attributes.optional).getD .null
      return ⟨key.orEmpty, type, optional⟩ :: fields

end

/-- The field of a property, ignored or not. -/
def declareProperty (ignored : Ignored) (property : Shape) : Declaring Field := do
  let key ← Traced.ofExcept property.key?
  let type ← declareType ignored property .null
  let optional := (property.attributes?.map Attributes.optional).getD .null
  return ⟨key.orEmpty, type, optional⟩

/-- The declaration of an object, and the reference to it; its nullability is not looked at. -/
def declareObject (ignored : Ignored) (shape : Shape) (derived : Value) : Declaring TypeExpr :=
  match shape with
  | object a properties => do
    let fields ← declareFields ignored properties
    declareRecord a derived fields
  | _ => Traced.fail .noSuchPart

/-- The declarations of a named array of objects: those of its element, and an alias for the array.
-/
def declareRootArray (ignored : Ignored) (a : Attributes) (items : Shape) : Declaring TypeExpr :=
  if a.name.truthy then
    match items with
    | object .. => do
      let name ← Traced.ofExcept (elementNameOf a.name)
      let element ← declareObject ignored items (.string name)
      declare (Decl.synonym a.name (.array [element]))
    | other =>
      let variant := if other.isMissing then "array without items" else other.variant
      Traced.fail (.unsupportedItems variant a.name)
  else Traced.fail .namelessArray

/-- The declarations of a whole schema, and the reference to its root. -/
def declareRoot (ignored : Ignored) (shape : Shape) : Declaring TypeExpr :=
  match shape with
  | object .. => declareObject ignored shape .null
  | array a items => declareRootArray ignored a items
  | other => Traced.fail (.invalidRoot other.variant)

end Shape

end ShapeTypes
