import ShapeTypes.Value.Basic

/-!
# Shapes

A shape describes what a JSON value looks like: an object with its properties, an array with the
shape of its items, or a primitive, together with nullability, optionality and enumerated values.

* `Attributes`: what every shape carries; `Shape`: the shapes.
* `Shape.variant`: the word by which messages call the variant of a shape.
-/

namespace ShapeTypes

/-- What every shape carries. An attribute that is not given is null or false. -/
structure Attributes where
  /-- The name of the property that the shape describes. -/
  key : Value := .null
  /-- An explicit name for the declaration of the shape. -/
  name : Value := .null
  /-- The value may be null. -/
  nullable : Value := .bool false
  /-- The property may be missing. -/
  optional : Value := .bool false
  /-- A default value, carried along. -/
  default : Value := .null
  /-- A description, carried along. -/
  description : Value := .null

/-- The shape of a JSON value. -/
inductive Shape where
  /-- An object with an ordered list of properties. -/
  | object (attributes : Attributes) (properties : List Shape)
  /-- An array whose items share one shape. -/
  | array (attributes : Attributes) (items : Shape)
  /-- A truth value. -/
  | boolean (attributes : Attributes)
  /-- A number, of an enumeration if one is given. -/
  | number (attributes : Attributes) (enumeration : Value)
  /-- A text, of an enumeration if one is given. -/
  | string (attributes : Attributes) (enumeration : Value)
  /-- A shape without a variant. -/
  | untyped (attributes : Attributes)
  /-- A value that stands in the place of a shape; null stands for a shape that is missing. -/
  | foreign (value : Value)

namespace Shape

/-- The attributes of a shape; a foreign value has none. -/
def attributes? : Shape → Option Attributes
  | object a _ | array a _ | boolean a | number a _ | string a _ | untyped a => some a
  | foreign _ => none

/-- The shape is missing. -/
def isMissing : Shape → Bool
  | foreign .null => true
  | _ => false

/-- The word by which messages call the variant of a shape. -/
def variant : Shape → String
  | object .. => "object"
  | array .. => "array"
  | boolean _ => "boolean"
  | number .. => "number"
  | string .. => "string"
  | untyped _ => "SchemaNode"
  | foreign value => value.typeName

/-- The shape with other attributes. -/
def mapAttributes (f : Attributes → Attributes) : Shape → Shape
  | object a properties => object (f a) properties
  | array a items => array (f a) items
  | boolean a => boolean (f a)
  | number a enumeration => number (f a) enumeration
  | string a enumeration => string (f a) enumeration
  | untyped a => untyped (f a)
  | foreign value => foreign value

/-- The shape under another explicit name. -/
def withName (shape : Shape) (name : Value) : Shape :=
  shape.mapAttributes fun a => { a with name := name }

end Shape

end ShapeTypes
