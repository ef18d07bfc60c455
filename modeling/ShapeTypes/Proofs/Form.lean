import ShapeTypes.Shape.Declare

/-!
# The form of a shape

What a shape says about a value once all names of declarations are left out: a form is a type in
which records stand themselves where a type expression refers to them.

* `Form`: the forms; `Form.orNull`: the form extended with null where the attributes ask for it.
* `Shape.form`: **the form of a shape, read off the shape**, property by property.
* `Shape.rootForm`: the form of a whole schema, which disregards whether the root, or the items of a
  root array, may be null.
-/

namespace ShapeTypes

/-- A type without references. -/
inductive Form where
  /-- A keyword. -/
  | keyword (name : Value)
  /-- The type of one value. -/
  | literal (value : Value)
  /-- The type of null. -/
  | null
  /-- The arrays of elements of one form. -/
  | array (element : Form)
  /-- The union of some forms. -/
  | union (members : List Form)
  /-- The records with some fields, each with its key, whether it may be missing, and its form. -/
  | record (fields : List (Value × Value × Form))

/-- The form is a union. -/
def Form.isUnion : Form → Bool
  | union _ => true
  | _ => false

/-- The form extended with null if the attributes ask for it; a union stays flat. -/
def Form.orNull (a : Attributes) (form : Form) : Form :=
  if a.nullable.truthy then
    match form with
    | union members => union (members ++ [null])
    | other => union [other, null]
  else form

namespace Shape

/-- The form of a primitive: the union of the literals of its enumeration, or its keyword. -/
def primitiveForm (keyword : String) : Value → Form
  | .list (v :: rest) => .union ((v :: rest).map .literal)
  | _ => .keyword (.string keyword)

/-- The key of a shape; a foreign value has none. -/
def key (shape : Shape) : Value := (shape.attributes?.map Attributes.key).getD .null

/-- Whether the property of the shape may be missing. -/
def optional (shape : Shape) : Value := (shape.attributes?.map Attributes.optional).getD .null

/-- The key of the shape is one of the keys that are left out. -/
def isIgnored (ignored : Ignored) (shape : Shape) : Bool :=
  match Ignored.hides ignored shape.key with
  | .ok hidden => hidden
  | .error _ => false

mutual

/-- The form of a shape. A shape without a variant has no values. -/
def form (ignored : Ignored) : Shape → Form
  | object a properties => Form.orNull a (.record (formFields ignored properties))
  | array a items => Form.orNull a (.array (form ignored items))
  | boolean a => Form.orNull a (.keyword (.string "boolean"))
  | number a enumeration => Form.orNull a (primitiveForm "number" enumeration)
  | string a enumeration => Form.orNull a (primitiveForm "string" enumeration)
  | untyped _ => .union []
  | foreign _ => .union []

/-- The fields of the properties that are not ignored, in order. -/
def formFields (ignored : Ignored) : List Shape → List (Value × Value × Form)
  | [] => []
  | property :: rest =>
    if property.isIgnored ignored then formFields ignored rest
    else (property.key.orEmpty, property.optional, form ignored property) :: formFields ignored rest

end

/-- The form of a whole schema: an object, or an array of objects. -/
def rootForm (ignored : Ignored) : Shape → Form
  | object _ properties => .record (formFields ignored properties)
  | array _ (object _ properties) => .array (.record (formFields ignored properties))
  | _ => .union []

/-- The key that is looked up is the key of the shape. -/
theorem eq_key_of_key? {shape : Shape} {k : Value} (h : shape.key? = .ok k) : shape.key = k := by
  unfold key? at h
  unfold key
  cases ha : shape.attributes? with
  | none =>
      rw [ha] at h
      cases h
  | some a =>
      rw [ha] at h
      exact Except.ok.inj h

/-- A property is ignored if the ignored keys hold its key. -/
theorem isIgnored_eq {ignored : Ignored} {shape : Shape} {k : Value} {hidden : Bool}
    (hk : shape.key? = .ok k) (hhidden : Ignored.hides ignored k = .ok hidden) :
    shape.isIgnored ignored = hidden := by
  unfold isIgnored
  rw [eq_key_of_key? hk, hhidden]

end Shape

end ShapeTypes
