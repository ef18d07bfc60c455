import ShapeTypes.Failure
import ShapeTypes.Shape.Basic

/-!
# Shapes from values

A shape is written as an object: its `type` names the variant, `properties` holds the properties of
an object as a list or as a mapping from keys, `items` the shape of an array's items, `enum` the
enumerated values of a number or a text.

* `Shape.ofValue`: the shape that a value describes; of several faults the first one in reading
  order is reported, with the path that leads to it. A path or a variant is not shown, and the
  reading fails for that, if an integer in it is too long.
-/

namespace ShapeTypes

namespace Attributes

/-- The attributes given by the entries of an object; under a mapping, `key` is the key of the
mapping, which an entry of its own overrides. -/
def ofEntries (key : Value) (entries : Entries) : Attributes where
  key := (entries.get? "key").getD key
  name := entries.getOrNull "name"
  nullable := (entries.get? "nullable").getD (.bool false)
  optional := (entries.get? "optional").getD (.bool false)
  default := entries.getOrNull "default"
  description := entries.getOrNull "description"

end Attributes

namespace Shape

/-- The enumerated values: the items of a list, the keys of an object, the characters of a text.
Without any, null. -/
def enumerationOf (given : Value) : Except Failure Value :=
  if given.truthy then
    match given with
    | .list items => .ok (.list items)
    | .object entries => .ok (.list (entries.map fun entry => .string entry.1))
    | .string s => .ok (.list (s.toList.map fun c => .string c.toString))
    | _ => .error .wrongKind
  else .ok .null

/-- The key of a shape that stands among the properties: its own, or that of the mapping. -/
def keyOf (key : Value) : Value → Value
  | .object entries => (Entries.get? entries "key").getD key
  | _ => .null

/-- The path of a property: its key if it has one, which no integer may be too long for, else its
index. -/
def propertyPath (path : String) (key : Value) (index : Nat) : Except Failure String :=
  (if key.truthy then key.shown else .ok (naturalText index)).map (path ++ "/properties/" ++ ·)

mutual

/-- The shape that a value describes; `key` is the key of the mapping that it stands under. -/
def read (path : String) (key : Value) : Value → Except Failure Shape
  | .object entries =>
    let attributes := Attributes.ofEntries key entries
    match Entries.getOrNull entries "type" with
    | .string "object" => (readProperties path entries).map (object attributes)
    | .string "array" => (readItems path entries).map (array attributes)
    | .string "boolean" => .ok (boolean attributes)
    | .string "number" => (enumerationOf (Entries.getOrNull entries "enum")).map (number attributes)
    | .string "string" => (enumerationOf (Entries.getOrNull entries "enum")).map (string attributes)
    | other => .error (.unknownType other path)
  | other => .error (.unknownVariant other.typeName (.string path))

/-- The shape of the items of an array, which have to be given. -/
def readItems (path : String) : List (String × Value) → Except Failure Shape
  | [] => .error (.unknownVariant "array without items" (.string path))
  | (k, v) :: rest =>
    if k = "items" then read (path ++ "/items") .null v else readItems path rest

/-- The properties of an object, if they are given. -/
def readProperties (path : String) : List (String × Value) → Except Failure (List Shape)
  | [] => .ok []
  | (k, v) :: rest =>
    if k = "properties" then readChildren path v else readProperties path rest

/-- The shapes of the properties, written as a list or as a mapping. A text counts as the list of
its characters, none of which is a shape. -/
def readChildren (path : String) : Value → Except Failure (List Shape)
  | .list items => readList path 0 items
  | .object entries => readMapping path 0 entries
  | .string s =>
    if s = "" then .ok []
    else .error (.unknownVariant "str" (.string (path ++ "/properties/" ++ naturalText 0)))
  | other => if other.truthy then .error .wrongKind else .ok []

/-- The shapes of a list of properties, the first of which has the given index. -/
def readList (path : String) (index : Nat) : List Value → Except Failure (List Shape)
  | [] => .ok []
  | v :: rest =>
    match propertyPath path (keyOf .null v) index with
    | .error failure => .error failure
    | .ok childPath =>
      match read childPath .null v with
      | .error failure => .error failure
      | .ok shape => (readList path (index + 1) rest).map (shape :: ·)

/-- The shapes of a mapping from keys, the first of which has the given index. -/
def readMapping (path : String) (index : Nat) : List (String × Value) → Except Failure (List Shape)
  | [] => .ok []
  | (k, v) :: rest =>
    match propertyPath path (keyOf (.string k) v) index with
    | .error failure => .error failure
    | .ok childPath =>
      match read childPath (.string k) v with
      | .error failure => .error failure
      | .ok shape => (readMapping path (index + 1) rest).map (shape :: ·)

end

/-- The shape that a value describes. Paths start at the root, `#`. -/
def ofValue (value : Value) : Except Failure Shape := read "#" .null value

end Shape

end ShapeTypes
