import ShapeTypes.Proofs.Shape.Success

/-!
# Arrays at the root and arrays inside

An array of objects is declared in one of two ways: as the root of a schema, where it gives an
alias, or inside a schema, where it gives a type.

* `Attributes.required`: the attributes of a shape that is not null.
* `Shape.declareType_of_declareRoot`: **both ways put out the same declarations in front of the
  alias, and the target of the alias is the type, unless the items may be null**. The target of an
  alias is an array of references; `Shape.declareType_ne_target_visitors`: the type may say more.
-/

namespace ShapeTypes

/-- The attributes of the same shape when it may not be null. -/
def Attributes.required (a : Attributes) : Attributes := { a with nullable := .bool false }

namespace Shape

variable {ignored : Ignored} {a b : Attributes} {properties : List Shape}

/-- What may not be null has its type as it is. -/
@[simp] theorem withNull_required (t : TypeExpr) : withNull a.required t = t := by
  simp [withNull, Attributes.required]

/-- A reference stays as it is if and only if its shape may not be null. -/
theorem withNull_reference_eq_iff {name : Value} :
    withNull b (.reference name) = .reference name ↔ b.nullable.truthy = false := by
  cases h : b.nullable.truthy <;> simp [withNull, h]

/-- A name that is handed down comes before the key. -/
theorem sourceName_of_truthy {name : Value} (h : name.truthy = true) :
    sourceName a name = name := by
  cases name with
  | null => cases h
  | _ => rfl

/-- The type of an object is the reference to its declaration, which is put out in either case. -/
theorem declareType_of_declareObject {derived : Value} {items : List Decl} {t : TypeExpr}
    (h : declareObject ignored (object b properties) derived = ⟨items, .ok t⟩) :
    ∃ name, t = .reference name ∧
      declareType ignored (object b properties) derived =
        ⟨items, .ok (withNull b (.reference name))⟩ := by
  obtain ⟨_, _, before, fields, name, hshape, hfields, hname, rfl, rfl⟩ := declareObject_eq_ok.mp h
  cases hshape
  exact ⟨name, rfl, declareType_object_eq_ok.mpr ⟨before, fields, name, hfields, hname, rfl, rfl⟩⟩

/-- **An array of objects is declared in the same way at the root and inside.** If it is declared as
a schema, then what is put out in front of its alias is what the type of the array puts out when the
name of the array is handed down to it. The target of the alias is an array of the reference to the
items, and the type is the same if and only if the items may not be null. -/
theorem declareType_of_declareRoot {emitted : List Decl} {root : TypeExpr}
    (h : declareRoot ignored (array a (object b properties)) = ⟨emitted, .ok root⟩) :
    ∃ before element,
      emitted = before ++ [Decl.synonym a.name (.array [.reference element])] ∧
      declareType ignored (array a.required (object b properties)) a.name =
        ⟨before, .ok (.array [withNull b (.reference element)])⟩ ∧
      (withNull b (.reference element) = .reference element ↔ b.nullable.truthy = false) := by
  have harray : declareRootArray ignored a (object b properties) = ⟨emitted, .ok root⟩ := h
  obtain ⟨derived, before, t, hname, hderived, hobject, rfl, -⟩ := declareRootArray_eq_ok.mp harray
  obtain ⟨element, rfl, htype⟩ := declareType_of_declareObject hobject
  refine ⟨before, element, rfl, ?_, withNull_reference_eq_iff⟩
  refine declareType_array_eq_ok.mpr ⟨derived, _, rfl, ?_, htype, (withNull_required _).symm⟩
  rw [sourceName_of_truthy hname]
  exact hderived

/-- An order: its lines are objects in two arrays, and may be null at every level. -/
def order : Shape :=
  .object { optional := .bool true }
    [.array { key := .string "lines", nullable := .bool true }
        (.array { nullable := .bool true }
          (.object { nullable := .bool true } [.number { key := .string "count" } .null])),
      .string { key := .string "state" } (.list [.string "open", .string "paid"])]

/-- The attributes of an array of orders, which may be null itself. -/
def ordersAttributes : Attributes :=
  { name := .string "Orders", key := .string "all", nullable := .bool true }

/-- The type of the lines of an order. -/
def linesType : TypeExpr :=
  .union [.array [.union [.array [.union [.reference (.string "LineItem"), .null]], .null]], .null]

/-- The declarations for an array of orders in front of its alias. -/
def orderDecls : List Decl :=
  [.record (.string "LineItem") [⟨.string "count", .keyword (.string "number"), .bool false⟩],
    .record (.string "Order")
      [⟨.string "lines", linesType, .bool false⟩,
        ⟨.string "state", .union [.literal (.string "open"), .literal (.string "paid")],
          .bool false⟩]]

/-- An array of orders has the target of its alias for a type. -/
theorem declareType_orders :
    declareRoot (.list []) (.array ordersAttributes order) =
      ⟨orderDecls ++ [Decl.synonym (.string "Orders") (.array [.reference (.string "Order")])],
        .ok (.reference (.string "Orders"))⟩ ∧
    declareType (.list []) (.array ordersAttributes.required order) (.string "Orders") =
      ⟨orderDecls, .ok (.array [.reference (.string "Order")])⟩ := by
  have hroot : declareRoot (.list []) (.array ordersAttributes order) =
      ⟨orderDecls ++ [Decl.synonym (.string "Orders") (.array [.reference (.string "Order")])],
        .ok (.reference (.string "Orders"))⟩ := rfl
  obtain ⟨before, element, hemitted, htype, hsame⟩ := declareType_of_declareRoot hroot
  obtain ⟨rfl, hlast⟩ := List.append_inj' hemitted rfl
  cases hlast
  rw [hsame.mpr rfl] at htype
  exact ⟨hroot, htype⟩

/-- A visitor, which may be null. -/
def visitor : Shape := .object { nullable := .bool true } []

/-- The attributes of an array of visitors. -/
def visitorsAttributes : Attributes := { name := .string "Visitors" }

/-- An array of visitors does not have the target of its alias for a type. -/
theorem declareType_ne_target_visitors :
    declareRoot (.list []) (.array visitorsAttributes visitor) =
      ⟨[Decl.record (.string "Visitor") [],
          Decl.synonym (.string "Visitors") (.array [.reference (.string "Visitor")])],
        .ok (.reference (.string "Visitors"))⟩ ∧
    (declareType (.list []) (.array visitorsAttributes.required visitor)
      (.string "Visitors")).result ≠ .ok (.array [.reference (.string "Visitor")]) := by
  refine ⟨rfl, ?_⟩
  have htype : (declareType (.list []) (.array visitorsAttributes.required visitor)
      (.string "Visitors")).result =
        .ok (.array [.union [.reference (.string "Visitor"), .null]]) := rfl
  rw [htype]
  simp

end Shape

end ShapeTypes
