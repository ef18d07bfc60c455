import ShapeTypes.Proofs.Failure
import ShapeTypes.Proofs.Form
import ShapeTypes.Proofs.Shape.Tree
import ShapeTypes.Shape.Declare

/-!
# Ignored keys

To ignore some keys is to delete the properties that have them.

* `Value.isAmong`: a value is one of some texts. `Ignored.hides_strings`: a list of texts hides just
  the keys that are among them.
* `Shape.prune`: a shape without the properties that have certain keys, at every depth; the root and
  the items of arrays stay. `Shape.isAmong_key_of_prune`: no such property is left.
* `Shape.declareRoot_prune`: **a schema declared with some keys ignored gives what the pruned schema
  gives**, the declarations and the root, or what was put out before the same failure. It is an
  induction over the tree in which the name that is handed down stays general.
-/

namespace ShapeTypes

/-- The value is one of some texts. -/
def Value.isAmong (texts : List String) : Value → Bool
  | .string s => texts.contains s
  | _ => false

/-- Only a text means the same as a text. -/
theorem Value.any_eqv_strings (texts : List String) (v : Value) :
    (texts.map Value.string).any v.eqv = v.isAmong texts := by
  rw [List.any_map]
  cases v with
  | string s => simp [isAmong, Function.comp_def, eqv, List.contains_eq_any_beq,
      -List.contains_eq_mem]
  | _ => simp [isAmong, Function.comp_def, eqv, number?]

/-- A list of texts hides the keys that are among them. -/
theorem Ignored.hides_strings (texts : List String) (key : Value) :
    hides (.list (texts.map .string)) key = .ok (key.isAmong texts) := by
  rw [← Value.any_eqv_strings]
  rfl

namespace Shape

mutual

/-- The shape without the properties that have one of some keys, at every depth. -/
def prune (keys : List String) : Shape → Shape
  | object a properties => object a (pruneAll keys properties)
  | array a items => array a (prune keys items)
  | other => other

/-- The properties that have none of some keys, pruned themselves. -/
def pruneAll (keys : List String) : List Shape → List Shape
  | [] => []
  | property :: rest =>
    if property.key.isAmong keys then pruneAll keys rest
    else prune keys property :: pruneAll keys rest

end

variable {keys : List String}

/-- What is left of a list of properties. -/
theorem mem_pruneAll {properties : List Shape} {q : Shape} : q ∈ pruneAll keys properties ↔
    ∃ p ∈ properties, p.key.isAmong keys = false ∧ q = p.prune keys := by
  induction properties with
  | nil => simp [pruneAll]
  | cons p rest ih =>
      rw [pruneAll]
      cases h : p.key.isAmong keys <;> simp [h, ih]

/-- The root keeps its attributes. -/
@[simp] theorem attributes?_prune (shape : Shape) :
    (shape.prune keys).attributes? = shape.attributes? := by
  cases shape <;> rfl

/-- The root keeps its key. -/
@[simp] theorem key_prune (shape : Shape) : (shape.prune keys).key = shape.key := by
  rw [key, key, attributes?_prune]

/-- The root keeps its key, if it has one. -/
@[simp] theorem key?_prune (shape : Shape) : (shape.prune keys).key? = shape.key? := by
  rw [key?, key?, attributes?_prune]

/-- A shape that is missing stays so, and no other one becomes so. -/
@[simp] theorem isMissing_prune (shape : Shape) :
    (shape.prune keys).isMissing = shape.isMissing := by
  cases shape <;> rfl

/-- **No property with one of the keys is left**, at any depth. -/
theorem isAmong_key_of_prune (shape : Shape) :
    ∀ node ∈ (shape.prune keys).nodes, ∀ p ∈ node.properties, p.key.isAmong keys = false := by
  induction shape with
  | object a properties ih =>
      intro node hnode p hp
      rw [prune, mem_nodes_object] at hnode
      rcases hnode with rfl | ⟨q, hq, hnode⟩
      · obtain ⟨q, -, hkey, rfl⟩ := mem_pruneAll.mp hp
        rwa [key_prune]
      · obtain ⟨r, hr, -, rfl⟩ := mem_pruneAll.mp hq
        exact ih r hr node hnode p hp
  | array a items ih =>
      intro node hnode p hp
      rw [prune, mem_nodes_array] at hnode
      rcases hnode with rfl | hnode
      · cases hp
      · exact ih node hnode p hp
  | _ =>
      intro node hnode p hp
      obtain rfl := List.mem_singleton.mp hnode
      cases hp

/-! ## Declaring -/

/-- The type of a shape with some keys ignored is the type of the pruned shape. -/
def IgnoresByPruning (keys : List String) (shape : Shape) : Prop :=
  ∀ derived, declareType (.list (keys.map .string)) shape derived =
    declareType (.list []) (shape.prune keys) derived

/-- What has no key is a value that is no node, and is not deleted. -/
theorem isAmong_key_of_key?_eq_error {shape : Shape} {failure : Failure}
    (h : shape.key? = .error failure) : shape.key.isAmong keys = false := by
  cases shape with
  | foreign value => rfl
  | _ => cases h

/-- The fields of the properties that are not ignored are those of the properties that are left. -/
theorem declareFields_prune {properties : List Shape}
    (h : ∀ p ∈ properties, IgnoresByPruning keys p) :
    declareFields (.list (keys.map .string)) properties =
      declareFields (.list []) (pruneAll keys properties) := by
  induction properties with
  | nil => rfl
  | cons p rest ih =>
      obtain ⟨hp, hrest⟩ := List.forall_mem_cons.mp h
      rw [declareFields, pruneAll]
      cases hkey : p.key? with
      | error failure =>
          rw [isAmong_key_of_key?_eq_error hkey, if_neg Bool.false_ne_true, declareFields,
            key?_prune, hkey]
          rfl
      | ok key =>
          obtain rfl := eq_key_of_key? hkey
          rw [Traced.ofExcept_ok_bind, Ignored.hides_strings, Traced.ofExcept_ok_bind]
          cases p.key.isAmong keys with
          | true =>
              rw [if_pos rfl, if_pos rfl]
              exact ih hrest
          | false =>
              have hnothing : Ignored.hides (.list []) p.key = .ok false := rfl
              rw [if_neg Bool.false_ne_true, if_neg Bool.false_ne_true, declareFields, key?_prune,
                hkey, Traced.ofExcept_ok_bind, hnothing, Traced.ofExcept_ok_bind,
                if_neg Bool.false_ne_true, hp .null, ih hrest, attributes?_prune]

/-- The type of every shape with some keys ignored is the type of the pruned shape. -/
theorem declareType_prune (keys : List String) (shape : Shape) : IgnoresByPruning keys shape := by
  induction shape with
  | object a properties ih =>
      intro derived
      rw [prune, declareType, declareType, declareFields_prune ih]
  | array a items ih =>
      intro derived
      rw [prune, declareType, declareType, isMissing_prune]
      cases items.isMissing with
      | true => rfl
      | false =>
          rw [if_neg Bool.false_ne_true, if_neg Bool.false_ne_true]
          apply congrArg
          funext name
          rw [ih (.string name)]
  | _ =>
      intro derived
      rfl

/-- The declaration of a shape as an object with some keys ignored is that of the pruned shape. -/
theorem declareObject_prune (keys : List String) (shape : Shape) (derived : Value) :
    declareObject (.list (keys.map .string)) shape derived =
      declareObject (.list []) (shape.prune keys) derived := by
  cases shape with
  | object a properties =>
      rw [prune, declareObject, declareObject,
        declareFields_prune fun p _ => declareType_prune keys p]
  | _ => rfl

/-- A root array with some keys ignored is declared as the array of the pruned items. -/
theorem declareRootArray_prune (keys : List String) (a : Attributes) (items : Shape) :
    declareRootArray (.list (keys.map .string)) a items =
      declareRootArray (.list []) a (items.prune keys) := by
  cases items with
  | object b properties =>
      have hobject := declareObject_prune keys (object b properties)
      rw [prune] at hobject ⊢
      simp only [declareRootArray, hobject]
  | _ => rfl

/-- **To ignore some keys is to delete the properties that have them**: the declarations that are
put out, the root and the failure are those of the schema in which no object at any depth has a
property with one of these keys. -/
theorem declareRoot_prune (keys : List String) (shape : Shape) :
    declareRoot (.list (keys.map .string)) shape = declareRoot (.list []) (shape.prune keys) ∧
      ∀ node ∈ (shape.prune keys).nodes, ∀ p ∈ node.properties, p.key.isAmong keys = false := by
  refine ⟨?_, isAmong_key_of_prune shape⟩
  cases shape with
  | object a properties => exact declareObject_prune keys (object a properties) .null
  | array a items => exact declareRootArray_prune keys a items
  | _ => rfl

/-- A report whose draft is left out, together with a part of it that has no variant. -/
example : (Shape.object { name := .string "Report" }
      [.object { key := .string "draft" } [.untyped { key := .string "note" }],
        .array { key := .string "pages" } (.object { key := .string "draft" }
          [.number { key := .string "note" } .null, .boolean { key := .string "final" }])]).prune
      ["draft", "note"] =
    .object { name := .string "Report" }
      [.array { key := .string "pages" } (.object { key := .string "draft" }
        [.boolean { key := .string "final" }])] := by rfl

end Shape

end ShapeTypes
