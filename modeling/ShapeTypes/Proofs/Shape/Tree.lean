import ShapeTypes.Shape.Basic

/-!
# Shapes as trees

A shape is a tree: the children of an object are its properties, the child of an array is the shape
of its items.

* `Shape.tree_induction`: **induction over a shape**, with one hypothesis for every property of an
  object. `induction` on a shape uses it.
* `Shape.nodes`: the shape itself and all that stands below it.
* `Value.isLabel`: the values that a key or a name is meant to have, null and the texts;
  `Shape.HasTextLabels`: every key and every name of the tree is such a value.
* `Shape.IsNodeTree`: the trees of nodes in which keys and names are so and properties are nodes.
-/

namespace ShapeTypes

namespace Shape

/-- A property is smaller than its object. -/
theorem sizeOf_property {a : Attributes} {properties : List Shape} {p : Shape}
    (h : p ∈ properties) : sizeOf p < sizeOf (object a properties) := by
  have hlt := List.sizeOf_lt_of_mem h
  simp only [object.sizeOf_spec]
  omega

/-- Induction over a shape: a statement holds of every shape if it passes from the properties of an
object to the object, from the items of an array to the array, and holds of all other shapes. -/
@[elab_as_elim, induction_eliminator]
theorem tree_induction {motive : Shape → Prop}
    (object : ∀ a properties, (∀ p ∈ properties, motive p) → motive (.object a properties))
    (array : ∀ a items, motive items → motive (.array a items))
    (boolean : ∀ a, motive (.boolean a))
    (number : ∀ a enumeration, motive (.number a enumeration))
    (string : ∀ a enumeration, motive (.string a enumeration))
    (untyped : ∀ a, motive (.untyped a))
    (foreign : ∀ value, motive (.foreign value)) : (shape : Shape) → motive shape
  | .object a properties => object a properties fun p _ =>
      tree_induction object array boolean number string untyped foreign p
  | .array a items => array a items
      (tree_induction object array boolean number string untyped foreign items)
  | .boolean a => boolean a
  | .number a enumeration => number a enumeration
  | .string a enumeration => string a enumeration
  | .untyped a => untyped a
  | .foreign value => foreign value
termination_by shape => sizeOf shape
decreasing_by
  · exact sizeOf_property ‹_›
  · simp only [Shape.array.sizeOf_spec]
    omega

/-! ## The nodes of a shape -/

mutual

/-- The shape itself and all that stands below it. -/
def nodes : Shape → List Shape
  | object a properties => object a properties :: nodesOf properties
  | array a items => array a items :: nodes items
  | other => [other]

/-- The nodes of several shapes. -/
def nodesOf : List Shape → List Shape
  | [] => []
  | shape :: rest => nodes shape ++ nodesOf rest

end

/-- The nodes of several shapes are those of each of them. -/
theorem mem_nodesOf {node : Shape} {shapes : List Shape} :
    node ∈ nodesOf shapes ↔ ∃ shape ∈ shapes, node ∈ shape.nodes := by
  induction shapes with
  | nil => simp [nodesOf]
  | cons shape rest ih => simp [nodesOf, ih]

/-- The nodes of an object are itself and the nodes of its properties. -/
theorem mem_nodes_object {node : Shape} {a : Attributes} {properties : List Shape} :
    node ∈ (object a properties).nodes ↔
      node = object a properties ∨ ∃ p ∈ properties, node ∈ p.nodes := by
  rw [nodes, List.mem_cons, mem_nodesOf]

/-- The nodes of an array are itself and the nodes of its items. -/
theorem mem_nodes_array {node : Shape} {a : Attributes} {items : Shape} :
    node ∈ (array a items).nodes ↔ node = array a items ∨ node ∈ items.nodes := by
  rw [nodes, List.mem_cons]

/-- A shape is one of its own nodes. -/
theorem self_mem_nodes (shape : Shape) : shape ∈ shape.nodes := by
  cases shape <;> simp [nodes]

end Shape

/-! ## Labels -/

/-- The value is null or a text, as a key or a name is meant to be. -/
def Value.isLabel : Value → Bool
  | .null | .string _ => true
  | _ => false

/-- A label that counts as given is a text. -/
theorem Value.eq_string_of_isLabel {v : Value} (hv : v.isLabel = true) (ht : v.truthy = true) :
    ∃ s, v = .string s := by
  cases v with
  | null => cases ht
  | string s => exact ⟨s, rfl⟩
  | _ => cases hv

namespace Shape

/-- Every key and every name in the tree is null or a text. -/
def HasTextLabels (shape : Shape) : Prop :=
  ∀ node ∈ shape.nodes, ∀ a, node.attributes? = some a →
    a.key.isLabel = true ∧ a.name.isLabel = true

namespace HasTextLabels

variable {a : Attributes} {properties : List Shape} {shape : Shape}

/-- The labels of the root of the tree. -/
theorem root (h : shape.HasTextLabels) (ha : shape.attributes? = some a) :
    a.key.isLabel = true ∧ a.name.isLabel = true :=
  h shape shape.self_mem_nodes a ha

/-- The labels of a property's tree. -/
theorem property (h : (object a properties).HasTextLabels) {p : Shape} (hp : p ∈ properties) :
    p.HasTextLabels := by
  intro node hnode
  exact h node (mem_nodes_object.mpr (Or.inr ⟨p, hp, hnode⟩))

/-- The labels of the tree of an array's items. -/
theorem items (h : (array a shape).HasTextLabels) : shape.HasTextLabels := by
  intro node hnode
  exact h node (mem_nodes_array.mpr (Or.inr hnode))

end HasTextLabels

/-! ## Trees of nodes -/

/-- The properties of an object; other shapes have none. -/
def properties : Shape → List Shape
  | object _ properties => properties
  | _ => []

/-- The tree consists of nodes whose keys and names are texts or missing. Another value may stand
for the items of an array, or be the root. -/
structure IsNodeTree (shape : Shape) : Prop where
  /-- Every key and every name is null or a text. -/
  labels : shape.HasTextLabels
  /-- Every property is a node. -/
  properties : ∀ node ∈ shape.nodes, ∀ p ∈ node.properties, p.attributes?.isSome = true

instance (shape : Shape) : Decidable shape.HasTextLabels :=
  inferInstanceAs (Decidable (∀ node ∈ shape.nodes, ∀ a ∈ node.attributes?,
    a.key.isLabel = true ∧ a.name.isLabel = true))

instance (shape : Shape) : Decidable shape.IsNodeTree :=
  decidable_of_iff (shape.HasTextLabels ∧
      ∀ node ∈ shape.nodes, ∀ p ∈ node.properties, p.attributes?.isSome = true)
    ⟨fun h => ⟨h.1, h.2⟩, fun h => ⟨h.labels, h.properties⟩⟩

namespace IsNodeTree

variable {a : Attributes} {properties : List Shape} {elements : Shape}

/-- The properties of an object are trees of nodes. -/
theorem property (h : (object a properties).IsNodeTree) {p : Shape} (hp : p ∈ properties) :
    p.IsNodeTree where
  labels := h.labels.property hp
  properties node hnode := h.properties node (mem_nodes_object.mpr (Or.inr ⟨p, hp, hnode⟩))

/-- The properties of an object have attributes. -/
theorem exists_attributes (h : (object a properties).IsNodeTree) {p : Shape}
    (hp : p ∈ properties) : ∃ b, p.attributes? = some b :=
  Option.isSome_iff_exists.mp (h.properties _ (self_mem_nodes _) p hp)

/-- The properties of an object are not missing. -/
theorem isMissing_property (h : (object a properties).IsNodeTree) {p : Shape}
    (hp : p ∈ properties) : p.isMissing = false := by
  obtain ⟨b, hb⟩ := h.exists_attributes hp
  cases p with
  | foreign value => cases hb
  | _ => rfl

/-- The items of an array are a tree of nodes. -/
theorem items (h : (array a elements).IsNodeTree) : elements.IsNodeTree where
  labels := h.labels.items
  properties node hnode := h.properties node (mem_nodes_array.mpr (Or.inr hnode))

end IsNodeTree

/-- Only null stands for a shape that is missing. -/
theorem isMissing_iff {shape : Shape} : shape.isMissing = true ↔ shape = .foreign .null := by
  constructor
  · intro h
    unfold isMissing at h
    split at h
    · rfl
    · contradiction
  · rintro rfl
    rfl

end Shape

end ShapeTypes
