import ShapeTypes.Proofs.Shape.Success

/-!
# Where fields come from

* `Decl.fields`: the fields of a declaration.
* `Shape.Yields`: a field that belongs to one of some nodes; it carries the key of the node, and
  whether the node may be missing.
* `Shape.yields_of_declareRoot`: **every field that a schema puts out belongs to a node of the
  schema**. So what is known of the labels and flags of a schema is known of all fields
  (`Shape.exists_fieldName_of_declareRoot`, `Shape.exists_optional_of_declareRoot`).
-/

namespace ShapeTypes

/-- The fields of a record; other declarations have none. -/
def Decl.fields (decl : Decl) : List Field :=
  match decl.body with
  | .record fields => fields
  | _ => []

namespace Shape

/-- The field belongs to one of the nodes. -/
def Yields (nodes : List Shape) (field : Field) : Prop :=
  ∃ node ∈ nodes, ∃ key type, node.key? = .ok key ∧ field = fieldOf node key type

variable {ignored : Ignored} {derived : Value} {items : List Decl} {t : TypeExpr}

/-- More nodes may be looked at. -/
theorem Yields.mono {nodes more : List Shape} {field : Field} (h : Yields nodes field)
    (hsub : nodes ⊆ more) : Yields more field := by
  obtain ⟨node, hnode, hfield⟩ := h
  exact ⟨node, hsub hnode, hfield⟩

/-- What succeeds puts out fields that belong to the nodes of the shape. -/
theorem yields_cases (ignored : Ignored) : SuccessCases ignored
    (fun shape _ items _ => ∀ decl ∈ items, ∀ field ∈ decl.fields, Yields shape.nodes field)
    (fun properties items fields =>
      (∀ decl ∈ items, ∀ field ∈ decl.fields, Yields (nodesOf properties) field) ∧
        ∀ field ∈ fields, Yields (nodesOf properties) field) where
  object := by
    intro a properties derived before fields name hfields _ decl hdecl field hfield
    have hsub : nodesOf properties ⊆ (object a properties).nodes := by
      rw [nodes]
      exact List.subset_cons_self _ _
    rcases List.mem_append.mp hdecl with hbefore | hlast
    · exact (hfields.1 decl hbefore field hfield).mono hsub
    · rw [List.mem_singleton.mp hlast] at hfield
      exact (hfields.2 field hfield).mono hsub
  array := by
    intro a elements derived name items element _ helement decl hdecl field hfield
    refine (helement decl hdecl field hfield).mono ?_
    rw [nodes]
    exact List.subset_cons_self _ _
  boolean := fun decl hdecl => absurd hdecl List.not_mem_nil
  number := fun _ decl hdecl => absurd hdecl List.not_mem_nil
  string := fun _ decl hdecl => absurd hdecl List.not_mem_nil
  nil := ⟨fun decl hdecl => absurd hdecl List.not_mem_nil,
    fun field hfield => absurd hfield List.not_mem_nil⟩
  hidden := by
    intro property rest key items fields _ _ hrest
    have hsub : nodesOf rest ⊆ nodesOf (property :: rest) := List.subset_append_right _ _
    exact ⟨fun decl hdecl field hfield => (hrest.1 decl hdecl field hfield).mono hsub,
      fun field hfield => (hrest.2 field hfield).mono hsub⟩
  shown := by
    intro property rest key before type after tail hkey _ htype hrest
    have hfirst : property.nodes ⊆ nodesOf (property :: rest) := List.subset_append_left _ _
    have hothers : nodesOf rest ⊆ nodesOf (property :: rest) := List.subset_append_right _ _
    refine ⟨fun decl hdecl field hfield => ?_, fun field hfield => ?_⟩
    · rcases List.mem_append.mp hdecl with hbefore | hafter
      · exact (htype decl hbefore field hfield).mono hfirst
      · exact (hrest.1 decl hafter field hfield).mono hothers
    · rcases List.mem_cons.mp hfield with rfl | htail
      · exact ⟨property, hfirst property.self_mem_nodes, key, type, hkey, rfl⟩
      · exact (hrest.2 field htail).mono hothers

/-- The fields that an object puts out belong to its nodes. -/
theorem yields_of_declareObject {shape : Shape}
    (h : declareObject ignored shape derived = ⟨items, .ok t⟩) :
    ∀ decl ∈ items, ∀ field ∈ decl.fields, Yields shape.nodes field := by
  obtain ⟨a, properties, before, fields, name, rfl, hfields, hname, rfl, rfl⟩ :=
    declareObject_eq_ok.mp h
  have htype := declareType_object_eq_ok.mpr ⟨before, fields, name, hfields, hname, rfl, rfl⟩
  exact (yields_cases ignored).type _ _ _ _ htype

/-- **Every field that a schema puts out belongs to a node of the schema.** -/
theorem yields_of_declareRoot {shape : Shape} (h : declareRoot ignored shape = ⟨items, .ok t⟩) :
    ∀ decl ∈ items, ∀ field ∈ decl.fields, Yields shape.nodes field := by
  rcases declareRoot_eq_ok h with hobject | ⟨a, elements, rfl, harray⟩
  · exact yields_of_declareObject hobject
  · obtain ⟨name, before, element, -, -, helement, rfl, -⟩ := declareRootArray_eq_ok.mp harray
    intro decl hdecl field hfield
    rcases List.mem_append.mp hdecl with hbefore | hlast
    · refine (yields_of_declareObject helement decl hbefore field hfield).mono ?_
      rw [nodes]
      exact List.subset_cons_self _ _
    · rw [List.mem_singleton.mp hlast] at hfield
      exact absurd hfield List.not_mem_nil

/-! ## Labels and flags -/

/-- A shape with a key has attributes. -/
theorem exists_attributes_of_key? {node : Shape} {key : Value} (h : node.key? = .ok key) :
    ∃ a, node.attributes? = some a ∧ a.key = key := by
  unfold key? at h
  cases ha : node.attributes? with
  | none =>
      rw [ha] at h
      cases h
  | some a =>
      rw [ha] at h
      exact ⟨a, rfl, Except.ok.inj h⟩

/-- The fields of a schema with text labels are named by texts. -/
theorem exists_fieldName_of_declareRoot {shape : Shape} (hlabels : shape.HasTextLabels)
    (h : declareRoot ignored shape = ⟨items, .ok t⟩) :
    ∀ decl ∈ items, ∀ field ∈ decl.fields, ∃ s, field.name = .string s := by
  intro decl hdecl field hfield
  obtain ⟨node, hnode, key, type, hkey, rfl⟩ := yields_of_declareRoot h decl hdecl field hfield
  obtain ⟨a, ha, rfl⟩ := exists_attributes_of_key? hkey
  have hlabel := (hlabels node hnode a ha).1
  unfold fieldOf Value.orEmpty
  split
  · rename_i htruthy
    exact Value.eq_string_of_isLabel hlabel htruthy
  · exact ⟨"", rfl⟩

/-- Whether a value may be missing is said by a truth value, everywhere in the tree. -/
def HasBooleanOptional (shape : Shape) : Prop :=
  ∀ node ∈ shape.nodes, ∀ a ∈ node.attributes?, ∃ b, a.optional = .bool b

/-- Whether a value is a truth value can be decided. -/
instance decidableIsBool : (v : Value) → Decidable (∃ b, v = .bool b)
  | .bool b => isTrue ⟨b, rfl⟩
  | .null | .int _ | .double _ | .string _ | .list _ | .object _ =>
    isFalse fun ⟨_, h⟩ => Value.noConfusion h

instance (shape : Shape) : Decidable shape.HasBooleanOptional :=
  inferInstanceAs
    (Decidable (∀ node ∈ shape.nodes, ∀ a ∈ node.attributes?, ∃ b, a.optional = .bool b))

/-- The fields of a schema with truth values as flags have truth values as flags. -/
theorem exists_optional_of_declareRoot {shape : Shape} (hflags : shape.HasBooleanOptional)
    (h : declareRoot ignored shape = ⟨items, .ok t⟩) :
    ∀ decl ∈ items, ∀ field ∈ decl.fields, ∃ b, field.optional = .bool b := by
  intro decl hdecl field hfield
  obtain ⟨node, hnode, key, type, hkey, rfl⟩ := yields_of_declareRoot h decl hdecl field hfield
  obtain ⟨a, ha, rfl⟩ := exists_attributes_of_key? hkey
  obtain ⟨b, hb⟩ := hflags node hnode a ha
  refine ⟨b, ?_⟩
  unfold fieldOf
  rw [ha]
  exact hb

end Shape

end ShapeTypes
