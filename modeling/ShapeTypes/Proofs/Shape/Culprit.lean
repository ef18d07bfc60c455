import ShapeTypes.Proofs.Shape.Grammar

/-!
# The node that is rejected

A value that describes no shape is rejected for one node, and the failure carries a path to it.
Which node that is, and how the path should call it, is read off the value here.

* `Value.rejection?`: why a node has no variant; `Value.IsFaultless`: nothing is wrong with a node,
  apart from what is wrong below it.
* `Value.nodes`: all nodes in reading order, a node before those below it, each with the steps that
  lead to it.
* `Descent.labelled`: how a step should be written; `Descent.written`: how it is. They differ for a
  property that stands under a key and is no object, or gives itself a key that does not count as
  given (`Descent.losesKey`): its place is written in the place of the key.
* `Shape.of?_read`: **reading fails with the fault of the first node that has one**, by
  induction over the nodes with the path as an invariant.
* `Shape.ofValue_culprit`: **the rejected node is the first one that is at fault**, and the path
  leads to it; it is the labelled one if no step loses its key.
-/

namespace ShapeTypes

/-! ## Failures of a result -/

namespace Failure

variable {α β : Type}

/-- The failure, if there is no result. -/
def of? : Except Failure α → Option Failure
  | .ok _ => none
  | .error failure => some failure

@[simp] theorem of?_ok (a : α) : of? (.ok a) = none := rfl

@[simp] theorem of?_error (failure : Failure) :
    of? (.error failure : Except Failure α) = some failure := rfl

/-- What is mapped fails as it does without the map. -/
@[simp] theorem of?_map (f : α → β) (x : Except Failure α) : of? (x.map f) = of? x := by
  cases x <;> rfl

/-- There is a failure if and only if it is the outcome. -/
theorem of?_eq_some {x : Except Failure α} {failure : Failure} :
    of? x = some failure ↔ x = .error failure := by
  cases x <;> simp

end Failure

/-! ## Steps -/

/-- A step from a node to a node right below it. -/
inductive Descent where
  /-- To the items of an array. -/
  | items (target : Value)
  /-- To a property that stands under a key of a mapping, or under null, at a place among the
  properties. -/
  | property (key : Value) (index : Nat) (target : Value)

namespace Descent

/-- The node that the step leads to. -/
def target : Descent → Value
  | items target => target
  | property _ _ target => target

/-- The key of a mapping that the node stands under, or null. -/
def key : Descent → Value
  | items _ => .null
  | property key _ _ => key

/-- The key that a node gives itself. -/
def ownKey : Value → Value
  | .object entries => Entries.getOrNull entries "key"
  | _ => .null

/-- The node has no entry for a key, so that the key of the mapping stands in for it. -/
def inheritsKey : Value → Bool
  | .object entries => (Entries.get? entries "key").isNone
  | _ => false

/-- What a property should be called: its own key, else the key that it stands under, else its
place. -/
def label (key : Value) (index : Nat) (target : Value) : String :=
  if (ownKey target).truthy then (ownKey target).text
  else if key.truthy then key.text else naturalText index

/-- The property should be called by the key that it stands under, but that key is not taken over to
it. -/
def losesKey : Descent → Bool
  | items _ => false
  | property key _ target => key.truthy && !(ownKey target).truthy && !inheritsKey target

/-- How the step should be written in a path. -/
def labelled : Descent → String
  | items _ => "/items"
  | property key index target => "/properties/" ++ label key index target

/-- How the step is written in a path. -/
def written : Descent → String
  | items _ => "/items"
  | property key index target => "/properties/" ++
      if (property key index target).losesKey then naturalText index else label key index target

/-- A step that does not lose its key is written as it should be. -/
theorem written_eq_labelled {step : Descent} (h : step.losesKey = false) :
    step.written = step.labelled := by
  cases step with
  | items target => rfl
  | property key index target => rw [written, h, if_neg Bool.false_ne_true, labelled]

/-- The key of the property that the step leads to can be written: it does not count as given, or no
integer in it is too long. -/
def isLegible : Descent → Bool
  | items _ => true
  | property key _ target =>
    !(Shape.keyOf key target).truthy || (Shape.keyOf key target).isShowable

/-- A property is written by its key, or by its index. -/
theorem written_property (key : Value) (index : Nat) (target : Value) :
    (property key index target).written = "/properties/" ++
      if (Shape.keyOf key target).truthy then (Shape.keyOf key target).text
      else naturalText index := by
  rw [written, losesKey, label]
  cases target with
  | object entries =>
      cases hown : Entries.get? entries "key" with
      | none => simp [Shape.keyOf, ownKey, inheritsKey, Entries.getOrNull, hown]
      | some own =>
          cases howntruthy : own.truthy <;> cases key.truthy <;>
            simp [Shape.keyOf, ownKey, inheritsKey, Entries.getOrNull, hown, howntruthy]
  | _ => cases key.truthy <;> simp_all [Shape.keyOf, ownKey, inheritsKey]

/-- The path that goes on along some steps, each of which adds a text of its own. -/
def along (segment : Descent → String) (path : String) (trail : List Descent) : String :=
  trail.foldl (fun path step => path ++ segment step) path

/-- Where no step loses its key, the path is the labelled one. -/
theorem along_written_eq_labelled {trail : List Descent}
    (h : ∀ step ∈ trail, step.losesKey = false) (path : String) :
    along written path trail = along labelled path trail := by
  induction trail generalizing path with
  | nil => rfl
  | cons step rest ih =>
      obtain ⟨hstep, hrest⟩ := List.forall_mem_cons.mp h
      simp only [along, List.foldl_cons, written_eq_labelled hstep]
      exact ih hrest _

end Descent

/-! ## Nodes -/

namespace Value

/-- What is read property by property: what a list or a mapping holds, or the characters of a
text. -/
def children : Value → List (Value × Value)
  | string s => s.toList.map fun c => (null, string c.toString)
  | v => v.listed

/-- The steps from an object to the nodes right below it. -/
def descents (entries : Entries) : List Descent :=
  match entries.getOrNull "type" with
  | string "object" => (entries.getOrNull "properties").children.zipIdx.map fun child =>
      .property child.1.1 child.2 child.1.2
  | string "array" => (entries.get? "items").toList.map .items
  | _ => []

/-- The size of the part of a value that can hold nodes below it. -/
noncomputable def weight : Value → Nat
  | object entries => sizeOf (object entries)
  | _ => 0

/-- The weight is no more than the size. -/
theorem weight_le_sizeOf (v : Value) : v.weight ≤ sizeOf v := by
  cases v with
  | object entries => exact Nat.le_refl _
  | _ => exact Nat.zero_le _

/-- What is read as a property is listed, or it is a character. -/
theorem mem_children {v : Value} {child : Value × Value} (h : child ∈ v.children) :
    child ∈ v.listed ∨ ∃ s, child.2 = string s := by
  cases v with
  | string s =>
      obtain ⟨c, -, rfl⟩ := List.mem_map.mp h
      exact Or.inr ⟨_, rfl⟩
  | _ => exact Or.inl h

/-- The nodes below an object are smaller. -/
theorem weight_target_lt {entries : Entries} {step : Descent} (h : step ∈ descents entries) :
    step.target.weight < (object entries).weight := by
  unfold descents at h
  split at h
  · obtain ⟨⟨child, index⟩, hmem, rfl⟩ := List.mem_map.mp h
    rcases mem_children (List.fst_mem_of_mem_zipIdx hmem) with hlisted | ⟨s, hs⟩
    · exact Nat.lt_of_le_of_lt (weight_le_sizeOf _) (sizeOf_listed_getOrNull hlisted)
    · have htarget : (Descent.property child.1 index child.2).target = string s := hs
      simp only [htarget, weight, object.sizeOf_spec]
      omega
  · obtain ⟨v, hv, rfl⟩ := List.mem_map.mp h
    exact Nat.lt_of_le_of_lt (weight_le_sizeOf _) (sizeOf_get? (Option.mem_toList.mp hv))
  · contradiction

/-- All nodes in the order in which they are read, with the steps that lead to them. -/
def nodes : Value → List (List Descent × Value)
  | object entries => ([], object entries) :: (descents entries).attach.flatMap fun step =>
      (nodes step.1.target).map fun node => (step.1 :: node.1, node.2)
  | v => [([], v)]
termination_by v => v.weight
decreasing_by exact weight_target_lt step.2

/-- The nodes of an object are itself and those of the nodes right below it. -/
theorem nodes_object (entries : Entries) : nodes (object entries) =
    ([], object entries) :: (descents entries).flatMap fun step =>
      (nodes step.target).map fun node => (step :: node.1, node.2) := by
  rw [nodes]
  simp only [List.flatMap_subtype, List.unattach_attach]

/-- What is no object is its only node. -/
theorem nodes_of_not_object {v : Value} (h : ∀ entries, v ≠ object entries) :
    v.nodes = [([], v)] := by
  cases v with
  | object entries => exact absurd rfl (h entries)
  | _ => rw [nodes]; nofun

/-- The first node is the value itself. -/
theorem exists_nodes_eq_cons (v : Value) : ∃ rest, v.nodes = ([], v) :: rest := by
  cases v with
  | object entries => exact ⟨_, nodes_object entries⟩
  | _ => exact ⟨[], nodes_of_not_object nofun⟩

/-! ## Faults of a node -/

/-- Why a value is no node of a schema: it is no object, has an unknown variant, or is an array
without items. -/
def rejection? : Value → Option String
  | object entries =>
    match Entries.getOrNull entries "type" with
    | string "object" | string "boolean" | string "number" | string "string" => none
    | string "array" =>
      if (Entries.get? entries "items").isSome then none else some "array without items"
    | other => if other.isShowable then some other.text else none
  | v => some v.typeName

/-- The entry that should name the variant of a node holds an integer that is too long to be
shown. -/
def hasLongType : Value → Bool
  | object entries => !(Entries.getOrNull entries "type").isShowable
  | _ => false

/-- Nothing is wrong with a node, apart from what is wrong below it: it has a variant, and no number
and not true stands for its properties or its enumeration. -/
def IsFaultless (v : Value) : Prop :=
  v.rejection? = none ∧ v.hasLongType = false ∧
    ∀ entries, v = object entries → ¬ Shape.HasScalarField entries

/-- The steps that lead to a node can be written. -/
def IsReached (trail : List Descent) : Prop := ∀ step ∈ trail, step.isLegible = true

/-- The node at the end of some steps is rejected for a variant, and nothing is wrong with any node
in front of it or with the keys on the way. -/
def IsRejectedAt (v : Value) (trail : List Descent) (variant : String) : Prop :=
  ∃ before culprit after, v.nodes = before ++ (trail, culprit) :: after ∧
    (∀ earlier ∈ before, IsReached earlier.1 ∧ earlier.2.IsFaultless) ∧
    IsReached trail ∧ culprit.rejection? = some variant

/-- Whether a value is true, or a number other than zero. -/
def isScalar : Value → Bool
  | bool b => b
  | int n => n != 0
  | double x => !x.isZero
  | _ => false

/-- The check finds what may stand neither for properties nor for an enumeration. -/
theorem isScalar_iff {v : Value} : v.isScalar = true ↔ v.IsScalar := by
  constructor
  · intro h
    cases v with
    | bool b =>
        obtain rfl : b = true := h
        exact .true
    | int n => exact .int (by simpa [isScalar] using h)
    | double x => exact .double (by simpa [isScalar] using h)
    | _ => contradiction
  · intro h
    cases h with
    | true => rfl
    | int h => simpa [isScalar] using h
    | double h => simpa [isScalar] using h

/-- Whether a number or true stands for the properties of a node or for its enumeration. -/
def hasScalarField : Value → Bool
  | object entries =>
    match Entries.getOrNull entries "type" with
    | string "object" => (Entries.getOrNull entries "properties").isScalar
    | string "number" | string "string" => (Entries.getOrNull entries "enum").isScalar
    | _ => false
  | _ => false

/-- The check finds the fields that hold a number or true. -/
theorem hasScalarField_iff {entries : Entries} :
    (object entries).hasScalarField = true ↔ Shape.HasScalarField entries := by
  unfold hasScalarField Shape.HasScalarField
  dsimp only
  split <;> simp_all [isScalar_iff]

/-- What is wrong with a node under a path, apart from what is wrong below it. -/
def fault? (path : String) (v : Value) : Option Failure :=
  match v.rejection? with
  | some variant => some (.unknownVariant variant (.string path))
  | none =>
    if v.hasLongType then some .longInteger
    else if v.hasScalarField then some .wrongKind else none

/-- A node has no fault if and only if nothing is wrong with it. -/
theorem fault?_eq_none {path : String} {v : Value} : v.fault? path = none ↔ v.IsFaultless := by
  unfold fault? IsFaultless
  cases hrejection : v.rejection? with
  | some variant => simp
  | none =>
      cases v with
      | object entries =>
          cases (object entries).hasLongType <;> simp [← hasScalarField_iff]
      | _ => contradiction

/-- A rejected node has its fault under the path that leads to it. -/
theorem fault?_eq_unknownVariant {path variant : String} {path' v : Value} :
    v.fault? path = some (.unknownVariant variant path') ↔
      v.rejection? = some variant ∧ path' = .string path := by
  unfold fault?
  cases v.rejection? with
  | some found => simp [eq_comm]
  | none => cases v.hasLongType <;> cases v.hasScalarField <;> simp

/-- What is wrong with the node at the end of some steps, which start at a path: a step that is not
legible, or the fault of the node. -/
def faultAt? (path : String) (node : List Descent × Value) : Option Failure :=
  if node.1.all Descent.isLegible then
    node.2.fault? (Descent.along Descent.written path node.1)
  else some .longInteger

/-- Nothing is wrong with a node that is reached and has no fault. -/
theorem faultAt?_eq_none {path : String} {node : List Descent × Value} :
    faultAt? path node = none ↔ IsReached node.1 ∧ node.2.IsFaultless := by
  unfold faultAt? IsReached
  rw [← List.all_eq_true]
  split
  · rename_i hreached
    rw [fault?_eq_none, and_iff_right hreached]
  · rename_i hreached
    simp [hreached]

/-- A rejected node that is reached has its fault under the path of its steps. -/
theorem faultAt?_eq_unknownVariant {path variant : String} {path' : Value}
    {node : List Descent × Value} :
    faultAt? path node = some (.unknownVariant variant path') ↔
      IsReached node.1 ∧ node.2.rejection? = some variant ∧
        path' = .string (Descent.along Descent.written path node.1) := by
  unfold faultAt? IsReached
  rw [← List.all_eq_true]
  split
  · rename_i hreached
    rw [fault?_eq_unknownVariant, and_iff_right hreached]
  · rename_i hreached
    simp [hreached]

/-- Behind a step that is legible, a node has the fault that it has from the end of the step on. -/
theorem faultAt?_cons {step : Descent} (h : step.isLegible = true) (path : String)
    (node : List Descent × Value) :
    faultAt? path (step :: node.1, node.2) = faultAt? (path ++ step.written) node := by
  simp only [faultAt?, List.all_cons, h, Bool.true_and]
  rfl

/-- Behind a step that is not legible, every node is at fault. -/
theorem faultAt?_cons_of_not_isLegible {step : Descent} (h : ¬ step.isLegible = true)
    (path : String) (node : List Descent × Value) :
    faultAt? path (step :: node.1, node.2) = some .longInteger := by
  simp [faultAt?, h]

end Value

/-! ## The first fault -/

namespace Shape

variable {path : String}

/-- What is read at the end of a step. -/
def readStep (path : String) (step : Descent) : Except Failure Shape :=
  if step.isLegible then read (path ++ step.written) step.key step.target
  else .error .longInteger

/-- A child is read at the end of the step that comes to it. -/
theorem readChild_eq (index : Nat) (child : Value × Value) :
    readChild path index child = readStep path (.property child.1 index child.2) := by
  rw [readChild, propertyPath_eq, readStep, Descent.written_property, ← String.append_assoc,
    Descent.isLegible]
  cases !(keyOf child.1 child.2).truthy || (keyOf child.1 child.2).isShowable <;> rfl

/-- Children have the fault of the first one with a fault. -/
theorem of?_readListed (index : Nat) (children : List (Value × Value)) :
    Failure.of? (readListed path index children) =
      (children.zipIdx index).findSome? fun child =>
        Failure.of? (readStep path (.property child.1.1 child.2 child.1.2)) := by
  induction children generalizing index with
  | nil => rfl
  | cons child rest ih =>
      rw [readListed, readChild_eq, List.zipIdx_cons, List.findSome?_cons]
      cases readStep path (.property child.1 index child.2) with
      | error failure => rfl
      | ok shape =>
          rw [Failure.of?_ok, ← ih]
          exact Failure.of?_map _ _

/-- Properties have the fault of the first one with a fault, unless they are none. -/
theorem of?_readChildren {v : Value} (h : v.isScalar = false) :
    Failure.of? (readChildren path v) =
      v.children.zipIdx.findSome? fun child =>
        Failure.of? (readStep path (.property child.1.1 child.2 child.1.2)) := by
  have hscalar : ¬ v.IsScalar := fun hv => by simp [Value.isScalar_iff.mpr hv] at h
  rcases v.isListing_cases with hlisting | hv | ⟨s, hs, rfl⟩
  · rw [readChildren_of_isListing hlisting, of?_readListed]
    cases v with
    | string s =>
        obtain rfl : s = "" := by simpa [Value.IsListing, Value.truthy] using hlisting
        rfl
    | _ => rfl
  · contradiction
  · -- the first character of a text is no object
    obtain ⟨c, cs, hcs⟩ := List.exists_cons_of_ne_nil (mt String.toList_eq_nil_iff.mp hs)
    rw [readChildren, if_neg hs, Value.children, hcs, List.map_cons, List.zipIdx_cons,
      List.findSome?_cons, readStep, Descent.written_property, String.append_assoc]
    rfl

/-- An enumeration has a fault if it is a number or true. -/
theorem of?_enumerationOf (v : Value) :
    Failure.of? (enumerationOf v) = if v.isScalar then some .wrongKind else none := by
  rcases v.isEnumeration_or_isScalar with henum | hscalar
  · have hscalar : v.isScalar = false := by
      rw [Bool.eq_false_iff, ne_eq, Value.isScalar_iff]
      intro hscalar
      have hread := enumerationOf_of_isEnumeration henum
      rw [enumerationOf_of_isScalar hscalar] at hread
      contradiction
    rw [enumerationOf_of_isEnumeration henum, hscalar]
    rfl
  · rw [enumerationOf_of_isScalar hscalar, Value.isScalar_iff.mpr hscalar]
    rfl

/-- A node has its own fault, or else that of the first node right below it with one. -/
theorem of?_read_object (key : Value) (entries : Entries) :
    Failure.of? (read path key (.object entries)) =
      ((Value.object entries).fault? path).or ((Value.descents entries).findSome? fun step =>
        Failure.of? (readStep path step)) := by
  unfold Value.fault? Value.rejection? Value.hasLongType Value.hasScalarField Value.descents
  rw [read]
  split
  · rename_i htype
    simp only [htype, Failure.of?_map, readProperties_eq]
    cases hscalar : (entries.getOrNull "properties").isScalar with
    | true =>
        rw [readChildren_of_isScalar (Value.isScalar_iff.mp hscalar)]
        rfl
    | false =>
        rw [of?_readChildren hscalar, List.findSome?_map]
        rfl
  · rename_i htype
    simp only [htype, Failure.of?_map, readItems_eq]
    cases Entries.get? entries "items" <;>
      simp [readStep, Descent.isLegible, Descent.written, Descent.key, Descent.target]
  · rename_i htype
    simp only [htype]
    rfl
  · rename_i htype
    simp only [htype, Failure.of?_map, of?_enumerationOf]
    exact Option.or_none.symm
  · rename_i htype
    simp only [htype, Failure.of?_map, of?_enumerationOf]
    exact Option.or_none.symm
  · cases hlong : (entries.getOrNull "type").isShowable <;> simp [Failure.unknownType, *]

/-- **Reading fails with the fault of the first node that has one**, or that is not reached. -/
theorem of?_read {v : Value} : ∀ {path : String} {key : Value},
    Failure.of? (read path key v) = v.nodes.findSome? (Value.faultAt? path) := by
  induction v using Value.nodes.induct with
  | case1 entries ih =>
      intro path key
      rw [of?_read_object, Value.nodes_object, List.findSome?_cons, List.findSome?_flatMap]
      have hbelow : ∀ step ∈ Value.descents entries, Failure.of? (readStep path step) =
          (step.target.nodes.map fun node => (step :: node.1, node.2)).findSome?
            (Value.faultAt? path) := by
        intro step hstep
        rw [List.findSome?_map]
        unfold readStep
        split
        · rename_i hlegible
          have hfault : Value.faultAt? path ∘ (fun node => (step :: node.1, node.2)) =
              Value.faultAt? (path ++ step.written) :=
            funext fun node => Value.faultAt?_cons hlegible path node
          rw [ih ⟨step, hstep⟩, hfault]
        · rename_i hlegible
          obtain ⟨rest, hnodes⟩ := step.target.exists_nodes_eq_cons
          rw [hnodes, List.findSome?_cons, Function.comp_apply,
            Value.faultAt?_cons_of_not_isLegible hlegible path ([], step.target)]
          rfl
      rw [← List.head?_filterMap, List.filterMap_congr hbelow, List.head?_filterMap]
      have hroot : Value.faultAt? path ([], .object entries) =
          (Value.object entries).fault? path := rfl
      rw [hroot]
      cases (Value.object entries).fault? path <;> rfl
  | case2 v hv =>
      intro path key
      rw [read_of_not_object hv, Value.nodes_of_not_object hv, List.findSome?_singleton]
      cases v with
      | object entries => exact absurd rfl (hv entries)
      | _ => rfl

/-- **The rejected node is the first one that is at fault.** A value is rejected for an unknown
variant exactly if the first node of it that is at fault is rejected for that variant; the path of
the failure is that of the steps which lead to the node. It is the labelled path, unless one of the
steps loses its key. -/
theorem ofValue_culprit (v : Value) (variant : String) (path : Value) :
    ofValue v = .error (.unknownVariant variant path) ↔
      ∃ trail, v.IsRejectedAt trail variant ∧
        path = .string (Descent.along Descent.written "#" trail) ∧
        (path = .string (Descent.along Descent.labelled "#" trail) ∨
          ∃ step ∈ trail, step.losesKey = true) := by
  rw [ofValue, ← Failure.of?_eq_some, of?_read, List.findSome?_eq_some_iff]
  constructor
  · rintro ⟨before, ⟨trail, culprit⟩, after, hnodes, hfault, hbefore⟩
    obtain ⟨hreached, hrejection, rfl⟩ := Value.faultAt?_eq_unknownVariant.mp hfault
    refine ⟨trail, ⟨before, culprit, after, hnodes, ?_, hreached, hrejection⟩, rfl, ?_⟩
    · exact fun earlier hearlier => Value.faultAt?_eq_none.mp (hbefore earlier hearlier)
    · by_cases hloses : ∃ step ∈ trail, step.losesKey = true
      · exact Or.inr hloses
      · left
        rw [Descent.along_written_eq_labelled (by simpa using hloses)]
  · rintro ⟨trail, ⟨before, culprit, after, hnodes, hbefore, hreached, hrejection⟩, hpath, -⟩
    refine ⟨before, (trail, culprit), after, hnodes, ?_, ?_⟩
    · exact Value.faultAt?_eq_unknownVariant.mpr ⟨hreached, hrejection, hpath⟩
    · exact fun earlier hearlier => Value.faultAt?_eq_none.mpr (hbefore earlier hearlier)

/-- A number stands for the shape of a property. -/
def agesEntries : Entries :=
  [("type", .string "object"), ("properties", .object [("age", .int 5)])]

/-- The number is rejected under its place among the properties, not under its key. -/
theorem not_labelled_ages :
    ofValue (.object agesEntries) = .error (.unknownVariant "int" (.string "#/properties/0")) ∧
    (Value.object agesEntries).IsRejectedAt [.property (.string "age") 0 (.int 5)] "int" ∧
    ¬ ∀ variant path, ofValue (.object agesEntries) = .error (.unknownVariant variant path) →
      ∃ trail, (Value.object agesEntries).IsRejectedAt trail variant ∧
        path = .string (Descent.along Descent.labelled "#" trail) := by
  have hread : ofValue (.object agesEntries) =
      .error (.unknownVariant "int" (.string "#/properties/0")) := rfl
  have hdescents : Value.descents agesEntries = [.property (.string "age") 0 (.int 5)] := rfl
  have hbelow : (Value.int 5).nodes = [([], .int 5)] := Value.nodes_of_not_object nofun
  have hnodes : (Value.object agesEntries).nodes =
      [([], .object agesEntries), ([.property (.string "age") 0 (.int 5)], .int 5)] := by
    rw [Value.nodes_object, hdescents, List.flatMap_singleton, Descent.target, hbelow]
    rfl
  have hroot : (Value.object agesEntries).IsFaultless :=
    Value.fault?_eq_none.mp (rfl : Value.fault? "#" _ = none)
  refine ⟨hread, ⟨[([], .object agesEntries)], .int 5, [], hnodes, ?_, ?_, rfl⟩, ?_⟩
  · simpa [Value.IsReached] using hroot
  · exact List.forall_mem_singleton.mpr rfl
  · intro hclaim
    obtain ⟨trail, ⟨before, culprit, after, hsplit, hbefore, -, hrejection⟩, hpath⟩ :=
      hclaim _ _ hread
    rw [hnodes] at hsplit
    cases before with
    | nil =>
        -- the first node is an object with a variant
        cases hsplit
        contradiction
    | cons first rest =>
        cases rest with
        | nil =>
            cases hsplit
            exact absurd (Value.string.inj hpath) (by decide +kernel)
        | cons second rest => simp at hsplit

end Shape

end ShapeTypes
