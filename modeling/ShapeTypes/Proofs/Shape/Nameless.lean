import ShapeTypes.Proofs.Name.Element
import ShapeTypes.Proofs.Shape.Faults

/-!
# Missing names

A schema is refused for a missing name if its root array has none, or if an object has neither a
name of its own nor one that is derived. No name is derived where there is nothing to derive it
from, and none from the single letter s, of which the singular is nothing.

* `Origin.IsSilent`: the origins that explain no name.
* `Shape.LacksName`: an object without any name.
* `Shape.result_declareRoot_nameless`: **when a name is missing**.
  `Shape.result_declareRoot_team`: a key to derive it from does not always help.
-/

namespace ShapeTypes

/-- The origin explains no name: what would name an object has no word, or it is an array of objects
with the single letter s for a word. -/
def Origin.IsSilent (origin : Origin) : Prop :=
  origin.arrays = 0 ∧ origin.word = "" ∨ origin.arrays = 1 ∧ origin.word ∈ ["s", "S", "ſ"]

/-- Nothing is derived from the origins that explain no name, and only from them. -/
theorem Origin.derived_eq_empty_iff {origin : Origin} : origin.derived = "" ↔ origin.IsSilent :=
  Name.iterate_elementName_eq_empty_iff

namespace Shape

/-- The shape is an array without a name. -/
def IsNamelessArray : Shape → Prop
  | array a _ => a.name.truthy = false
  | _ => False

/-- The node is an object without a name of its own and without a name to derive. -/
def LacksName : Shape × Origin → Prop
  | (object a _, origin) => a.name.truthy = false ∧ origin.IsSilent
  | _ => False

/-- The name of an object is empty if it is not given and its origin explains none. -/
theorem nameAt_eq_false_iff {a : Attributes} {origin : Origin} :
    (nameAt a origin).truthy = false ↔ a.name.truthy = false ∧ origin.IsSilent := by
  unfold nameAt
  cases hname : a.name.truthy with
  | true => simp [hname]
  | false =>
      rw [if_neg Bool.false_ne_true, ← Bool.not_eq_true, Value.truthy_string, not_not,
        Name.capitalized_eq_empty_iff, Origin.derived_eq_empty_iff]
      simp

/-- What is wrong with an enumeration is not a missing name. -/
theorem fault?_enumeration_ne {kind : LiteralKind} {key : Value} {values : List Value}
    {failure : Failure} (h : kind.fault? key values = some failure) :
    failure ≠ .namelessArray ∧ failure ≠ .namelessObject := by
  rcases LiteralKind.fault?_cases h with ⟨variant, rfl⟩ | hoverflows
  · simp
  · cases hoverflows <;> simp

/-- The only fault of a root that has to do with names is the missing name of an array. -/
theorem rootFault?_nameless {shape : Shape} :
    (rootFault? shape = some .namelessArray ↔ shape.IsNamelessArray) ∧
      rootFault? shape ≠ some .namelessObject := by
  cases shape with
  | array a items =>
      cases hname : a.name.truthy <;> cases items <;> simp [rootFault?, IsNamelessArray, hname]
  | _ => simp [rootFault?, IsNamelessArray]

/-- The only fault of a node that has to do with names is the missing name of an object. -/
theorem fault?_nameless {visit : Shape × Origin} :
    (fault? visit = some .namelessObject ↔ LacksName visit) ∧
      fault? visit ≠ some .namelessArray := by
  obtain ⟨shape, origin⟩ := visit
  cases shape with
  | object a properties => simp [fault?, LacksName, ← nameAt_eq_false_iff]
  | number a enumeration =>
      exact ⟨iff_of_false (fun h => (fault?_enumeration_ne h).2 rfl) id,
        fun h => (fault?_enumeration_ne h).1 rfl⟩
  | string a enumeration =>
      exact ⟨iff_of_false (fun h => (fault?_enumeration_ne h).2 rfl) id,
        fun h => (fault?_enumeration_ne h).1 rfl⟩
  | foreign value => cases value <;> simp [fault?, LacksName]
  | _ => simp [fault?, LacksName]

/-- **When a name is missing.** Let the keys and names of a tree of nodes be texts or missing.
Declaring it fails for the missing name of the root if and only if that is an array without one. It
fails for the missing name of an object if and only if such an object is the first thing that is
wrong: it has no name of its own, and what it would be named after has no word, or is an array named
with the single letter s. -/
theorem result_declareRoot_nameless (keys : List Value) {shape : Shape} (h : shape.IsNodeTree) :
    ((declareRoot (.list keys) shape).result = .error .namelessArray ↔ shape.IsNamelessArray) ∧
    ((declareRoot (.list keys) shape).result = .error .namelessObject ↔
      shape.IsRoot ∧ ∃ before visit after,
        rootVisits (.list keys) shape = before ++ visit :: after ∧
          (∀ earlier ∈ before, fault? earlier = none) ∧ LacksName visit) := by
  rw [result_declareRoot_eq_error keys h, result_declareRoot_eq_error keys h]
  constructor
  · rw [IsFirstFault, rootFault?_nameless.1, or_iff_left]
    rintro ⟨-, before, visit, after, -, -, hfault⟩
    exact fault?_nameless.2 hfault
  · simp only [IsFirstFault, rootFault?_nameless.2, false_or, rootFault?_eq_none_iff,
      fault?_nameless.1]

/-- Clubs without a name, whose members stand in arrays of arrays under the key s. -/
def clubs : Shape := .object {} [.array { key := .string "s" } (.array {} (.object {} []))]

/-- The clubs are refused for their own name; the members of arrays of arrays have one. -/
theorem result_declareRoot_clubs : clubs.IsNodeTree ∧
    (declareRoot (.list []) clubs).result = .error .namelessObject := by
  have htree : clubs.IsNodeTree := by decide
  have hname : (nameAt {} ⟨"s", 2⟩).truthy = true := by decide +kernel
  have hbefore : ∀ earlier ∈ visits (.list []) (.array { key := .string "s" }
      (.array {} (.object {} []))) ⟨"s", 0⟩, fault? earlier = none := by
    simp [visits, visitsOf, Origin.inArray, fault?, hname, isMissing]
  refine ⟨htree, (result_declareRoot_nameless [] htree).2.mpr ⟨trivial, ?_⟩⟩
  exact ⟨_, (clubs, ⟨"", 0⟩), [], rfl, hbefore, rfl, Or.inl ⟨rfl, rfl⟩⟩

/-- An array of members under the key s. -/
def members : Shape := .array { key := .string "s" } (.object {} [])

/-- A team with such members. -/
def team : Shape := .object { name := .string "Team" } [members]

/-- The team is refused for a missing name, although it has one and its members have a key to derive
one from. -/
theorem result_declareRoot_team : team.IsNodeTree ∧
    (declareRoot (.list []) team).result = .error .namelessObject ∧ ¬ team.IsNamelessArray ∧
    ∀ visit ∈ rootVisits (.list []) team, ∀ a properties, visit.1 = object a properties →
      a.name.truthy = true ∨ visit.2.word ≠ "" := by
  have hvisits : rootVisits (.list []) team =
      [(.object {} [], ⟨"s", 1⟩), (members, ⟨"s", 0⟩), (team, ⟨"", 0⟩)] := rfl
  refine ⟨by decide, rfl, id, fun visit hvisit a properties hobject => ?_⟩
  simp only [hvisits, List.mem_cons, List.not_mem_nil, or_false] at hvisit
  rcases hvisit with rfl | rfl | rfl
  · exact Or.inr (by decide)
  · cases hobject
  · cases hobject
    exact Or.inl rfl

end Shape

end ShapeTypes
