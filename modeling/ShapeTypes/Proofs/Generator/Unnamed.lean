import ShapeTypes.Proofs.Generator.RootArray
import ShapeTypes.Proofs.Name.Distinct

/-!
# Arrays of items without a name

If the items of a root array have no explicit name, their record is named after the array. That name
is never the one of the array, so neither declaration displaces the other.

* `Shape.elementName_of_unnamed`: the name of the record.
* `Generator.elementName_distinct`: **an array and its elements never get the same name**: neither
  by deriving a name, with a capital letter or without, nor among the declarations of a schema, all
  of which are kept.
-/

namespace ShapeTypes

/-- Items without an explicit name are named after their array, with a capital letter. -/
theorem Shape.elementName_of_unnamed {a b : Attributes} {properties : List Shape} {name : String}
    {element : Value} (ha : a.name = .string name) (hb : b.name.truthy = false)
    (h : elementName a (.object b properties) = .ok element) :
    element = .string (Name.capitalized (Name.elementName name)) := by
  have hobject : objectName b (.string (Name.elementName name)) = .ok element := by
    rw [elementName, ha] at h
    exact h
  rw [objectName, hb, if_neg Bool.false_ne_true] at hobject
  dsimp only [sourceName, capitalizedValue] at hobject
  split at hobject
  · contradiction
  · exact (Except.ok.inj hobject).symm

namespace Generator

/-- **An array and its elements never get the same name.** The name that is derived for the elements
of a collection is not the name of the collection, and with a capital letter it is not either. So if
the items of a root array have no explicit name, what is put out for it ends with the record of the
items and the alias for the array under two names, and both are among the declarations. -/
theorem elementName_distinct {name : String} (hname : name ≠ "") :
    Name.elementName name ≠ name ∧ Name.capitalized (Name.elementName name) ≠ name ∧
    (∀ ignored a b properties emitted root, a.name = .string name → b.name.truthy = false →
      Shape.declareRoot ignored (.array a (.object b properties)) = ⟨emitted, .ok root⟩ →
      ∃ before fields element, element ≠ name ∧ emitted = before ++
        [Decl.record (.string element) fields,
          Decl.synonym (.string name) (.array [.reference (.string element)])]) ∧
    ∀ (generator : Generator) a b properties decls,
      generator.root = .ok (.array a (.object b properties)) → a.name = .string name →
      b.name.truthy = false → generator.declarations.result = .ok decls →
      KeepsElement generator.config.ignoreFields (.object b properties) decls := by
  have hcapital := Name.capitalized_elementName_ne hname
  refine ⟨Name.elementName_ne hname, hcapital, ?_, ?_⟩
  · intro ignored a b properties emitted root ha hb hdeclare
    obtain ⟨-, -, before, fields, element, -, -, helement, rfl⟩ :=
      Shape.exists_record_of_array hdeclare
    obtain rfl := Shape.elementName_of_unnamed ha hb helement
    exact ⟨before, fields, _, hcapital, by rw [ha]⟩
  · intro generator a b properties decls hroot ha hb hdecls
    obtain ⟨c, others, before, fields, element, rest, hitems, hfields, helement, hfirst,
      hrecord⟩ := exists_record_of_declarations hroot hdecls
    refine ⟨c, others, before, fields, a.name, element, rest, hitems, hfields, hfirst,
      hrecord ?_⟩
    obtain rfl := Shape.elementName_of_unnamed ha hb helement
    rw [ha]
    exact fun hsame => hcapital (Value.string.inj hsame)

/-- The shape of a person, without a name. -/
def person : Shape := .object {} [.string { key := .string "id" } .null]

/-- An array of people, named by the run. -/
def people : Generator where
  schema := .shape (.array {} person)
  config := {}
  name := .string "People"

/-- The record of the people is named Person, and is declared next to their array. -/
theorem elementName_distinct_people : "People" ≠ "" ∧
    Name.capitalized (Name.elementName "People") = "Person" ∧
    Name.capitalized (Name.elementName "People") ≠ "People" ∧
    KeepsElement people.config.ignoreFields person
      [.synonym (.string "People") (.array [.reference (.string "Person")]),
        .record (.string "Person")
          [⟨.string "id", .keyword (.string "string"), .bool false⟩]] := by
  have hname : "People" ≠ "" := by decide
  obtain ⟨-, hcapital, -, hkeeps⟩ := elementName_distinct hname
  refine ⟨hname, by decide +kernel, hcapital, ?_⟩
  exact hkeeps people { name := .string "People" } {} _ _ rfl rfl rfl rfl

end Generator

end ShapeTypes
