import ShapeTypes.Proofs.Shape.Tree
import ShapeTypes.Shape.Declare

/-!
# The names of what a shape puts out

The declarations of a shape are named by explicit names and by derived ones, which are texts.

* `Shape.HasTextNames`: the explicit names in a tree are texts; nothing is required of its keys.
* `Declaring.Named`: everything that a computation puts out is named by a text, also if it fails.
  Computations in sequence keep this (`Declaring.Named.bind`).
* `Shape.named_declareType`, `Shape.named_declareProperty`, `Shape.named_declareObject`: **the
  computations of a shape put out such declarations only**, up to where they fail.
-/

namespace ShapeTypes

namespace Shape

/-- Every explicit name in the tree that counts as given is a text. -/
def HasTextNames (shape : Shape) : Prop :=
  ∀ node ∈ shape.nodes, ∀ a ∈ node.attributes?, a.name.truthy = true → a.name.isLabel = true

instance (shape : Shape) : Decidable shape.HasTextNames :=
  inferInstanceAs (Decidable (∀ node ∈ shape.nodes, ∀ a ∈ node.attributes?,
    a.name.truthy = true → a.name.isLabel = true))

namespace HasTextNames

variable {a : Attributes} {properties : List Shape} {shape : Shape}

/-- The name of the root of the tree. -/
theorem root (h : shape.HasTextNames) (ha : shape.attributes? = some a)
    (htruthy : a.name.truthy = true) : ∃ s, a.name = .string s :=
  Value.eq_string_of_isLabel (h shape shape.self_mem_nodes a ha htruthy) htruthy

/-- The names of a property's tree. -/
theorem property (h : (object a properties).HasTextNames) {p : Shape} (hp : p ∈ properties) :
    p.HasTextNames :=
  fun node hnode => h node (mem_nodes_object.mpr (Or.inr ⟨p, hp, hnode⟩))

/-- The names of the tree of an array's items. -/
theorem items (h : (array a shape).HasTextNames) : shape.HasTextNames :=
  fun node hnode => h node (mem_nodes_array.mpr (Or.inr hnode))

end HasTextNames

end Shape

/-! ## Computations -/

namespace Declaring

variable {α β : Type}

/-- Everything that is put out is named by a text. -/
def Named (c : Declaring α) : Prop := ∀ decl ∈ c.trace, ∃ s, decl.name = .string s

namespace Named

/-- Nothing is put out by a result. -/
theorem pure (r : α) : Named (Pure.pure r) := List.forall_mem_nil _

/-- Nothing is put out by a failure. -/
theorem fail (failure : Failure) : Named (Traced.fail failure : Declaring α) :=
  List.forall_mem_nil _

/-- Nothing is put out by what only may fail. -/
theorem ofExcept (e : Except Failure α) : Named (Traced.ofExcept e) := List.forall_mem_nil _

/-- Computations in sequence put out what both of them do. -/
theorem bind {c : Declaring α} {next : α → Declaring β} (hc : Named c)
    (hnext : ∀ r, c.result = .ok r → Named (next r)) : Named (c >>= next) := by
  obtain ⟨items, result⟩ := c
  cases result with
  | error failure => exact hc
  | ok r => exact List.forall_mem_append.mpr ⟨hc, hnext r rfl⟩

end Named

end Declaring

open Declaring

/-- A name that is not the explicit one is derived, and a text. -/
theorem exists_text_of_objectName {a : Attributes} {derived name : Value}
    (ha : a.name.truthy = true → ∃ s, a.name = .string s) (h : objectName a derived = .ok name) :
    ∃ s, name = .string s := by
  unfold objectName at h
  split at h
  · rename_i htruthy
    cases h
    exact ha htruthy
  · split at h
    · cases h
    · split at h
      · cases h
      · cases h
        exact ⟨_, rfl⟩

/-- A record is named by a text if its explicit name, where one counts as given, is a text. -/
theorem named_declareRecord {a : Attributes} (ha : a.name.truthy = true → ∃ s, a.name = .string s)
    (derived : Value) (fields : List Field) : Named (declareRecord a derived fields) := by
  refine Named.bind (Named.ofExcept _) fun name hname => ?_
  exact List.forall_mem_singleton.mpr (exists_text_of_objectName ha hname)

namespace Shape

/-- The fields of an object put out named declarations only if the types of its properties do. -/
theorem named_declareFields (ignored : Ignored) {properties : List Shape}
    (h : ∀ p ∈ properties, ∀ derived, Named (declareType ignored p derived)) :
    Named (declareFields ignored properties) := by
  induction properties with
  | nil => exact Named.pure _
  | cons p rest ih =>
      have hrest := ih fun q hq => h q (List.mem_cons_of_mem p hq)
      rw [declareFields]
      refine Named.bind (Named.ofExcept _) fun key _ => ?_
      refine Named.bind (Named.ofExcept _) fun hidden _ => ?_
      split
      · exact hrest
      · refine Named.bind (h p List.mem_cons_self .null) fun type _ => ?_
        exact Named.bind hrest fun fields _ => Named.pure _

/-- **The type of a shape puts out named declarations only.** -/
theorem named_declareType (ignored : Ignored) {shape : Shape} (hnames : shape.HasTextNames) :
    ∀ derived, Named (declareType ignored shape derived) := by
  induction shape with
  | object a properties ih =>
      intro derived
      rw [declareType]
      refine Named.bind (named_declareFields ignored fun p hp => ih p hp (hnames.property hp))
        fun fields _ => ?_
      exact Named.bind (named_declareRecord (hnames.root rfl) derived fields) fun _ _ =>
        Named.pure _
  | array a items ih =>
      intro derived
      rw [declareType]
      split
      · exact Named.fail _
      · refine Named.bind (Named.ofExcept _) fun name _ => ?_
        exact Named.bind (ih hnames.items _) fun _ _ => Named.pure _
  | boolean a => exact fun _ => Named.pure _
  | number a enumeration => exact fun _ => Named.bind (Named.ofExcept _) fun _ _ => Named.pure _
  | string a enumeration => exact fun _ => Named.bind (Named.ofExcept _) fun _ _ => Named.pure _
  | untyped a => exact fun _ => Named.fail _
  | foreign value => exact fun _ => Named.fail _

/-- A property puts out named declarations only. -/
theorem named_declareProperty (ignored : Ignored) {property : Shape}
    (hnames : property.HasTextNames) : Named (declareProperty ignored property) := by
  refine Named.bind (Named.ofExcept _) fun key _ => ?_
  exact Named.bind (named_declareType ignored hnames .null) fun _ _ => Named.pure _

/-- An object puts out named declarations only. -/
theorem named_declareObject (ignored : Ignored) {shape : Shape} (hnames : shape.HasTextNames)
    (derived : Value) : Named (declareObject ignored shape derived) := by
  cases shape with
  | object a properties =>
      refine Named.bind (named_declareFields ignored fun p hp => ?_) fun fields _ => ?_
      · exact named_declareType ignored (hnames.property hp)
      · exact named_declareRecord (hnames.root rfl) derived fields
  | _ => exact Named.fail _

end Shape

end ShapeTypes
