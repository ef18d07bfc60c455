import ShapeTypes.Proofs.Regular
import ShapeTypes.Proofs.Shape.Success
import ShapeTypes.Proofs.Shape.Tree

/-!
# What a shape puts out

The declarations that a shape puts out, whether or not the computation succeeds.

* `Decl.Compiled`: what is true of every declaration that is put out: it has no parameters, its name
  counts as given, its types are compiled ones.
* `Declaring.Grounded`: **the invariant of a computation**, relative to names that are known before:
  it puts out compiled declarations whose references lead to known names or earlier declarations,
  and the types that it answers are compiled and refer to known names or to what was put out.
  Computations in sequence keep it (`Declaring.Grounded.bind`).
* `Shape.grounded_declareType`, `Shape.grounded_declareObject`, `Shape.grounded_declareProperty`,
  `Shape.grounded_declareRoot`: the computations of a shape keep it, from any known names.
-/

namespace ShapeTypes

/-- What is true of every declaration that a shape puts out. -/
structure Decl.Compiled (decl : Decl) : Prop where
  /-- There are no type parameters. -/
  parameters : decl.parameters = []
  /-- The name counts as given. -/
  name : decl.name.truthy = true
  /-- The types are compiled ones. -/
  body : decl.body.Regular

/-- The type is a compiled one and refers to known names. -/
structure TypeExpr.Grounded (known : List Value) (t : TypeExpr) : Prop where
  /-- The type is a compiled one. -/
  regular : t.Regular
  /-- Its references are known. -/
  references : t.references ⊆ known

/-- More names may be known. -/
theorem TypeExpr.Grounded.mono {known more : List Value} {t : TypeExpr} (h : t.Grounded known)
    (hsub : known ⊆ more) : t.Grounded more :=
  ⟨h.regular, fun _ hname => hsub (h.references hname)⟩

/-- Null may be added to a type that is no union. -/
theorem TypeExpr.Grounded.withNull {known : List Value} {t : TypeExpr} (h : t.Grounded known)
    (a : Attributes) (hunion : t.isUnion = false) : (withNull a t).Grounded known := by
  refine ⟨regular_withNull a h.regular hunion, ?_⟩
  rw [references_withNull]
  exact h.references

namespace Declaring

variable {α β : Type} {known more : List Value}

/-- The invariant of a computation that puts out declarations; `types` are the types in its result.
-/
structure Grounded (known : List Value) (types : α → List TypeExpr) (c : Declaring α) : Prop where
  /-- What is put out is compiled, also by a computation that fails. -/
  compiled : ∀ decl ∈ c.trace, decl.Compiled
  /-- References lead to known names or to earlier declarations. -/
  resolves : Decl.Resolves known c.trace
  /-- The types in the result refer to known names or to what was put out. -/
  result : ∀ r, c.result = .ok r → ∀ t ∈ types r, t.Grounded (c.trace.map Decl.name ++ known)

namespace Grounded

/-- A computation that puts out nothing and whose result holds grounded types only. -/
theorem pure {types : α → List TypeExpr} {r : α} (h : ∀ t ∈ types r, t.Grounded known) :
    Grounded known types (Pure.pure r) := by
  refine ⟨by simp, trivial, ?_⟩
  rintro r' hr t ht
  cases hr
  exact h t ht

/-- A failure. -/
theorem fail {types : α → List TypeExpr} (failure : Failure) :
    Grounded known types (Traced.fail failure) := by
  refine ⟨by simp, trivial, ?_⟩
  rintro r hr
  cases hr

/-- A computation that puts out nothing and answers grounded types only. -/
theorem ofExcept {types : α → List TypeExpr} {e : Except Failure α}
    (h : ∀ r, e = .ok r → ∀ t ∈ types r, t.Grounded known) :
    Grounded known types (Traced.ofExcept e) :=
  ⟨by simp [Traced.ofExcept], trivial, h⟩

/-- A computation that puts out nothing and answers no types. -/
theorem ofExcept_nil (e : Except Failure α) :
    Grounded known (fun _ => []) (Traced.ofExcept e) :=
  ofExcept fun _ _ _ ht => absurd ht List.not_mem_nil

/-- Computations in sequence: what the first puts out is known to the second. -/
theorem bind {types : α → List TypeExpr} {types' : β → List TypeExpr} {c : Declaring α}
    {next : α → Declaring β} (hc : Grounded known types c)
    (hnext : ∀ r, c.result = .ok r → (∀ t ∈ types r, t.Grounded (c.trace.map Decl.name ++ known)) →
      Grounded (c.trace.map Decl.name ++ known) types' (next r)) :
    Grounded known types' (c >>= next) := by
  obtain ⟨items, result⟩ := c
  cases result with
  | error failure =>
      rw [Traced.bind_error]
      refine ⟨hc.compiled, hc.resolves, ?_⟩
      rintro r hr
      cases hr
  | ok a =>
      have hn := hnext a rfl (hc.result a rfl)
      rw [Traced.bind_ok]
      refine ⟨?_, Decl.resolves_append.mpr ⟨hc.resolves, hn.resolves⟩, ?_⟩
      · intro decl hdecl
        rcases List.mem_append.mp hdecl with h | h
        · exact hc.compiled decl h
        · exact hn.compiled decl h
      · intro r hr t ht
        refine (hn.result r hr t ht).mono ?_
        intro name hname
        simp only [List.map_append, List.mem_append] at hname ⊢
        exact or_assoc.mpr (or_left_comm.mp hname)

/-- A declaration that is compiled and refers to known names may be put out. -/
theorem declare {decl : Decl} (hdecl : decl.Compiled) (hrefs : decl.references ⊆ known) :
    Grounded known (fun t => [t]) (declare decl) := by
  refine ⟨?_, ⟨hrefs, trivial⟩, ?_⟩
  · intro d hd
    rw [List.mem_singleton.mp hd]
    exact hdecl
  · intro r hr t ht
    cases hr
    rw [List.mem_singleton.mp ht]
    refine ⟨TypeExpr.Regular.reference decl.name, ?_⟩
    intro name hname
    rw [List.mem_singleton.mp hname]
    exact List.mem_append_left _ (List.mem_singleton_self _)

end Grounded

end Declaring

/-! ## Names of records -/

/-- The name of an object counts as given. -/
theorem truthy_of_objectName {a : Attributes} {derived name : Value}
    (h : objectName a derived = .ok name) : name.truthy = true := by
  unfold objectName at h
  split at h
  · rename_i hname
    cases h
    exact hname
  · split at h
    · cases h
    · split at h
      · cases h
      · rename_i hne
        cases h
        rw [Value.truthy_string]
        exact hne

open Declaring in
/-- A record may be put out when the types of its fields are grounded. -/
theorem grounded_declareRecord {known : List Value} (a : Attributes) (derived : Value)
    {fields : List Field} (h : ∀ field ∈ fields, field.type.Grounded known) :
    Grounded known (fun t => [t]) (declareRecord a derived fields) := by
  unfold declareRecord Traced.ofExcept
  cases hname : objectName a derived with
  | error failure => exact Grounded.fail failure
  | ok name =>
      refine Grounded.declare ⟨rfl, truthy_of_objectName hname, ?_⟩ ?_
      · exact Body.Regular.record fun field hfield => (h field hfield).regular
      · rw [Decl.references_record]
        intro reference hreference
        obtain ⟨field, hfield, href⟩ := List.mem_flatMap.mp hreference
        exact (h field hfield).references href

/-! ## Shapes -/

namespace Shape

open Declaring

/-- The fields of an object keep the invariant if the types of its properties do. -/
theorem grounded_declareFields (ignored : Ignored) {properties : List Shape}
    (h : ∀ p ∈ properties, ∀ known derived,
      Grounded known (fun t => [t]) (declareType ignored p derived)) :
    ∀ known, Grounded known (fun fields : List Field => fields.map Field.type)
      (declareFields ignored properties) := by
  induction properties with
  | nil => exact fun known => Grounded.pure (by simp)
  | cons p rest ih =>
      intro known
      have hrest := ih fun q hq => h q (List.mem_cons_of_mem p hq)
      rw [declareFields]
      refine Grounded.bind (Grounded.ofExcept_nil p.key?) fun key _ _ => ?_
      refine Grounded.bind (Grounded.ofExcept_nil _) fun hidden _ _ => ?_
      split
      · exact hrest _
      · refine Grounded.bind (h p List.mem_cons_self _ _) fun type _ htype => ?_
        refine Grounded.bind (hrest _) fun fields _ hfields => Grounded.pure ?_
        rw [List.map_cons, List.forall_mem_cons]
        refine ⟨(htype type (List.mem_singleton_self _)).mono ?_, hfields⟩
        exact List.subset_append_right _ _

/-- The type of a primitive keeps the invariant: it has no references. -/
theorem grounded_primitive {variant : String} {test : Value → Except Failure Bool}
    {kind : LiteralKind} (hvariant : variant ∈ primitiveKeywords)
    (htest : ∀ v, test v = .ok true → v.literalKind? = some kind ∧ v.isShowable = true)
    (key enumeration : Value) (a : Attributes) (known : List Value) :
    Grounded known (fun t => [t]) (do
      let type ← Traced.ofExcept (primitiveType variant test key enumeration)
      return withNull a type) := by
  refine Grounded.bind (Grounded.ofExcept_nil _) fun type htype _ => Grounded.pure ?_
  obtain ⟨hregular, hrefs⟩ := regular_primitiveType hvariant htest htype a
  rw [List.forall_mem_singleton]
  refine ⟨hregular, ?_⟩
  rw [references_withNull, hrefs]
  exact List.nil_subset _

/-- The type of a shape keeps the invariant. -/
theorem grounded_declareType (ignored : Ignored) (shape : Shape) :
    ∀ known derived, Grounded known (fun t => [t]) (declareType ignored shape derived) := by
  induction shape with
  | object a properties ih =>
      intro known derived
      rw [declareType]
      refine Grounded.bind (grounded_declareFields ignored ih known) fun fields _ hfields => ?_
      refine Grounded.bind (grounded_declareRecord a derived ?_) fun type htype hgrounded => ?_
      · exact List.forall_mem_map.mp hfields
      · obtain ⟨name, -, -, rfl⟩ := declareRecord_eq_ok.mp (Traced.eq_of_result htype)
        refine Grounded.pure (List.forall_mem_singleton.mpr ?_)
        exact (List.forall_mem_singleton.mp hgrounded).withNull a rfl
  | array a items ih =>
      intro known derived
      rw [declareType]
      split
      · exact Grounded.fail _
      · refine Grounded.bind (Grounded.ofExcept_nil _) fun name _ _ => ?_
        refine Grounded.bind (ih _ _) fun element _ helement => Grounded.pure ?_
        rw [List.forall_mem_singleton] at helement ⊢
        refine TypeExpr.Grounded.withNull ⟨helement.regular.array, ?_⟩ a rfl
        simpa using helement.references
  | boolean a =>
      intro known derived
      rw [declareType]
      refine Grounded.pure (List.forall_mem_singleton.mpr ?_)
      refine TypeExpr.Grounded.withNull ⟨TypeExpr.Regular.keyword ?_, List.nil_subset _⟩ a rfl
      decide
  | number a enumeration =>
      intro known derived
      rw [declareType]
      exact grounded_primitive (by decide) (fun _ => literalKind?_of_isNumberLiteral) _ _ a known
  | string a enumeration =>
      intro known derived
      rw [declareType]
      exact grounded_primitive (by decide) (fun _ => literalKind?_of_isStringLiteral) _ _ a known
  | untyped a => exact fun _ _ => Grounded.fail _
  | foreign value => exact fun _ _ => Grounded.fail _

/-- The field of a property keeps the invariant. -/
theorem grounded_declareProperty (ignored : Ignored) (property : Shape) (known : List Value) :
    Grounded known (fun field : Field => [field.type]) (declareProperty ignored property) := by
  unfold declareProperty
  refine Grounded.bind (Grounded.ofExcept_nil _) fun key _ _ => ?_
  refine Grounded.bind (grounded_declareType ignored property _ _) fun type _ htype => ?_
  exact Grounded.pure htype

/-- The declaration of an object keeps the invariant. -/
theorem grounded_declareObject (ignored : Ignored) (shape : Shape) (derived : Value)
    (known : List Value) : Grounded known (fun t => [t]) (declareObject ignored shape derived) := by
  unfold declareObject
  split
  · rename_i a properties
    refine Grounded.bind (grounded_declareFields ignored ?_ known) fun fields _ hfields => ?_
    · exact fun p _ => grounded_declareType ignored p
    · exact grounded_declareRecord a derived (List.forall_mem_map.mp hfields)
  · exact Grounded.fail _

/-- The declarations of a schema keep the invariant. -/
theorem grounded_declareRoot (ignored : Ignored) (shape : Shape) (known : List Value) :
    Grounded known (fun t => [t]) (declareRoot ignored shape) := by
  unfold declareRoot
  split
  · exact grounded_declareObject ignored _ _ known
  · rename_i a items
    unfold declareRootArray
    split
    · rename_i hname
      split
      · refine Grounded.bind (Grounded.ofExcept_nil _) fun name _ _ => ?_
        refine Grounded.bind (grounded_declareObject ignored _ _ _) fun element he hgrounded => ?_
        obtain ⟨-, -, -, -, reference, -, -, -, -, rfl⟩ :=
          declareObject_eq_ok.mp (Traced.eq_of_result he)
        refine Grounded.declare ⟨rfl, hname, Body.Regular.synonym reference⟩ ?_
        rw [Decl.references_synonym]
        simpa using (List.forall_mem_singleton.mp hgrounded).references
      · exact Grounded.fail _
    · exact Grounded.fail _
  · exact Grounded.fail _

end Shape

end ShapeTypes
