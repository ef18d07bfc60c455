import Mathlib.Data.List.Forall2
import ShapeTypes.Proofs.Shape.Tree
import ShapeTypes.Shape.Declare

/-!
# What is not read of a schema

Which attributes of a node are looked at depends on what it is and where it stands.

* `Shape.Position`, `Shape.SameAt`: where a node stands, and the attributes that count there.
* `Shape.Alike`: two schemas of the same shape that differ in attributes that do not count.
* `Traced.Agree`: two computations that put out the same and succeed alike; they may fail for
  different reasons. `Traced.Agree.bind`: sequences of such computations agree.
* `Shape.agree_declareType`: **the types of shapes that are alike agree**. It is an induction over
  the tree; a name that is handed down to the items of an array stands in for their keys.
* `Shape.declareRoot_alike`: **schemas that are alike give the same declarations and the same
  root**, or both fail.
-/

namespace ShapeTypes

/-! ## Computations that agree -/

namespace Traced

variable {σ α β : Type}

/-- Two computations put out the same, and have the same result or both fail. -/
structure Agree (c d : Traced σ α) : Prop where
  /-- They put out the same. -/
  trace : c.trace = d.trace
  /-- They have the same result, if any. -/
  result : ∀ a, c.result = .ok a ↔ d.result = .ok a

namespace Agree

/-- A computation agrees with itself. -/
theorem refl (c : Traced σ α) : Agree c c := ⟨rfl, fun _ => Iff.rfl⟩

/-- Any two failures agree. -/
theorem fail (failure failure' : Failure) :
    Agree (Traced.fail failure : Traced σ α) (Traced.fail failure') := by
  refine ⟨rfl, fun a => ?_⟩
  simp

/-- Computations that put out nothing agree if they have the same result. -/
theorem ofExcept {e e' : Except Failure α} (h : ∀ a, e = .ok a ↔ e' = .ok a) :
    Agree (Traced.ofExcept e : Traced σ α) (Traced.ofExcept e') := ⟨rfl, h⟩

/-- Sequences agree if their first parts do, and their second parts on every result. -/
theorem bind {c d : Traced σ α} {next next' : α → Traced σ β} (h : Agree c d)
    (hnext : ∀ a, Agree (next a) (next' a)) : Agree (c >>= next) (d >>= next') := by
  obtain ⟨items, result⟩ := c
  obtain ⟨items', result'⟩ := d
  obtain ⟨rfl, hresult⟩ := h
  cases result with
  | ok a =>
      obtain rfl : result' = .ok a := (hresult a).mp rfl
      rw [bind_ok, bind_ok, (hnext a).trace]
      exact ⟨rfl, (hnext a).result⟩
  | error failure =>
      cases result' with
      | ok a => cases (hresult a).mpr rfl
      | error failure' =>
          refine ⟨rfl, fun b => ?_⟩
          simp

end Agree

end Traced

namespace Shape

/-! ## Schemas that are alike -/

/-- Where a node stands in a schema. -/
inductive Position where
  /-- At the root. -/
  | root
  /-- Among the properties of an object. -/
  | property
  /-- As the items of an array. -/
  | items
deriving DecidableEq

/-- The attributes that count for every node at a position are the same. Neither the default value
nor the description counts anywhere. -/
structure SameAt (position : Position) (a b : Attributes) : Prop where
  /-- The key counts for a property, and for a root without a name. -/
  key : position = .property ∨ (position = .root ∧ a.name.truthy = false) → a.key = b.key
  /-- The name counts for a root. -/
  name : position = .root → a.name = b.name
  /-- Whether the value may be null counts below the root. -/
  nullable : position ≠ .root → a.nullable = b.nullable
  /-- Whether it may be missing counts for a property. -/
  optional : position = .property → a.optional = b.optional

/-- The two schemas have the same shape and differ in attributes that do not count. The name of an
object counts everywhere. -/
inductive Alike : Position → Shape → Shape → Prop
  /-- Objects with properties that are alike, one by one. -/
  | object {position : Position} {a b : Attributes} {properties properties' : List Shape}
      (hsame : SameAt position a b) (hname : a.name = b.name)
      (hproperties : List.Forall₂ (Alike .property) properties properties') :
      Alike position (.object a properties) (.object b properties')
  /-- Arrays with items that are alike. -/
  | array {position : Position} {a b : Attributes} {elements elements' : Shape}
      (hsame : SameAt position a b) (helements : Alike .items elements elements') :
      Alike position (.array a elements) (.array b elements')
  /-- Truth values. -/
  | boolean {position : Position} {a b : Attributes} (hsame : SameAt position a b) :
      Alike position (.boolean a) (.boolean b)
  /-- Numbers of the same enumeration. -/
  | number {position : Position} {a b : Attributes} {enumeration : Value}
      (hsame : SameAt position a b) : Alike position (.number a enumeration) (.number b enumeration)
  /-- Texts of the same enumeration. -/
  | string {position : Position} {a b : Attributes} {enumeration : Value}
      (hsame : SameAt position a b) : Alike position (.string a enumeration) (.string b enumeration)
  /-- Nodes without a variant. -/
  | untyped {position : Position} {a b : Attributes} (hsame : SameAt position a b) :
      Alike position (.untyped a) (.untyped b)
  /-- The same value that is no node. -/
  | foreign {position : Position} {value : Value} : Alike position (.foreign value) (.foreign value)

variable {position : Position} {a b : Attributes} {s t : Shape} {derived : Value}

/-- Of two shapes that are alike both are missing or none. -/
theorem Alike.isMissing_eq (h : Alike position s t) : s.isMissing = t.isMissing := by
  cases h <;> rfl

/-- Properties that are alike have the same key, or none. -/
theorem Alike.key?_eq (h : Alike .property s t) : s.key? = t.key? := by
  cases h with
  | foreign => rfl
  | _ hsame => exact congrArg Except.ok (hsame.key (Or.inl rfl))

/-- Properties that are alike may both be missing or both not. -/
theorem Alike.optional_eq (h : Alike .property s t) :
    s.attributes?.map Attributes.optional = t.attributes?.map Attributes.optional := by
  cases h with
  | foreign => rfl
  | _ hsame => exact congrArg some (hsame.optional rfl)

/-- Below the root null is admitted alike. -/
theorem SameAt.withNull_eq (h : SameAt position a b) (hposition : position ≠ .root)
    (t : TypeExpr) : withNull a t = withNull b t := by
  unfold withNull
  rw [h.nullable hposition]

/-- What an anonymous object is named after is the same: the key of a property, or the name that is
handed down to the items of an array. -/
theorem SameAt.sourceName_eq (h : SameAt position a b)
    (hsource : position = .property ∨ derived ≠ .null) :
    sourceName a derived = sourceName b derived := by
  cases derived with
  | null =>
      have hkey := h.key (Or.inl (hsource.resolve_right fun hne => hne rfl))
      rw [sourceName, sourceName, hkey]
  | _ => rfl

/-! ## Declaring -/

/-- The key of a primitive is named by failures only. -/
theorem primitiveType_eq_ok_iff {variant : String} {test : Value → Except Failure Bool}
    (key key' : Value) {enumeration : Value} {t : TypeExpr} :
    primitiveType variant test key enumeration = .ok t ↔
      primitiveType variant test key' enumeration = .ok t := by
  unfold primitiveType
  split
  · unfold enumType
    split
    · rfl
    · rfl
    · split <;> simp
  · rfl

/-- The types of primitives with the same enumeration agree. -/
theorem agree_primitive {variant : String} {test : Value → Except Failure Bool}
    (h : SameAt position a b) (hposition : position ≠ .root) (enumeration : Value) :
    Traced.Agree
      (Traced.ofExcept (primitiveType variant test a.key enumeration) >>= fun type =>
        (pure (withNull a type) : Declaring TypeExpr))
      (Traced.ofExcept (primitiveType variant test b.key enumeration) >>= fun type =>
        (pure (withNull b type) : Declaring TypeExpr)) := by
  apply Traced.Agree.bind
  · apply Traced.Agree.ofExcept
    intro t
    exact primitiveType_eq_ok_iff a.key b.key
  · intro type
    rw [h.withNull_eq hposition]
    exact Traced.Agree.refl _

/-- Records of the same name and fields agree. -/
theorem declareRecord_eq (hname : a.name = b.name)
    (hsource : a.name.truthy = false → sourceName a derived = sourceName b derived)
    (fields : List Field) : declareRecord a derived fields = declareRecord b derived fields := by
  have hobject : objectName a derived = objectName b derived := by
    unfold objectName
    rw [← hname]
    cases h : a.name.truthy with
    | true => rfl
    | false => rw [hsource h]
  rw [declareRecord, declareRecord, hobject]

/-- The fields of properties that are alike agree, if their types do. -/
theorem agree_declareFields {ignored : Ignored} {properties properties' : List Shape}
    (h : List.Forall₂ (Alike .property) properties properties')
    (htypes : ∀ p ∈ properties, ∀ q, Alike .property p q →
      Traced.Agree (declareType ignored p .null) (declareType ignored q .null)) :
    Traced.Agree (declareFields ignored properties) (declareFields ignored properties') := by
  induction h with
  | nil => exact Traced.Agree.refl _
  | @cons p q rest rest' hpq _ ih =>
      have hrest := ih fun r hr => htypes r (List.mem_cons_of_mem p hr)
      rw [declareFields, declareFields, hpq.key?_eq, hpq.optional_eq]
      apply Traced.Agree.bind (Traced.Agree.refl _)
      intro key
      apply Traced.Agree.bind (Traced.Agree.refl _)
      intro hidden
      cases hidden with
      | true => exact hrest
      | false =>
          apply Traced.Agree.bind (htypes p List.mem_cons_self q hpq)
          intro type
          exact hrest.bind fun fields => Traced.Agree.refl _

/-- **The types of shapes that are alike agree** below the root. -/
theorem agree_declareType (ignored : Ignored) (h : Alike position s t)
    (hposition : position ≠ .root) (hsource : position = .property ∨ derived ≠ .null) :
    Traced.Agree (declareType ignored s derived) (declareType ignored t derived) := by
  induction s generalizing t position derived with
  | object a properties ih =>
      cases h with
      | @object _ _ b _ properties' hsame hname hproperties =>
          rw [declareType, declareType]
          apply Traced.Agree.bind
          · exact agree_declareFields hproperties fun p hp q hpq =>
              ih p hp hpq (by decide) (Or.inl rfl)
          · intro fields
            rw [declareRecord_eq hname fun _ => hsame.sourceName_eq hsource]
            apply Traced.Agree.bind (Traced.Agree.refl _)
            intro type
            rw [hsame.withNull_eq hposition]
            exact Traced.Agree.refl _
  | array a elements ih =>
      cases h with
      | @array _ _ b _ elements' hsame helements =>
          rw [declareType, declareType, helements.isMissing_eq, hsame.sourceName_eq hsource]
          cases elements'.isMissing with
          | true => exact Traced.Agree.fail _ _
          | false =>
              rw [if_neg Bool.false_ne_true, if_neg Bool.false_ne_true]
              apply Traced.Agree.bind (Traced.Agree.refl _)
              intro name
              apply Traced.Agree.bind (ih helements (by decide) (Or.inr (by simp)))
              intro element
              rw [hsame.withNull_eq hposition]
              exact Traced.Agree.refl _
  | boolean a =>
      cases h with
      | boolean hsame =>
          rw [declareType, declareType, hsame.withNull_eq hposition]
          exact Traced.Agree.refl _
  | number a enumeration =>
      cases h with
      | number hsame => exact agree_primitive hsame hposition enumeration
  | string a enumeration =>
      cases h with
      | string hsame => exact agree_primitive hsame hposition enumeration
  | untyped a =>
      cases h with
      | untyped hsame => exact Traced.Agree.fail _ _
  | foreign value =>
      cases h with
      | foreign => exact Traced.Agree.refl _

/-! ## Declaring a schema -/

variable {ignored : Ignored}

/-- The declarations of objects agree if their names and properties do. -/
theorem agree_declareObject {properties properties' : List Shape} (hname : a.name = b.name)
    (hsource : a.name.truthy = false → sourceName a derived = sourceName b derived)
    (hproperties : List.Forall₂ (Alike .property) properties properties') :
    Traced.Agree (declareObject ignored (object a properties) derived)
      (declareObject ignored (object b properties') derived) := by
  rw [declareObject, declareObject]
  apply Traced.Agree.bind
  · exact agree_declareFields hproperties fun p _ q hpq =>
      agree_declareType ignored hpq (by decide) (Or.inl rfl)
  · intro fields
    rw [declareRecord_eq hname hsource]
    exact Traced.Agree.refl _

/-- Root arrays that are alike agree. -/
theorem agree_declareRootArray {elements elements' : Shape} (hname : a.name = b.name)
    (h : Alike .items elements elements') :
    Traced.Agree (declareRootArray ignored a elements) (declareRootArray ignored b elements') := by
  unfold declareRootArray
  rw [hname]
  cases b.name.truthy with
  | false => exact Traced.Agree.refl _
  | true =>
      rw [if_pos rfl, if_pos rfl]
      cases h with
      | object hsame hobject hproperties =>
          apply Traced.Agree.bind (Traced.Agree.refl _)
          intro name
          apply Traced.Agree.bind
          · exact agree_declareObject hobject (fun _ => rfl) hproperties
          · intro element
            exact Traced.Agree.refl _
      | _ => exact Traced.Agree.fail _ _

/-- **Schemas that are alike give the same declarations and the same root**, or both fail: nothing
but the attributes that count where they stand has any influence. -/
theorem declareRoot_alike (ignored : Ignored) (h : Alike .root s t) :
    (declareRoot ignored s).trace = (declareRoot ignored t).trace ∧
      ∀ root, (declareRoot ignored s).result = .ok root ↔
        (declareRoot ignored t).result = .ok root := by
  suffices hagree : Traced.Agree (declareRoot ignored s) (declareRoot ignored t) from
    ⟨hagree.trace, hagree.result⟩
  cases h with
  | @object _ a b properties properties' hsame hname hproperties =>
      apply agree_declareObject hname _ hproperties
      intro hnameless
      rw [sourceName, sourceName, hsame.key (Or.inr ⟨rfl, hnameless⟩)]
  | array hsame helements => exact agree_declareRootArray (hsame.name rfl) helements
  | _ => exact Traced.Agree.fail _ _

/-- The properties of a book: its cover, which is hard or soft, and its number of pages. -/
def bookProperties (cover pages : Attributes) : List Shape :=
  [.string { cover with key := .string "cover" } (.list [.string "hard", .string "soft"]),
    .number { pages with key := .string "pages" } .null]

/-- A library with books on shelves; what is left open are the attributes of its nodes. -/
def libraryOf (root shelves shelf book cover pages : Attributes) : Shape :=
  .object { root with name := .string "Library" }
    [.array { shelves with key := .string "shelves" }
      (.array { shelf with nullable := .bool true } (.object book (bookProperties cover pages)))]

/-- A library whose nodes have no other attributes. -/
def library : Shape := libraryOf {} {} {} {} {} {}

/-- The same library with attributes that are not read. -/
def annotatedLibrary : Shape :=
  libraryOf { key := .string "library", nullable := .bool true, optional := .bool true }
    { name := .string "Rows", description := .string "from left to right" }
    { key := .string "shelf", name := .string "Row", optional := .bool true }
    { key := .string "book", optional := .bool true, default := .list [] }
    { name := .string "Cover", default := .string "hard" } { description := .string "printed" }

/-- The annotations of the library do not show. -/
theorem declareRoot_library : Alike .root library annotatedLibrary ∧
    (declareRoot (.list []) library).trace = (declareRoot (.list []) annotatedLibrary).trace ∧
    (declareRoot (.list []) library).result = .ok (.reference (.string "Library")) ∧
    (declareRoot (.list []) annotatedLibrary).result = .ok (.reference (.string "Library")) := by
  have hproperties : List.Forall₂ (Alike .property) (bookProperties {} {})
      (bookProperties { name := .string "Cover", default := .string "hard" }
        { description := .string "printed" }) := by
    refine .cons (.string ?_) (.cons (.number ?_) .nil)
    · constructor <;> simp
    · constructor <;> simp
  have halike : Alike .root library annotatedLibrary := by
    refine .object ?_ rfl (.cons (.array ?_ (.array ?_ (.object ?_ rfl hproperties))) .nil)
    · constructor <;> simp
    · constructor <;> simp
    · constructor <;> simp
    · constructor <;> simp
  obtain ⟨htrace, hresult⟩ := declareRoot_alike (.list []) halike
  have hlibrary : (declareRoot (.list []) library).result =
      .ok (.reference (.string "Library")) := rfl
  exact ⟨halike, htrace, hlibrary, (hresult _).mp hlibrary⟩

end Shape

end ShapeTypes
