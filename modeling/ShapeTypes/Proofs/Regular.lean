import ShapeTypes.Proofs.References

/-!
# The types that shapes compile to

Of all type expressions a shape compiles to a few forms only.

* `LiteralKind`, `Value.literalKind?`: the values that can stand as literals, finite numbers and
  texts.
* `TypeExpr.Regular`: **the grammar of compiled types**. An array has one element; a union holds the
  literals of one kind, or one other type, and null, if it stands there, is the last member. No
  integer among the literals is too long for a source text.
* `Body.Regular`: the bodies of compiled declarations. An alias is one for an array of a reference.
* `regular_primitiveType`, `regular_withNull`: the grammar is what the type of a primitive, and
  the extension of a type with null, stay within.
-/

namespace ShapeTypes

/-- The kinds of values that can stand as a literal. -/
inductive LiteralKind where
  /-- The finite numbers. -/
  | number
  /-- The texts. -/
  | text

/-- The kind of a literal; other values have none. -/
def Value.literalKind? : Value → Option LiteralKind
  | .int _ => some .number
  | .double x => if x.isFinite then some .number else none
  | .string _ => some .text
  | _ => none

/-- The keywords of the primitive types. -/
def primitiveKeywords : List String := ["number", "string", "boolean"]

namespace TypeExpr

/-- The type is a union. -/
def isUnion : TypeExpr → Bool
  | union _ => true
  | _ => false

/-- The grammar of compiled types. -/
inductive Regular : TypeExpr → Prop
  /-- The keyword of a primitive. -/
  | keyword {word : String} (hword : word ∈ primitiveKeywords) : Regular (keyword (.string word))
  /-- A reference to a declaration. -/
  | reference (name : Value) : Regular (reference name)
  /-- An array of one element. -/
  | array {t : TypeExpr} (ht : Regular t) : Regular (array [t])
  /-- An enumeration of literals of one kind. -/
  | enumeration {values : List Value} {kind : LiteralKind} (hne : values ≠ [])
      (hkind : ∀ v ∈ values, v.literalKind? = some kind)
      (hshown : ∀ v ∈ values, v.isShowable = true) : Regular (union (values.map literal))
  /-- An enumeration that also admits null. -/
  | nullableEnumeration {values : List Value} {kind : LiteralKind} (hne : values ≠ [])
      (hkind : ∀ v ∈ values, v.literalKind? = some kind)
      (hshown : ∀ v ∈ values, v.isShowable = true) :
      Regular (union (values.map literal ++ [null]))
  /-- Another type that also admits null. -/
  | nullable {t : TypeExpr} (ht : Regular t) (hunion : t.isUnion = false) :
      Regular (union [t, null])

end TypeExpr

/-- The bodies of compiled declarations. -/
inductive Body.Regular : Body → Prop
  /-- A record of fields with compiled types. -/
  | record {fields : List Field} (hfields : ∀ field ∈ fields, field.type.Regular) :
      Regular (.record fields)
  /-- An alias for an array of a declaration. -/
  | synonym (name : Value) : Regular (.synonym (.array [.reference name]))

/-! ## The extension with null -/

/-- A compiled type that is no union may be extended with null. -/
theorem regular_withNull (a : Attributes) {t : TypeExpr} (ht : t.Regular)
    (hunion : t.isUnion = false) : (withNull a t).Regular := by
  unfold withNull
  split
  · cases t with
    | union members => cases hunion
    | _ => exact TypeExpr.Regular.nullable ht hunion
  · exact ht

/-- An enumeration may be extended with null. -/
theorem regular_withNull_enumeration (a : Attributes) {values : List Value} {kind : LiteralKind}
    (hne : values ≠ []) (hkind : ∀ v ∈ values, v.literalKind? = some kind)
    (hshown : ∀ v ∈ values, v.isShowable = true) :
    (withNull a (.union (values.map .literal))).Regular := by
  unfold withNull
  split
  · exact TypeExpr.Regular.nullableEnumeration hne hkind hshown
  · exact TypeExpr.Regular.enumeration hne hkind hshown

/-! ## Primitives -/

/-- If all values pass a test, each of them does. -/
theorem test_of_allPass {test : Value → Except Failure Bool} {values : List Value}
    (h : allPass test values = .ok true) : ∀ v ∈ values, test v = .ok true := by
  induction values with
  | nil => simp
  | cons v rest ih =>
      rw [allPass] at h
      split at h
      · rename_i hv
        exact List.forall_mem_cons.mpr ⟨hv, ih h⟩
      · contradiction

/-- An integer in the range of the finite doubles is not too long for a source text. -/
theorem isShowable_int {n : Int} (h : fitsDouble n = true) : (Value.int n).isShowable = true := by
  have hbound : Nat.pow 2 1024 - Nat.pow 2 970 ≤ Nat.pow 10 maxIntegerDigits := by decide +kernel
  rw [Value.isShowable_iff, Value.integers, List.forall_mem_singleton]
  exact Nat.lt_of_lt_of_le (of_decide_eq_true h) hbound

/-- A value that passes as a literal of numbers is a finite number, and not too long for a source
text. -/
theorem literalKind?_of_isNumberLiteral {v : Value} (h : isNumberLiteral v = .ok true) :
    v.literalKind? = some .number ∧ v.isShowable = true := by
  cases v with
  | double x =>
      have hx : x.isFinite = true := by simpa [isNumberLiteral] using h
      exact ⟨by simp [Value.literalKind?, hx], rfl⟩
  | int n =>
      by_cases hn : fitsDouble n = true
      · exact ⟨rfl, isShowable_int hn⟩
      · rw [isNumberLiteral, if_neg hn] at h
        cases h
  | _ => simp [isNumberLiteral] at h

/-- A value that passes as a literal of texts is a text. -/
theorem literalKind?_of_isStringLiteral {v : Value} (h : isStringLiteral v = .ok true) :
    v.literalKind? = some .text ∧ v.isShowable = true := by
  cases v with
  | string s => exact ⟨rfl, rfl⟩
  | _ => simp [isStringLiteral] at h

/-- The type of a primitive: its keyword if no enumeration is given, or the union of the literals of
its enumeration, which is not empty and all of which pass the test. -/
theorem primitiveType_eq_ok {variant : String} {test : Value → Except Failure Bool}
    {key enumeration : Value} {t : TypeExpr}
    (h : primitiveType variant test key enumeration = .ok t) :
    (t = .keyword (.string variant) ∧ ∀ v rest, enumeration ≠ .list (v :: rest)) ∨
      ∃ values, values ≠ [] ∧ enumeration = .list values ∧ (∀ v ∈ values, test v = .ok true) ∧
        t = .union (values.map .literal) := by
  unfold primitiveType at h
  split at h
  · rename_i v rest
    right
    refine ⟨v :: rest, List.cons_ne_nil v rest, rfl, ?_⟩
    unfold enumType at h
    split at h
    · cases h
    · rename_i hpass
      exact ⟨test_of_allPass hpass, (Except.ok.inj h).symm⟩
    · split at h <;> cases h
  · rename_i hne
    exact Or.inl ⟨(Except.ok.inj h).symm, hne⟩

/-- The type of a primitive, extended with null or not, is a compiled type without references. -/
theorem regular_primitiveType {variant : String} {test : Value → Except Failure Bool}
    {kind : LiteralKind} (hvariant : variant ∈ primitiveKeywords)
    (htest : ∀ v, test v = .ok true → v.literalKind? = some kind ∧ v.isShowable = true)
    {key enumeration : Value} {t : TypeExpr}
    (h : primitiveType variant test key enumeration = .ok t) (a : Attributes) :
    (withNull a t).Regular ∧ t.references = [] := by
  rcases primitiveType_eq_ok h with ⟨rfl, -⟩ | ⟨values, hne, -, hpass, rfl⟩
  · exact ⟨regular_withNull a (TypeExpr.Regular.keyword hvariant) rfl, rfl⟩
  · refine ⟨regular_withNull_enumeration a hne (fun v hv => (htest v (hpass v hv)).1)
      fun v hv => (htest v (hpass v hv)).2, ?_⟩
    rw [TypeExpr.references_union, List.flatMap_map]
    simp

end ShapeTypes
