import ShapeTypes.Proofs.Regular

/-!
# Well-formed types

What is required of a type is said part by part here, of all types that stand in it at any depth.

* `Value.literal_cases`: the values that can stand as literals.
* `TypeExpr.parts`: the type itself and everything that stands in it.
* `TypeExpr.IsUnionOf`: the members of a union: one type that is not null, or literals of one kind,
  and null behind them or not.
* `TypeExpr.IsSound`: what is required of one part; `TypeExpr.WellFormed`: of a whole type.
* `TypeExpr.Regular.wellFormed`: **the types that shapes compile to are well formed**.
-/

namespace ShapeTypes

/-- A value that can stand as a literal is a text, an integer or a finite double. -/
theorem Value.literal_cases {v : Value} {kind : LiteralKind} (h : v.literalKind? = some kind) :
    (∃ s, v = .string s) ∨ (∃ n, v = .int n) ∨ ∃ x, v = .double x ∧ x.isFinite = true := by
  cases v with
  | string s => exact Or.inl ⟨s, rfl⟩
  | int n => exact Or.inr (Or.inl ⟨n, rfl⟩)
  | double x =>
      by_cases hx : x.isFinite = true
      · exact Or.inr (Or.inr ⟨x, rfl, hx⟩)
      · simp [literalKind?, hx] at h
  | null => cases h
  | bool b => cases h
  | list items => cases h
  | object entries => cases h

namespace TypeExpr

mutual

/-- The type itself and all types that stand in it, at any depth. -/
def parts : TypeExpr → List TypeExpr
  | array elements => array elements :: partsOf elements
  | union members => union members :: partsOf members
  | other => [other]

/-- The parts of several types. -/
def partsOf : List TypeExpr → List TypeExpr
  | [] => []
  | t :: rest => parts t ++ partsOf rest

end

/-- The parts of several types are those of each of them. -/
theorem mem_partsOf {p : TypeExpr} {types : List TypeExpr} :
    p ∈ partsOf types ↔ ∃ t ∈ types, p ∈ t.parts := by
  induction types with
  | nil => simp [partsOf]
  | cons t rest ih => simp [partsOf, ih]

/-- The parts of an array are itself and the parts of its elements. -/
theorem mem_parts_array {p : TypeExpr} {elements : List TypeExpr} :
    p ∈ (array elements).parts ↔ p = array elements ∨ ∃ t ∈ elements, p ∈ t.parts := by
  rw [parts, List.mem_cons, mem_partsOf]

/-- The parts of a union are itself and the parts of its members. -/
theorem mem_parts_union {p : TypeExpr} {members : List TypeExpr} :
    p ∈ (union members).parts ↔ p = union members ∨ ∃ t ∈ members, p ∈ t.parts := by
  rw [parts, List.mem_cons, mem_partsOf]

/-- The members of a union: some that are not null, with null behind them or not. Either there is
one of them, or all of them are literals of one kind. -/
structure IsUnionOf (others members : List TypeExpr) : Prop where
  /-- There are members besides null. -/
  nonempty : others ≠ []
  /-- Null stands at most once, and then last. -/
  members : members = others ∨ members = others ++ [null]
  /-- The others are not null. -/
  notNull : null ∉ others
  /-- No member is a union. -/
  flat : ∀ t ∈ others, t.isUnion = false
  /-- There is one other member, or all are literals of one kind. -/
  uniform : others.length = 1 ∨
    ∃ kind, ∀ t ∈ others, ∃ v : Value, t = literal v ∧ v.literalKind? = some kind

/-- What is required of one part of a type. -/
def IsSound : TypeExpr → Prop
  | keyword name => ∃ word ∈ primitiveKeywords, name = .string word
  | reference _ => True
  | literal v => (∃ s, v = .string s) ∨ (∃ n, v = .int n) ∨ ∃ x, v = .double x ∧ x.isFinite = true
  | null => True
  | array elements => ∃ t, elements = [t] ∧ t ≠ null
  | union members => ∃ others, IsUnionOf others members
  | unknown _ => False
  | missing => False

/-- The type is not null, and every part of it, at any depth, is as required. Since the element of
an array is not null either, null occurs as a member of a union only. -/
structure WellFormed (t : TypeExpr) : Prop where
  /-- Null is no type of its own. -/
  notNull : t ≠ null
  /-- Every part is as required. -/
  parts : ∀ p ∈ t.parts, p.IsSound

/-! ## Compiled types -/

/-- A union is well formed if its members are put together as required and their parts are too. -/
theorem wellFormed_union {others members : List TypeExpr} (h : IsUnionOf others members)
    (hparts : ∀ t ∈ others, ∀ p ∈ t.parts, p.IsSound) : (union members).WellFormed := by
  refine ⟨TypeExpr.noConfusion, fun p hp => ?_⟩
  rcases mem_parts_union.mp hp with rfl | ⟨t, ht, hpt⟩
  · exact ⟨others, h⟩
  · have hcases : t ∈ others ∨ t = null := by
      rcases h.members with rfl | rfl
      · exact Or.inl ht
      · simpa using ht
    rcases hcases with ht | rfl
    · exact hparts t ht p hpt
    · rw [List.mem_singleton.mp hpt]
      trivial

/-- Literals of one kind, with null behind them or not, make a well-formed union. -/
theorem wellFormed_literals {values : List Value} {kind : LiteralKind} {members : List TypeExpr}
    (hne : values ≠ []) (hkind : ∀ v ∈ values, v.literalKind? = some kind)
    (hmembers : members = values.map literal ∨ members = values.map literal ++ [null]) :
    (union members).WellFormed := by
  have hunion : IsUnionOf (values.map literal) members := by
    refine ⟨by simpa using hne, hmembers, by simp, ?_, Or.inr ⟨kind, ?_⟩⟩
    · intro t ht
      obtain ⟨v, -, rfl⟩ := List.mem_map.mp ht
      rfl
    · intro t ht
      obtain ⟨v, hv, rfl⟩ := List.mem_map.mp ht
      exact ⟨v, rfl, hkind v hv⟩
  refine wellFormed_union hunion fun t ht p hp => ?_
  obtain ⟨v, hv, rfl⟩ := List.mem_map.mp ht
  rw [List.mem_singleton.mp hp]
  exact Value.literal_cases (hkind v hv)

/-- **The types that shapes compile to are well formed.** -/
theorem Regular.wellFormed {t : TypeExpr} (h : t.Regular) : t.WellFormed := by
  induction h with
  | keyword hword =>
      refine ⟨TypeExpr.noConfusion, fun p hp => ?_⟩
      rw [List.mem_singleton.mp hp]
      exact ⟨_, hword, rfl⟩
  | reference name =>
      refine ⟨TypeExpr.noConfusion, fun p hp => ?_⟩
      rw [List.mem_singleton.mp hp]
      trivial
  | array _ ih =>
      refine ⟨TypeExpr.noConfusion, fun p hp => ?_⟩
      rcases mem_parts_array.mp hp with rfl | ⟨t, ht, hpt⟩
      · exact ⟨_, rfl, ih.notNull⟩
      · rw [List.mem_singleton.mp ht] at hpt
        exact ih.parts p hpt
  | enumeration hne hkind _ => exact wellFormed_literals hne hkind (Or.inl rfl)
  | nullableEnumeration hne hkind _ => exact wellFormed_literals hne hkind (Or.inr rfl)
  | @nullable t _ hunion ih =>
      have hmembers : IsUnionOf [t] [t, null] := by
        refine ⟨List.cons_ne_nil t [], Or.inr rfl, ?_, ?_, Or.inl rfl⟩
        · exact fun hnull => ih.notNull (List.mem_singleton.mp hnull).symm
        · exact List.forall_mem_singleton.mpr hunion
      exact wellFormed_union hmembers (List.forall_mem_singleton.mpr ih.parts)

end TypeExpr

end ShapeTypes
