import ShapeTypes.Decl.Basic
import ShapeTypes.Shape.Declare

/-!
# References between declarations

A type refers to declarations by their names, at any depth; a declaration refers to what its fields
or its target refer to.

* `TypeExpr.references`, `Decl.references`: the names referred to.
* `Decl.Closed`: every reference of a list of declarations is the name of one of them.
* `Decl.Resolves`: a list of declarations in which a reference leads to an earlier one, or to one of
  some names that are known before. Without known names it is closed
  (`Decl.Resolves.closed`), and a reference of the declaration at a position is the name of one at a
  position before it (`Decl.resolves_iff_getElem`).
-/

namespace ShapeTypes

namespace TypeExpr

mutual

/-- The names of the declarations that a type refers to, at any depth. -/
def references : TypeExpr → List Value
  | reference name => [name]
  | array elements => referencesOf elements
  | union members => referencesOf members
  | _ => []

/-- The names of the declarations that several types refer to. -/
def referencesOf : List TypeExpr → List Value
  | [] => []
  | t :: rest => references t ++ referencesOf rest

end

/-- Several types refer to what each of them refers to. -/
theorem referencesOf_eq_flatMap (types : List TypeExpr) :
    referencesOf types = types.flatMap references := by
  induction types with
  | nil => rfl
  | cons t rest ih => rw [referencesOf, ih, List.flatMap_cons]

@[simp] theorem references_keyword (name : Value) : (keyword name).references = [] := rfl

@[simp] theorem references_reference (name : Value) : (reference name).references = [name] := rfl

@[simp] theorem references_literal (value : Value) : (literal value).references = [] := rfl

@[simp] theorem references_null : null.references = [] := rfl

@[simp] theorem references_array (elements : List TypeExpr) :
    (array elements).references = elements.flatMap references :=
  referencesOf_eq_flatMap elements

@[simp] theorem references_union (members : List TypeExpr) :
    (union members).references = members.flatMap references :=
  referencesOf_eq_flatMap members

end TypeExpr

/-- Null adds no reference to a type. -/
@[simp] theorem references_withNull (a : Attributes) (t : TypeExpr) :
    (withNull a t).references = t.references := by
  unfold withNull
  split
  · cases t <;> simp
  · rfl

/-- The types that stand in a body. -/
def Body.types : Body → List TypeExpr
  | .record fields => fields.map Field.type
  | .synonym target => [target]
  | .bare => []

namespace Decl

/-- The names that a declaration refers to in its fields or its target, at any depth. -/
def references (decl : Decl) : List Value := decl.body.types.flatMap TypeExpr.references

@[simp] theorem references_record (name : Value) (fields : List Field) :
    (record name fields).references = fields.flatMap fun field => field.type.references := by
  simp [references, record, Body.types, List.flatMap_map]

@[simp] theorem references_synonym (name : Value) (target : TypeExpr) :
    (synonym name target).references = target.references := by
  simp [references, synonym, Body.types]

/-! ## Closed lists -/

/-- Every reference of a declaration of the list is the name of a declaration of the list. -/
def Closed (decls : List Decl) : Prop :=
  ∀ decl ∈ decls, ∀ name ∈ decl.references, name ∈ decls.map Decl.name

/-- Two closed lists make a closed list. -/
theorem Closed.append {xs ys : List Decl} (hx : Closed xs) (hy : Closed ys) :
    Closed (xs ++ ys) := by
  intro decl hdecl name hname
  rw [List.map_append, List.mem_append]
  rcases List.mem_append.mp hdecl with h | h
  · exact Or.inl (hx decl h name hname)
  · exact Or.inr (hy decl h name hname)

/-! ## Lists in order -/

/-- Every reference leads to a known name or to the name of an earlier declaration. -/
def Resolves (known : List Value) : List Decl → Prop
  | [] => True
  | decl :: rest =>
    (∀ name ∈ decl.references, name ∈ known) ∧ Resolves (decl.name :: known) rest

/-- More names may be known. -/
theorem Resolves.mono {known more : List Value} {decls : List Decl} (h : Resolves known decls)
    (hsub : known ⊆ more) : Resolves more decls := by
  induction decls generalizing known more with
  | nil => trivial
  | cons decl rest ih =>
      refine ⟨fun name hname => hsub (h.1 name hname), ih h.2 ?_⟩
      exact List.cons_subset_cons decl.name hsub

/-- A list resolves if its first part does and its second part does after the names of the first. -/
theorem resolves_append {known : List Value} {xs ys : List Decl} :
    Resolves known (xs ++ ys) ↔ Resolves known xs ∧ Resolves (xs.map Decl.name ++ known) ys := by
  induction xs generalizing known with
  | nil => simp [Resolves]
  | cons decl rest ih =>
      rw [List.cons_append, Resolves, Resolves, ih, List.map_cons, and_assoc]
      have hperm : List.Perm (rest.map Decl.name ++ decl.name :: known)
          (decl.name :: (rest.map Decl.name ++ known)) := List.perm_middle
      constructor
      · rintro ⟨hdecl, hrest, hys⟩
        exact ⟨hdecl, hrest, hys.mono hperm.subset⟩
      · rintro ⟨hdecl, hrest, hys⟩
        exact ⟨hdecl, hrest, hys.mono hperm.symm.subset⟩

/-- A reference of the declaration at a position is known or names a declaration before it. -/
theorem resolves_iff_getElem {known : List Value} {decls : List Decl} :
    Resolves known decls ↔ ∀ i (hi : i < decls.length), ∀ name ∈ decls[i].references,
      name ∈ known ∨ ∃ j, ∃ hj : j < i, decls[j].name = name := by
  induction decls generalizing known with
  | nil => simp [Resolves]
  | cons decl rest ih =>
      rw [Resolves, ih]
      constructor
      · rintro ⟨hdecl, hrest⟩ i hi name hname
        cases i with
        | zero => exact Or.inl (hdecl name hname)
        | succ i =>
            rcases hrest i (Nat.lt_of_succ_lt_succ hi) name hname with h | ⟨j, hj, hjn⟩
            · rcases List.mem_cons.mp h with rfl | h
              · exact Or.inr ⟨0, Nat.succ_pos i, rfl⟩
              · exact Or.inl h
            · exact Or.inr ⟨j + 1, Nat.succ_lt_succ hj, hjn⟩
      · intro h
        refine ⟨fun name hname => ?_, fun i hi name hname => ?_⟩
        · rcases h 0 (Nat.succ_pos _) name hname with h0 | ⟨j, hj, -⟩
          · exact h0
          · exact absurd hj (Nat.not_lt_zero j)
        · rcases h (i + 1) (Nat.succ_lt_succ hi) name hname with h1 | ⟨j, hj, hjn⟩
          · exact Or.inl (List.mem_cons_of_mem _ h1)
          · cases j with
            | zero => exact Or.inl (List.mem_cons.mpr (Or.inl hjn.symm))
            | succ j => exact Or.inr ⟨j, Nat.lt_of_succ_lt_succ hj, hjn⟩

/-- A list that resolves without known names is closed. -/
theorem Resolves.closed {decls : List Decl} (h : Resolves [] decls) : Closed decls := by
  intro decl hdecl name hname
  obtain ⟨i, hi, rfl⟩ := List.mem_iff_getElem.mp hdecl
  rcases resolves_iff_getElem.mp h i hi name hname with hnil | ⟨j, hj, rfl⟩
  · cases hnil
  · exact List.mem_map_of_mem (List.getElem_mem _)

end Decl

end ShapeTypes
