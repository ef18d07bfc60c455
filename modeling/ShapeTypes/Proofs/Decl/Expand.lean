import Mathlib.Data.List.Nodup
import Mathlib.Logic.Relation
import ShapeTypes.Proofs.Form
import ShapeTypes.Proofs.Lists
import ShapeTypes.Proofs.References
import ShapeTypes.Proofs.Regular

/-!
# Types unfolded through declarations

* `Decl.find?`: the declaration that a reference names.
* `TypeExpr.expand`: **a type with every reference replaced** by the record, or by the target of the
  alias, that it names, down to a depth. It has no answer if the depth does not suffice or if a
  reference leads nowhere; a greater depth never changes an answer (`TypeExpr.expand_mono`).
* `TypeExpr.expand_withNull`: the extension with null is unfolded to the extension with null.
* `Decl.Reached`: the declarations that the unfolding comes to.
-/

namespace ShapeTypes

namespace Decl

/-- The first declaration of a name. -/
def find? (decls : List Decl) (name : Value) : Option Decl :=
  decls.find? fun decl => decl.name.eqv name

/-- A value means the same as a text only if it is that text. -/
theorem eq_string_of_eqv {v : Value} {s : String} (h : v.eqv (.string s) = true) :
    v = .string s := by
  cases v with
  | string t => rw [(Value.eqv_string t s).mp h]
  | _ => simp [Value.eqv, Value.number?] at h

/-- Among distinct names, a declaration that is named by a text is found under its name. -/
theorem find?_eq_some {decls : List Decl} (hnodup : (decls.map Decl.name).Nodup) {decl : Decl}
    (hmem : decl ∈ decls) {s : String} (hs : decl.name = .string s) :
    find? decls decl.name = some decl := by
  have hself : decl.name.eqv decl.name = true := by
    rw [hs, Value.eqv_string]
  cases hfind : find? decls decl.name with
  | none => exact absurd hself (List.find?_eq_none.mp hfind decl hmem)
  | some other =>
      have hother := List.find?_some hfind
      have hname : other.name = decl.name := by
        rw [hs] at hother ⊢
        exact eq_string_of_eqv hother
      have hin := List.mem_of_find?_eq_some hfind
      rw [List.inj_on_of_nodup_map hnodup hin hmem hname]

end Decl

/-! ## Unfolding -/

/-- A field with its type unfolded by a given way. -/
def Field.expandWith (expand : TypeExpr → Option Form) (field : Field) :
    Option (Value × Value × Form) :=
  (expand field.type).map fun form => (field.name, field.optional, form)

/-- A body with its types unfolded by a given way. -/
def Body.expandWith (expand : TypeExpr → Option Form) : Body → Option Form
  | .record fields => (fields.mapM (Field.expandWith expand)).map .record
  | .synonym target => expand target
  | .bare => none

namespace TypeExpr

/-- A type with every reference replaced by what it names, down to a depth. -/
def expand (decls : List Decl) : Nat → TypeExpr → Option Form
  | 0, _ => none
  | _ + 1, keyword name => some (.keyword name)
  | depth + 1, reference name =>
    (Decl.find? decls name).bind fun decl => decl.body.expandWith (expand decls depth)
  | _ + 1, literal value => some (.literal value)
  | _ + 1, null => some .null
  | depth + 1, array [element] => (expand decls depth element).map .array
  | depth + 1, union members => (members.mapM (expand decls depth)).map .union
  | _ + 1, _ => none

end TypeExpr

/-- A field is unfolded alike by a way that answers whatever another one does. -/
theorem Field.expandWith_mono {f g : TypeExpr → Option Form}
    (hfg : ∀ t form, f t = some form → g t = some form) {field : Field} {out : Value × Value × Form}
    (h : field.expandWith f = some out) : field.expandWith g = some out := by
  obtain ⟨form, hform, rfl⟩ := Option.map_eq_some_iff.mp h
  exact Option.map_eq_some_iff.mpr ⟨form, hfg _ _ hform, rfl⟩

/-- A body is unfolded alike by a way that answers whatever another one does. -/
theorem Body.expandWith_mono {f g : TypeExpr → Option Form}
    (hfg : ∀ t form, f t = some form → g t = some form) {body : Body} {form : Form}
    (h : body.expandWith f = some form) : body.expandWith g = some form := by
  cases body with
  | record fields =>
      obtain ⟨out, hout, rfl⟩ := Option.map_eq_some_iff.mp h
      have hmono := List.mapM_mono (fun _ _ hfield => Field.expandWith_mono hfg hfield) hout
      exact Option.map_eq_some_iff.mpr ⟨out, hmono, rfl⟩
  | synonym target => exact hfg target form h
  | bare => cases h

namespace TypeExpr

variable {decls : List Decl}

/-- One more step of depth does not change an answer. -/
theorem expand_succ {depth : Nat} {t : TypeExpr} {form : Form}
    (h : expand decls depth t = some form) : expand decls (depth + 1) t = some form := by
  induction depth generalizing t form with
  | zero => cases h
  | succ depth ih =>
      have hmono : ∀ t form, expand decls depth t = some form →
          expand decls (depth + 1) t = some form := fun _ _ => ih
      cases t with
      | reference name =>
          obtain ⟨decl, hdecl, hbody⟩ := Option.bind_eq_some_iff.mp h
          exact Option.bind_eq_some_iff.mpr ⟨decl, hdecl, Body.expandWith_mono hmono hbody⟩
      | array elements =>
          match elements with
          | [] => cases h
          | [element] =>
              obtain ⟨inner, hinner, rfl⟩ := Option.map_eq_some_iff.mp h
              exact Option.map_eq_some_iff.mpr ⟨inner, ih hinner, rfl⟩
          | _ :: _ :: _ => cases h
      | union members =>
          obtain ⟨out, hout, rfl⟩ := Option.map_eq_some_iff.mp h
          exact Option.map_eq_some_iff.mpr ⟨out, List.mapM_mono hmono hout, rfl⟩
      | keyword name => exact h
      | literal value => exact h
      | null => exact h
      | unknown kind => cases h
      | missing => cases h

/-- A greater depth does not change an answer. -/
theorem expand_mono {depth more : Nat} {t : TypeExpr} {form : Form}
    (h : expand decls depth t = some form) (hle : depth ≤ more) :
    expand decls more t = some form := by
  induction hle with
  | refl => exact h
  | step _ ih => exact expand_succ ih

/-- Literals are unfolded to literals. -/
theorem expand_literals (values : List Value) :
    expand decls 2 (union (values.map literal)) = some (.union (values.map .literal)) := by
  refine Option.map_eq_some_iff.mpr ⟨values.map .literal, ?_, rfl⟩
  induction values with
  | nil => rfl
  | cons v rest ih => exact List.mapM_cons_eq_some.mpr ⟨.literal v, _, rfl, ih, rfl⟩

/-- Null is unfolded to null wherever any type is unfolded. -/
theorem expand_null {depth : Nat} {t : TypeExpr} {form : Form}
    (h : expand decls depth t = some form) : expand decls depth null = some .null := by
  cases depth with
  | zero => cases h
  | succ depth => rfl

/-- A union is unfolded to a union, also with null as one more member. -/
theorem expand_concat_null {depth : Nat} {members : List TypeExpr} {form : Form}
    (h : expand decls depth (union members) = some form) :
    ∃ forms, form = .union forms ∧
      expand decls (depth + 1) (union (members ++ [null])) = some (.union (forms ++ [.null])) := by
  have hnull := expand_null h
  cases depth with
  | zero => cases h
  | succ depth =>
      obtain ⟨forms, hforms, rfl⟩ := Option.map_eq_some_iff.mp h
      have hmembers : members.mapM (expand decls (depth + 1)) = some forms :=
        List.mapM_mono (fun _ _ => expand_succ) hforms
      exact ⟨forms, rfl, Option.map_eq_some_iff.mpr ⟨_, List.mapM_concat hmembers hnull, rfl⟩⟩

/-- A type with null beside it is unfolded to its form with null beside it. -/
theorem expand_pair_null {depth : Nat} {t : TypeExpr} {form : Form}
    (h : expand decls depth t = some form) :
    expand decls (depth + 1) (union [t, null]) = some (.union [form, .null]) := by
  have hone : [t].mapM (expand decls depth) = some [form] :=
    List.mapM_cons_eq_some.mpr ⟨form, [], h, rfl, rfl⟩
  exact Option.map_eq_some_iff.mpr ⟨_, List.mapM_concat hone (expand_null h), rfl⟩

/-- The extension of a type with null is unfolded to the extension of its form with null. -/
theorem expand_withNull (a : Attributes) {depth : Nat} {t : TypeExpr} {form : Form}
    (h : expand decls depth t = some form) (hunion : form.isUnion = t.isUnion) :
    ∃ more, expand decls more (withNull a t) = some (form.orNull a) := by
  unfold withNull Form.orNull
  cases a.nullable.truthy with
  | false => exact ⟨depth, h⟩
  | true =>
      refine ⟨depth + 1, ?_⟩
      cases t with
      | union members =>
          obtain ⟨forms, rfl, hforms⟩ := expand_concat_null h
          exact hforms
      | _ =>
          cases form with
          | union forms => cases hunion
          | _ => exact expand_pair_null h

end TypeExpr

/-! ## What the unfolding comes to -/

namespace Decl

/-- The first declaration refers to the second. -/
def Leads (decls : List Decl) (decl next : Decl) : Prop :=
  ∃ name ∈ decl.references, find? decls name = some next

/-- Unfolding the references to some names comes to the declaration: it is named by one of them, or
the declaration of such a name leads to it in some steps. -/
def Reached (decls : List Decl) (names : List Value) (decl : Decl) : Prop :=
  ∃ name ∈ names, ∃ first, find? decls name = some first ∧
    Relation.ReflTransGen (Leads decls) first decl

/-- What some names reach is reached by more names. -/
theorem Reached.mono {decls : List Decl} {names more : List Value} {decl : Decl}
    (h : Reached decls names decl) (hsub : names ⊆ more) : Reached decls more decl := by
  obtain ⟨name, hname, first, hfirst, hleads⟩ := h
  exact ⟨name, hsub hname, first, hfirst, hleads⟩

/-- A declaration that is found under its name is reached by the name. -/
theorem reached_self {decls : List Decl} {decl : Decl} (h : find? decls decl.name = some decl) :
    Reached decls [decl.name] decl :=
  ⟨decl.name, List.mem_singleton_self _, decl, h, Relation.ReflTransGen.refl⟩

/-- What the references of a declaration reach is reached by its name. -/
theorem Reached.of_references {decls : List Decl} {decl target : Decl}
    (hself : find? decls decl.name = some decl) (h : Reached decls decl.references target) :
    Reached decls [decl.name] target := by
  obtain ⟨name, hname, first, hfirst, hleads⟩ := h
  exact ⟨decl.name, List.mem_singleton_self _, decl, hself,
    Relation.ReflTransGen.head ⟨name, hname, hfirst⟩ hleads⟩

end Decl

end ShapeTypes
