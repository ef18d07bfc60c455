import ShapeTypes.Decl.Source
import ShapeTypes.Proofs.Failure

/-!
# What is written when rendering succeeds

* `TypeExpr.text_array`, `TypeExpr.text_union`: the text of a type is put together from the texts of
  its parts.
* `Field.source_eq_ok`, `Decl.source_eq_ok`: what the source of a field or a declaration is.
* `fieldSources_eq_ok`, `declSources_eq_ok`: several sources are the sources of each, in order.
-/

namespace ShapeTypes

/-! ## Types -/

namespace TypeExpr

/-- Strings are strings. -/
theorem allStrings_map (strings : List String) :
    allStrings (strings.map .string) = .ok strings := by
  induction strings with
  | nil => rfl
  | cons s rest ih =>
      rw [List.map_cons, allStrings, ih]
      rfl

/-- The text of a literal that is not too long is its source. -/
theorem text_literal {v : Value} (h : v.isShowable = true) :
    (literal v).text = .ok (.string v.source) := by
  rw [text, Value.written_of_isShowable h]
  rfl

/-- The text of an array comes from the text of its element. -/
theorem text_array {t : TypeExpr} {s : String} (h : t.text = .ok (.string s)) :
    (array [t]).text = .ok (.string (arrayText t.isWide s)) := by
  rw [text, h]
  rfl

/-- The text of a union joins the texts of its members. -/
theorem text_union {members : List TypeExpr} {strings : List String}
    (h : texts members = .ok (strings.map .string)) :
    (union members).text = .ok (.string (" | ".intercalate strings)) := by
  rw [text, h]
  dsimp only
  rw [allStrings_map]
  rfl

/-- The texts of several types are the texts of each. -/
theorem texts_eq_ok {types : List TypeExpr} {values : List Value} :
    texts types = .ok values ↔ List.Forall₂ (fun t v => t.text = .ok v) types values :=
  Failure.traverse_eq_ok (g := texts) rfl
    (fun _ _ _ h => by rw [texts, h]) (fun _ _ _ h => by rw [texts, h])

/-- If every type has a text with a property, so do all of them together. -/
theorem exists_texts {P : String → Prop} {types : List TypeExpr}
    (h : ∀ t ∈ types, ∃ s, t.text = .ok (.string s) ∧ P s) :
    ∃ strings : List String, texts types = .ok (strings.map .string) ∧ ∀ s ∈ strings, P s := by
  obtain ⟨strings, hstrings⟩ := List.exists_forall₂ h
  refine ⟨strings, texts_eq_ok.mpr (List.forall₂_map_right_iff.mpr ?_), fun s hs => ?_⟩
  · exact hstrings.imp fun _ _ htext => htext.1
  · obtain ⟨t, -, -, hproperty⟩ := hstrings.exists_of_mem_right hs
    exact hproperty

end TypeExpr

/-! ## Fields -/

/-- The source of a field is its line, with the text of its type. -/
theorem Field.source_eq_ok {field : Field} {line : String} (h : field.source = .ok line) :
    ∃ name type, field.name = .string name ∧ field.type.text = .ok type ∧
      line = fieldLine name field.optional.truthy type.text := by
  unfold Field.source at h
  split at h
  · rename_i name hname
    obtain ⟨type, htype, rfl⟩ := Failure.map_eq_ok.mp h
    exact ⟨name, type, hname, htype, rfl⟩
  · cases h

/-- The sources of several fields are the sources of each. -/
theorem fieldSources_eq_ok {fields : List Field} {lines : List String} :
    fieldSources fields = .ok lines ↔
      List.Forall₂ (fun field line => field.source = .ok line) fields lines :=
  Failure.traverse_eq_ok (g := fieldSources) rfl
    (fun _ _ _ h => by rw [fieldSources, h]) (fun _ _ _ h => by rw [fieldSources, h])

/-! ## Declarations -/

/-- The source of a declaration is an interface with the lines of its fields, or an alias for the
text of its target. -/
theorem Decl.source_eq_ok {exported : Bool} {decl : Decl} {source : String}
    (h : decl.source exported = .ok source) :
    (∃ fields lines, decl.body = .record fields ∧ fieldSources fields = .ok lines ∧
      source = decl.heading exported "interface" ++ " \x7b\n" ++ String.join lines ++ "\x7d") ∨
    ∃ target type, decl.body = .synonym target ∧ target.text = .ok type ∧
      source = decl.heading exported "type" ++ " = " ++ type.text ++ ";" := by
  unfold Decl.source at h
  split at h
  · rename_i fields hbody
    obtain ⟨lines, hlines, rfl⟩ := Failure.map_eq_ok.mp h
    exact Or.inl ⟨fields, lines, hbody, hlines, rfl⟩
  · rename_i target hbody
    obtain ⟨type, htype, rfl⟩ := Failure.map_eq_ok.mp h
    exact Or.inr ⟨target, type, hbody, htype, rfl⟩
  · cases h

/-- The sources of several declarations are the sources of each. -/
theorem declSources_eq_ok {exported : Bool} {decls : List Decl} {sources : List String} :
    declSources exported decls = .ok sources ↔
      List.Forall₂ (fun decl source => decl.source exported = .ok source) decls sources :=
  Failure.traverse_eq_ok (g := declSources exported) rfl
    (fun _ _ _ h => by rw [declSources, h]) (fun _ _ _ h => by rw [declSources, h])

end ShapeTypes
