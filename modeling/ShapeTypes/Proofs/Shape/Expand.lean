import ShapeTypes.Proofs.Decl.Expand
import ShapeTypes.Proofs.Decl.Unique
import ShapeTypes.Proofs.Shape.Grounded
import ShapeTypes.Proofs.Shape.Named

/-!
# The declarations of a shape mean the shape

What a shape is compiled to, unfolded through the declarations that are kept, is the form that is
read off the shape.

* `Shape.exists_name_of_declareRoot`: declarations of shapes with text labels are named by texts.
* `Shape.expand_cases`, `Shape.reached_cases`: over any declarations in which everything that was
  put out is found under its name, a type is unfolded to the form of its shape, and the unfolding
  comes to everything that was put out. Both are inductions over what succeeds; no order of the
  declarations is used, so a declaration may be found later than its references.
* `Shape.expand_declareRoot`: **declaring and dropping repetitions preserves the meaning of a
  schema** when declarations of one name are equal.
-/

namespace ShapeTypes

/-- The names of all declarations lead back to them. -/
def Decl.AllFound (decls items : List Decl) : Prop :=
  ∀ decl ∈ items, find? decls decl.name = some decl

namespace Decl.AllFound

variable {decls xs ys : List Decl}

/-- What is found is found in the first part. -/
theorem left (h : AllFound decls (xs ++ ys)) : AllFound decls xs :=
  fun decl hdecl => h decl (List.mem_append_left ys hdecl)

/-- What is found is found in the second part. -/
theorem right (h : AllFound decls (xs ++ ys)) : AllFound decls ys :=
  fun decl hdecl => h decl (List.mem_append_right xs hdecl)

/-- What is found is found at the end. -/
theorem last {decl : Decl} (h : AllFound decls (xs ++ [decl])) :
    find? decls decl.name = some decl :=
  h.right decl (List.mem_singleton_self decl)

end Decl.AllFound

namespace Shape

/-! ## Names -/

/-- Where the labels are texts, the explicit names are. -/
theorem HasTextLabels.hasTextNames {shape : Shape} (h : shape.HasTextLabels) :
    shape.HasTextNames :=
  fun node hnode a ha _ => (h node hnode a ha).2

/-- What an object with text labels puts out is named by texts. -/
theorem exists_name_of_declareObject {ignored : Ignored} {derived : Value} {shape : Shape}
    {items : List Decl} {t : TypeExpr} (hlabels : shape.HasTextLabels)
    (h : declareObject ignored shape derived = ⟨items, .ok t⟩) :
    ∀ decl ∈ items, ∃ s, decl.name = .string s := by
  have hnamed := named_declareObject ignored hlabels.hasTextNames derived
  rwa [h] at hnamed

/-- What a schema with text labels puts out is named by texts. -/
theorem exists_name_of_declareRoot {ignored : Ignored} {shape : Shape} {items : List Decl}
    {t : TypeExpr} (hlabels : shape.HasTextLabels)
    (h : declareRoot ignored shape = ⟨items, .ok t⟩) :
    ∀ decl ∈ items, ∃ s, decl.name = .string s := by
  rcases declareRoot_eq_ok h with hobject | ⟨a, elements, rfl, harray⟩
  · exact exists_name_of_declareObject hlabels hobject
  · obtain ⟨name, before, element, htruthy, -, helement, rfl, rfl⟩ :=
      declareRootArray_eq_ok.mp harray
    intro decl hdecl
    rcases List.mem_append.mp hdecl with hbefore | hlast
    · exact exists_name_of_declareObject hlabels.items helement decl hbefore
    · rw [List.mem_singleton.mp hlast]
      exact Value.eq_string_of_isLabel (hlabels.root rfl).2 htruthy

/-! ## Unfolding -/

variable {decls : List Decl}

/-- A reference to a record is unfolded to the record. -/
theorem expand_reference_record {depth : Nat} {name : Value} {fields : List Field}
    {forms : List (Value × Value × Form)}
    (hfind : Decl.find? decls name = some (Decl.record name fields))
    (hfields : fields.mapM (Field.expandWith (TypeExpr.expand decls depth)) = some forms) :
    TypeExpr.expand decls (depth + 1) (.reference name) = some (.record forms) := by
  refine Option.bind_eq_some_iff.mpr ⟨_, hfind, ?_⟩
  exact Option.map_eq_some_iff.mpr ⟨forms, hfields, rfl⟩

/-- The type of a primitive is unfolded to the form of the primitive. -/
theorem expand_primitiveType {variant : String} {test : Value → Except Failure Bool}
    {key enumeration : Value} {t : TypeExpr}
    (h : primitiveType variant test key enumeration = .ok t) (a : Attributes) :
    ∃ depth, TypeExpr.expand decls depth (withNull a t) =
      some ((primitiveForm variant enumeration).orNull a) := by
  rcases primitiveType_eq_ok h with ⟨rfl, hne⟩ | ⟨values, hne, rfl, -, rfl⟩
  · have hform : primitiveForm variant enumeration = .keyword (.string variant) := by
      unfold primitiveForm
      split
      · exact absurd rfl (hne _ _)
      · rfl
    have hkeyword : TypeExpr.expand decls 1 (.keyword (.string variant)) =
        some (.keyword (.string variant)) := rfl
    rw [hform]
    exact TypeExpr.expand_withNull a hkeyword rfl
  · have hform : primitiveForm variant (.list values) = .union (values.map .literal) := by
      cases values with
      | nil => exact absurd rfl hne
      | cons v rest => rfl
    rw [hform]
    exact TypeExpr.expand_withNull a (TypeExpr.expand_literals values) rfl

/-- Over declarations in which everything that was put out is found, a type is unfolded to the form
of its shape, and fields are unfolded to the fields of the forms. -/
theorem expand_cases (ignored : Ignored) (decls : List Decl) : SuccessCases ignored
    (fun shape _ items t => Decl.AllFound decls items →
      ∃ depth, TypeExpr.expand decls depth t = some (shape.form ignored))
    (fun properties items fields => Decl.AllFound decls items →
      ∃ depth, fields.mapM (Field.expandWith (TypeExpr.expand decls depth)) =
        some (formFields ignored properties)) where
  object := by
    intro a properties derived before fields name hfields _ hfound
    obtain ⟨depth, hdepth⟩ := hfields hfound.left
    exact TypeExpr.expand_withNull a (expand_reference_record hfound.last hdepth) rfl
  array := by
    intro a elements derived name items element _ helement hfound
    obtain ⟨depth, hdepth⟩ := helement hfound
    have harray : TypeExpr.expand decls (depth + 1) (.array [element]) =
        some (.array (elements.form ignored)) :=
      Option.map_eq_some_iff.mpr ⟨_, hdepth, rfl⟩
    exact TypeExpr.expand_withNull a harray rfl
  boolean := by
    intro a derived _
    have hkeyword : TypeExpr.expand decls 1 (.keyword (.string "boolean")) =
        some (.keyword (.string "boolean")) := rfl
    exact TypeExpr.expand_withNull a hkeyword rfl
  number := fun htype _ => expand_primitiveType htype _
  string := fun htype _ => expand_primitiveType htype _
  nil := fun _ => ⟨0, rfl⟩
  hidden := by
    intro property rest key items fields hkey hhidden hrest hfound
    rw [formFields, isIgnored_eq hkey hhidden]
    exact hrest hfound
  shown := by
    intro property rest key before type after tail hkey hhidden htype htail hfound
    obtain ⟨depth, hdepth⟩ := htype hfound.left
    obtain ⟨depth', hdepth'⟩ := htail hfound.right
    -- a depth that suffices for both
    refine ⟨max depth depth', ?_⟩
    have hhead : Field.expandWith (TypeExpr.expand decls (max depth depth'))
        (fieldOf property key type) =
          some (property.key.orEmpty, property.optional, property.form ignored) := by
      refine Option.map_eq_some_iff.mpr ⟨property.form ignored, ?_, ?_⟩
      · exact TypeExpr.expand_mono hdepth (Nat.le_max_left depth depth')
      · rw [eq_key_of_key? hkey]
        rfl
    have hrest : tail.mapM (Field.expandWith (TypeExpr.expand decls (max depth depth'))) =
        some (formFields ignored rest) :=
      List.mapM_mono (fun _ _ hfield => Field.expandWith_mono (fun _ _ ht =>
        TypeExpr.expand_mono ht (Nat.le_max_right depth depth')) hfield) hdepth'
    rw [formFields, isIgnored_eq hkey hhidden, if_neg Bool.false_ne_true]
    exact List.mapM_cons_eq_some.mpr ⟨_, _, hhead, hrest, rfl⟩

/-- Over declarations in which everything that was put out is found, the unfolding of a type, or of
the types of fields, comes to everything that was put out. -/
theorem reached_cases (ignored : Ignored) (decls : List Decl) : SuccessCases ignored
    (fun _ _ items t => Decl.AllFound decls items →
      ∀ decl ∈ items, Decl.Reached decls t.references decl)
    (fun _ items fields => Decl.AllFound decls items →
      ∀ decl ∈ items, Decl.Reached decls (fields.flatMap fun field => field.type.references) decl)
    where
  object := by
    intro a properties derived before fields name hfields _ hfound decl hdecl
    rw [references_withNull, TypeExpr.references_reference]
    rcases List.mem_append.mp hdecl with hbefore | hlast
    · refine Decl.Reached.of_references hfound.last ?_
      rw [Decl.references_record]
      exact hfields hfound.left decl hbefore
    · rw [List.mem_singleton.mp hlast]
      exact Decl.reached_self hfound.last
  array := by
    intro a elements derived name items element _ helement hfound decl hdecl
    rw [references_withNull, TypeExpr.references_array, List.flatMap_singleton]
    exact helement hfound decl hdecl
  boolean := fun _ decl hdecl => absurd hdecl List.not_mem_nil
  number := fun _ _ decl hdecl => absurd hdecl List.not_mem_nil
  string := fun _ _ decl hdecl => absurd hdecl List.not_mem_nil
  nil := fun _ decl hdecl => absurd hdecl List.not_mem_nil
  hidden := fun _ _ hrest hfound => hrest hfound
  shown := by
    intro property rest key before type after tail _ _ htype htail hfound decl hdecl
    rw [List.flatMap_cons]
    rcases List.mem_append.mp hdecl with hbefore | hafter
    · exact (htype hfound.left decl hbefore).mono (List.subset_append_left _ _)
    · exact (htail hfound.right decl hafter).mono (List.subset_append_right _ _)

/-! ## Schemas -/

/-- An object is unfolded to the record of its fields, and the unfolding comes to everything that
was put out. -/
theorem expand_declareObject {ignored : Ignored} {derived : Value} {a : Attributes}
    {properties : List Shape} {items : List Decl} {t : TypeExpr}
    (h : declareObject ignored (object a properties) derived = ⟨items, .ok t⟩)
    (hfound : Decl.AllFound decls items) :
    (∃ depth, TypeExpr.expand decls depth t = some (.record (formFields ignored properties))) ∧
      ∀ decl ∈ items, Decl.Reached decls t.references decl := by
  obtain ⟨_, _, before, fields, name, hshape, hfields, hname, rfl, rfl⟩ := declareObject_eq_ok.mp h
  cases hshape
  constructor
  · obtain ⟨depth, hdepth⟩ := (expand_cases ignored decls).fields hfields hfound.left
    exact ⟨depth + 1, expand_reference_record hfound.last hdepth⟩
  · have htype := declareType_object_eq_ok.mpr ⟨before, fields, name, hfields, hname, rfl, rfl⟩
    have hreached := (reached_cases ignored decls).type _ _ _ _ htype hfound
    rwa [references_withNull] at hreached

/-- A schema is unfolded to its form, and the unfolding comes to everything that was put out. -/
theorem expand_root {ignored : Ignored} {shape : Shape} {items : List Decl} {t : TypeExpr}
    (h : declareRoot ignored shape = ⟨items, .ok t⟩) (hfound : Decl.AllFound decls items) :
    (∃ depth, TypeExpr.expand decls depth t = some (shape.rootForm ignored)) ∧
      ∀ decl ∈ items, Decl.Reached decls t.references decl := by
  rcases declareRoot_eq_ok h with hobject | ⟨a, elements, rfl, harray⟩
  · obtain ⟨a, properties, -, -, -, rfl, -⟩ := declareObject_eq_ok.mp hobject
    exact expand_declareObject hobject hfound
  · obtain ⟨name, before, element, -, -, helement, rfl, rfl⟩ := declareRootArray_eq_ok.mp harray
    obtain ⟨b, properties, -, -, -, rfl, -⟩ := declareObject_eq_ok.mp helement
    obtain ⟨⟨depth, hdepth⟩, hreached⟩ := expand_declareObject helement hfound.left
    constructor
    · refine ⟨depth + 2, Option.bind_eq_some_iff.mpr ⟨_, hfound.last, ?_⟩⟩
      exact Option.map_eq_some_iff.mpr ⟨_, hdepth, rfl⟩
    · intro decl hdecl
      rw [TypeExpr.references_reference]
      rcases List.mem_append.mp hdecl with hbefore | hlast
      · refine Decl.Reached.of_references hfound.last ?_
        rw [Decl.references_synonym, TypeExpr.references_array, List.flatMap_singleton]
        exact hreached decl hbefore
      · rw [List.mem_singleton.mp hlast]
        exact Decl.reached_self hfound.last

end Shape

/-- When declarations of one name are equal, everything that was put out is found among what is
kept. -/
theorem Decl.Kept.allFound {kept items : List Decl} (h : Decl.Kept kept items)
    (hparameters : ∀ decl ∈ items, decl.parameters = [])
    (hharmless : ∀ decl ∈ items, ∀ other ∈ items, decl.name = other.name → decl = other) :
    Decl.AllFound kept items := by
  intro decl hdecl
  obtain ⟨other, hother, hname⟩ :=
    List.mem_map.mp ((h.mem_names hparameters).mpr (List.mem_map_of_mem hdecl))
  have heq := hharmless other (h.sublist.subset hother) decl hdecl hname
  obtain ⟨s, hs⟩ := h.exists_name hparameters decl hdecl
  exact Decl.find?_eq_some (h.nodup_names hparameters) (heq ▸ hother) hs

namespace Shape

/-- **Declaring a schema and dropping repetitions preserves its meaning.** If a schema whose keys
and names are texts is declared, and any two declarations of one name are equal, then repetitions
can be dropped, the answer is unfolded through what is kept to the form of the schema, at every
depth from some depth on, and the unfolding comes to every declaration that is kept. -/
theorem expand_declareRoot {ignored : Ignored} {shape : Shape} {items : List Decl} {root : TypeExpr}
    (hlabels : shape.HasTextLabels) (h : declareRoot ignored shape = ⟨items, .ok root⟩)
    (hharmless : ∀ decl ∈ items, ∀ other ∈ items, decl.name = other.name → decl = other) :
    ∃ kept dropped, Decl.unique items = .ok (kept, dropped) ∧
      (∃ depth, ∀ more, depth ≤ more →
        root.expand kept more = some (shape.rootForm ignored)) ∧
      ∀ decl ∈ kept, Decl.Reached kept root.references decl := by
  obtain ⟨kept, dropped, hunique⟩ :=
    Decl.exists_unique_of_text (exists_name_of_declareRoot hlabels h)
  have hkept := Decl.kept_of_unique hunique
  have hgrounded := grounded_declareRoot ignored shape []
  rw [h] at hgrounded
  have hparameters := fun decl hdecl => (hgrounded.compiled decl hdecl).parameters
  have hfound := hkept.allFound hparameters hharmless
  obtain ⟨⟨depth, hdepth⟩, hreached⟩ := expand_root h hfound
  refine ⟨kept, dropped, hunique, ⟨depth, fun more hle => ?_⟩, fun decl hdecl => ?_⟩
  · exact TypeExpr.expand_mono hdepth hle
  · exact hreached decl (hkept.sublist.subset hdecl)

/-- An address, whose note is left out. -/
def parcelAddress (key : String) : Shape :=
  .object { key := .string key, name := .string "Address" }
    [.string { key := .string "note" } .null,
      .string { key := .string "kind", nullable := .bool true } (.list [.string "home"])]

/-- A parcel with two addresses that are declared alike. -/
def parcel : Shape :=
  .object { name := .string "Parcel", nullable := .bool true }
    [parcelAddress "from", parcelAddress "to"]

/-- The declaration of both addresses. -/
def addressDecl : Decl :=
  .record (.string "Address")
    [⟨.string "kind", .union [.literal (.string "home"), .null], .bool false⟩]

/-- The declaration of the parcel. -/
def parcelDecl : Decl :=
  .record (.string "Parcel")
    [⟨.string "from", .reference (.string "Address"), .bool false⟩,
      ⟨.string "to", .reference (.string "Address"), .bool false⟩]

/-- One address is kept for both, and the parcel is unfolded through it to its form. -/
theorem expand_parcel : ∃ kept dropped,
    Decl.unique [addressDecl, addressDecl, parcelDecl] = .ok (kept, dropped) ∧
    (∃ depth, ∀ more, depth ≤ more → TypeExpr.expand kept more (.reference (.string "Parcel")) =
      some (parcel.rootForm (.list [.string "note"]))) ∧
    ∀ decl ∈ kept, Decl.Reached kept [.string "Parcel"] decl := by
  have hlabels : parcel.HasTextLabels := by
    intro node hnode a ha
    simp only [parcel, parcelAddress, nodes, nodesOf, List.cons_append, List.nil_append,
      List.append_nil, List.mem_cons, List.not_mem_nil, or_false] at hnode
    rcases hnode with rfl | rfl | rfl | rfl | rfl | rfl | rfl <;>
      · cases ha
        exact ⟨rfl, rfl⟩
  have hdeclare : declareRoot (.list [.string "note"]) parcel =
      ⟨[addressDecl, addressDecl, parcelDecl], .ok (.reference (.string "Parcel"))⟩ := rfl
  refine expand_declareRoot hlabels hdeclare ?_
  intro decl hdecl other hother hname
  simp only [List.mem_cons, List.not_mem_nil, or_false] at hdecl hother
  rcases hdecl with rfl | rfl | rfl <;> rcases hother with rfl | rfl | rfl <;>
    first | rfl | simp [addressDecl, parcelDecl, Decl.record] at hname

end Shape

end ShapeTypes
