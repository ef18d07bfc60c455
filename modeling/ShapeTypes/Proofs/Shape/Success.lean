import ShapeTypes.Proofs.Shape.Tree
import ShapeTypes.Shape.Declare

/-!
# Computations that succeed

What a computation of declarations is made of when it succeeds: one statement for each kind of
shape, which says what was put out and what was answered in terms of its parts.

* `Traced.bind_eq_ok`, `Traced.ofExcept_bind_eq_ok`, `Traced.bind_pure_eq_ok`: a sequence, and one
  whose first or second part puts out nothing.
* `declareRecord_eq_ok`: a record.
* `Shape.declareType_object_eq_ok`, `Shape.declareType_array_eq_ok` and their like: the type of a
  shape; `Shape.declareFields_cons_eq_ok`: the fields of an object.
* `Shape.declareObject_eq_ok`, `Shape.declareRoot_eq_ok`: an object, and a whole schema.
* `Shape.SuccessCases`: **the cases of an induction over what succeeds**: a statement about shapes
  with what they put out and answer, and one about lists of properties with their fields.
  `Shape.SuccessCases.type` and `Shape.SuccessCases.fields` conclude them.
-/

namespace ShapeTypes

namespace Traced

variable {σ α β : Type}

/-- A computation is its trace and its result. -/
theorem eq_of_result {c : Traced σ α} {r : Except Failure α} (h : c.result = r) :
    c = ⟨c.trace, r⟩ := by
  rw [← h]

/-- A sequence succeeds if both parts do; what the second puts out follows what the first does. -/
theorem bind_eq_ok {first : Traced σ α} {next : α → Traced σ β} {items : List σ} {b : β} :
    first >>= next = ⟨items, .ok b⟩ ↔ ∃ before a after, first = ⟨before, .ok a⟩ ∧
      next a = ⟨after, .ok b⟩ ∧ items = before ++ after := by
  obtain ⟨before, result⟩ := first
  cases result with
  | error failure => simp [bind_error]
  | ok a =>
      rw [bind_ok]
      constructor
      · intro h
        have htrace := congrArg Traced.trace h
        have hresult := congrArg Traced.result h
        exact ⟨before, a, (next a).trace, rfl, eq_of_result hresult, htrace.symm⟩
      · rintro ⟨before', a', after, hfirst, hnext, rfl⟩
        cases hfirst
        rw [hnext]

/-- What follows a computation that puts out nothing puts out everything. -/
theorem ofExcept_bind_eq_ok {e : Except Failure α} {next : α → Traced σ β} {items : List σ}
    {b : β} : ofExcept e >>= next = ⟨items, .ok b⟩ ↔ ∃ a, e = .ok a ∧ next a = ⟨items, .ok b⟩ := by
  cases e with
  | error failure => simp [ofExcept, bind_error]
  | ok a =>
      rw [ofExcept, bind_ok, List.nil_append]
      constructor
      · intro h
        exact ⟨a, rfl, h⟩
      · rintro ⟨a', he, hnext⟩
        cases he
        exact hnext

/-- A result that is computed from another one puts out nothing more. -/
theorem bind_pure_eq_ok {first : Traced σ α} {f : α → β} {items : List σ} {b : β} :
    (first >>= fun a => (pure (f a) : Traced σ β)) = ⟨items, .ok b⟩ ↔
      ∃ a, first = ⟨items, .ok a⟩ ∧ b = f a := by
  obtain ⟨before, result⟩ := first
  cases result with
  | error failure => simp [bind_error]
  | ok a =>
      rw [bind_ok, pure_eq, List.append_nil]
      constructor
      · intro h
        cases h
        exact ⟨a, rfl, rfl⟩
      · rintro ⟨a', hfirst, rfl⟩
        cases hfirst
        rfl

/-- A failure does not succeed. -/
theorem fail_ne_ok {failure : Failure} {items : List σ} {a : α} :
    (fail failure : Traced σ α) ≠ ⟨items, .ok a⟩ := by
  intro h
  cases congrArg Traced.result h

end Traced

/-- A record that is put out is answered by a reference to its name. -/
theorem declareRecord_eq_ok {a : Attributes} {derived : Value} {fields : List Field}
    {items : List Decl} {t : TypeExpr} :
    declareRecord a derived fields = ⟨items, .ok t⟩ ↔ ∃ name, objectName a derived = .ok name ∧
      items = [Decl.record name fields] ∧ t = .reference name := by
  unfold declareRecord
  rw [Traced.ofExcept_bind_eq_ok]
  constructor
  · rintro ⟨name, hname, hdeclare⟩
    cases hdeclare
    exact ⟨name, hname, rfl, rfl⟩
  · rintro ⟨name, hname, rfl, rfl⟩
    exact ⟨name, hname, rfl⟩

namespace Shape

variable {ignored : Ignored} {derived : Value} {a : Attributes} {items : List Decl} {t : TypeExpr}

/-- The type of an object is a reference to its record, which follows what its properties put out.
-/
theorem declareType_object_eq_ok {properties : List Shape} :
    declareType ignored (object a properties) derived = ⟨items, .ok t⟩ ↔
      ∃ before fields name, declareFields ignored properties = ⟨before, .ok fields⟩ ∧
        objectName a derived = .ok name ∧ items = before ++ [Decl.record name fields] ∧
        t = withNull a (.reference name) := by
  rw [declareType, Traced.bind_eq_ok]
  constructor
  · rintro ⟨before, fields, after, hfields, hafter, rfl⟩
    obtain ⟨type, hrecord, rfl⟩ := Traced.bind_pure_eq_ok.mp hafter
    obtain ⟨name, hname, rfl, rfl⟩ := declareRecord_eq_ok.mp hrecord
    exact ⟨before, fields, name, hfields, hname, rfl, rfl⟩
  · rintro ⟨before, fields, name, hfields, hname, rfl, rfl⟩
    refine ⟨before, fields, _, hfields, Traced.bind_pure_eq_ok.mpr ?_, rfl⟩
    exact ⟨_, declareRecord_eq_ok.mpr ⟨name, hname, rfl, rfl⟩, rfl⟩

/-- The type of an array is the array type of its items, which get the name of an element. -/
theorem declareType_array_eq_ok {elements : Shape} :
    declareType ignored (array a elements) derived = ⟨items, .ok t⟩ ↔
      ∃ name element, elements.isMissing = false ∧
        elementNameOf (sourceName a derived) = .ok name ∧
        declareType ignored elements (.string name) = ⟨items, .ok element⟩ ∧
        t = withNull a (.array [element]) := by
  rw [declareType]
  cases hmissing : elements.isMissing with
  | true =>
      rw [if_pos rfl]
      refine ⟨fun h => absurd h Traced.fail_ne_ok, ?_⟩
      rintro ⟨name, element, hpresent, -⟩
      cases hpresent
  | false =>
      rw [if_neg Bool.false_ne_true, Traced.ofExcept_bind_eq_ok]
      constructor
      · rintro ⟨name, hname, hrest⟩
        obtain ⟨element, helement, rfl⟩ := Traced.bind_pure_eq_ok.mp hrest
        exact ⟨name, element, rfl, hname, helement, rfl⟩
      · rintro ⟨name, element, -, hname, helement, rfl⟩
        exact ⟨name, hname, Traced.bind_pure_eq_ok.mpr ⟨element, helement, rfl⟩⟩

/-- The type of a truth value is its keyword. -/
theorem declareType_boolean_eq_ok :
    declareType ignored (boolean a) derived = ⟨items, .ok t⟩ ↔
      items = [] ∧ t = withNull a (.keyword (.string "boolean")) := by
  rw [declareType, Traced.pure_eq, Traced.mk.injEq, Except.ok.injEq, eq_comm, @eq_comm _ _ t]

/-- The type of a primitive that may have an enumeration puts out nothing. -/
theorem primitive_eq_ok {e : Except Failure TypeExpr} :
    (Traced.ofExcept e >>= fun type => (pure (withNull a type) : Declaring TypeExpr)) =
        ⟨items, .ok t⟩ ↔ items = [] ∧ ∃ type, e = .ok type ∧ t = withNull a type := by
  rw [Traced.bind_pure_eq_ok]
  constructor
  · rintro ⟨type, htype, rfl⟩
    cases htype
    exact ⟨rfl, type, rfl, rfl⟩
  · rintro ⟨rfl, type, rfl, rfl⟩
    exact ⟨type, rfl, rfl⟩

/-- The field of a property that is not ignored. -/
def fieldOf (property : Shape) (key : Value) (type : TypeExpr) : Field :=
  ⟨key.orEmpty, type, (property.attributes?.map Attributes.optional).getD .null⟩

/-- The fields of a list of properties: an ignored first property is left out, any other one gives
the first field, and what it puts out comes first. -/
theorem declareFields_cons_eq_ok {property : Shape} {rest : List Shape} {fields : List Field} :
    declareFields ignored (property :: rest) = ⟨items, .ok fields⟩ ↔
      ∃ key hidden, property.key? = .ok key ∧ Ignored.hides ignored key = .ok hidden ∧
        ((hidden = true ∧ declareFields ignored rest = ⟨items, .ok fields⟩) ∨
          ∃ before type after tail, hidden = false ∧
            declareType ignored property .null = ⟨before, .ok type⟩ ∧
            declareFields ignored rest = ⟨after, .ok tail⟩ ∧ items = before ++ after ∧
            fields = fieldOf property key type :: tail) := by
  rw [declareFields, Traced.ofExcept_bind_eq_ok]
  refine exists_congr fun key => ?_
  rw [exists_and_left, Traced.ofExcept_bind_eq_ok]
  refine and_congr_right fun _ => exists_congr fun hidden => and_congr_right fun _ => ?_
  cases hidden with
  | true => simp
  | false =>
      rw [if_neg Bool.false_ne_true, Traced.bind_eq_ok]
      constructor
      · rintro ⟨before, type, after, htype, hafter, rfl⟩
        obtain ⟨tail, htail, rfl⟩ := Traced.bind_pure_eq_ok.mp hafter
        exact Or.inr ⟨before, type, after, tail, rfl, htype, htail, rfl, rfl⟩
      · rintro (⟨hfalse, -⟩ | ⟨before, type, after, tail, -, htype, htail, rfl, rfl⟩)
        · cases hfalse
        · exact ⟨before, type, after, htype, Traced.bind_pure_eq_ok.mpr ⟨tail, htail, rfl⟩, rfl⟩

/-! ## Induction over what succeeds -/

/-- The cases of an induction over the types and the fields that are computed with success. -/
structure SuccessCases (ignored : Ignored)
    (ofType : Shape → Value → List Decl → TypeExpr → Prop)
    (ofFields : List Shape → List Decl → List Field → Prop) : Prop where
  /-- An object, whose fields are known and which has a name. -/
  object : ∀ {a properties derived before fields name}, ofFields properties before fields →
    objectName a derived = .ok name →
    ofType (.object a properties) derived (before ++ [Decl.record name fields])
      (withNull a (.reference name))
  /-- An array, whose items get the name of an element. -/
  array : ∀ {a elements derived name items element},
    elementNameOf (sourceName a derived) = .ok name →
    ofType elements (.string name) items element →
    ofType (.array a elements) derived items (withNull a (.array [element]))
  /-- A truth value. -/
  boolean : ∀ {a derived},
    ofType (.boolean a) derived [] (withNull a (.keyword (.string "boolean")))
  /-- A number. -/
  number : ∀ {a enumeration derived t},
    primitiveType "number" isNumberLiteral a.key enumeration = .ok t →
    ofType (.number a enumeration) derived [] (withNull a t)
  /-- A text. -/
  string : ∀ {a enumeration derived t},
    primitiveType "string" isStringLiteral a.key enumeration = .ok t →
    ofType (.string a enumeration) derived [] (withNull a t)
  /-- No properties. -/
  nil : ofFields [] [] []
  /-- A property that is ignored, before others. -/
  hidden : ∀ {property rest key items fields}, property.key? = .ok key →
    Ignored.hides ignored key = .ok true → ofFields rest items fields →
    ofFields (property :: rest) items fields
  /-- A property that is not ignored, before others. -/
  shown : ∀ {property rest key before type after tail}, property.key? = .ok key →
    Ignored.hides ignored key = .ok false → ofType property .null before type →
    ofFields rest after tail →
    ofFields (property :: rest) (before ++ after) (fieldOf property key type :: tail)

namespace SuccessCases

variable {ofType : Shape → Value → List Decl → TypeExpr → Prop}
  {ofFields : List Shape → List Decl → List Field → Prop}

/-- The statement about fields follows from the one about the types of all properties. -/
theorem fields_of_types (hc : SuccessCases ignored ofType ofFields) {properties : List Shape}
    (h : ∀ p ∈ properties, ∀ derived items t,
      declareType ignored p derived = ⟨items, .ok t⟩ → ofType p derived items t) :
    ∀ items fields, declareFields ignored properties = ⟨items, .ok fields⟩ →
      ofFields properties items fields := by
  induction properties with
  | nil =>
      intro items fields hfields
      cases hfields
      exact hc.nil
  | cons p rest ih =>
      intro items fields hfields
      have hrest := ih fun q hq => h q (List.mem_cons_of_mem p hq)
      obtain ⟨key, hidden, hkey, hhidden, hcase⟩ := declareFields_cons_eq_ok.mp hfields
      rcases hcase with ⟨rfl, htail⟩ | ⟨before, type, after, tail, rfl, htype, htail, rfl, rfl⟩
      · exact hc.hidden hkey hhidden (hrest items fields htail)
      · exact hc.shown hkey hhidden (h p List.mem_cons_self _ _ _ htype) (hrest _ _ htail)

/-- The statement about types holds of every type that is computed. -/
theorem type (hc : SuccessCases ignored ofType ofFields) (shape : Shape) :
    ∀ derived items t, declareType ignored shape derived = ⟨items, .ok t⟩ →
      ofType shape derived items t := by
  induction shape with
  | object a properties ih =>
      intro derived items t h
      obtain ⟨before, fields, name, hfields, hname, rfl, rfl⟩ := declareType_object_eq_ok.mp h
      exact hc.object (hc.fields_of_types ih _ _ hfields) hname
  | array a elements ih =>
      intro derived items t h
      obtain ⟨name, element, -, hname, helement, rfl⟩ := declareType_array_eq_ok.mp h
      exact hc.array hname (ih _ _ _ helement)
  | boolean a =>
      intro derived items t h
      obtain ⟨rfl, rfl⟩ := declareType_boolean_eq_ok.mp h
      exact hc.boolean
  | number a enumeration =>
      intro derived items t h
      rw [declareType] at h
      obtain ⟨rfl, type, htype, rfl⟩ := primitive_eq_ok.mp h
      exact hc.number htype
  | string a enumeration =>
      intro derived items t h
      rw [declareType] at h
      obtain ⟨rfl, type, htype, rfl⟩ := primitive_eq_ok.mp h
      exact hc.string htype
  | untyped a => exact fun _ _ _ h => absurd h Traced.fail_ne_ok
  | foreign value => exact fun _ _ _ h => absurd h Traced.fail_ne_ok

/-- The statement about fields holds of all fields that are computed. -/
theorem fields (hc : SuccessCases ignored ofType ofFields) {properties : List Shape}
    {items : List Decl} {fields : List Field}
    (h : declareFields ignored properties = ⟨items, .ok fields⟩) :
    ofFields properties items fields :=
  hc.fields_of_types (fun p _ => hc.type p) items fields h

end SuccessCases

/-! ## Objects and schemas -/

/-- The declaration of an object follows what its properties put out. -/
theorem declareObject_eq_ok {shape : Shape} :
    declareObject ignored shape derived = ⟨items, .ok t⟩ ↔
      ∃ a properties before fields name, shape = object a properties ∧
        declareFields ignored properties = ⟨before, .ok fields⟩ ∧
        objectName a derived = .ok name ∧ items = before ++ [Decl.record name fields] ∧
        t = .reference name := by
  constructor
  · intro h
    unfold declareObject at h
    split at h
    · rename_i a properties
      obtain ⟨before, fields, last, hfields, hrecord, rfl⟩ := Traced.bind_eq_ok.mp h
      obtain ⟨name, hname, rfl, rfl⟩ := declareRecord_eq_ok.mp hrecord
      exact ⟨a, properties, before, fields, name, rfl, hfields, hname, rfl, rfl⟩
    · exact absurd h Traced.fail_ne_ok
  · rintro ⟨a, properties, before, fields, name, rfl, hfields, hname, rfl, rfl⟩
    refine Traced.bind_eq_ok.mpr ⟨before, fields, _, hfields, ?_, rfl⟩
    exact declareRecord_eq_ok.mpr ⟨name, hname, rfl, rfl⟩

/-- A named array of objects declares its element and then an alias for the array. -/
theorem declareRootArray_eq_ok {elements : Shape} :
    declareRootArray ignored a elements = ⟨items, .ok t⟩ ↔
      ∃ name before element, a.name.truthy = true ∧ elementNameOf a.name = .ok name ∧
        declareObject ignored elements (.string name) = ⟨before, .ok element⟩ ∧
        items = before ++ [Decl.synonym a.name (.array [element])] ∧ t = .reference a.name := by
  constructor
  · intro h
    unfold declareRootArray at h
    split at h
    · rename_i hname
      split at h
      · obtain ⟨name, hderived, hrest⟩ := Traced.ofExcept_bind_eq_ok.mp h
        obtain ⟨before, element, last, helement, hlast, rfl⟩ := Traced.bind_eq_ok.mp hrest
        cases hlast
        exact ⟨name, before, element, hname, hderived, helement, rfl, rfl⟩
      · exact absurd h Traced.fail_ne_ok
    · exact absurd h Traced.fail_ne_ok
  · rintro ⟨name, before, element, hname, hderived, helement, rfl, rfl⟩
    obtain ⟨b, properties, -, -, -, rfl, -⟩ := declareObject_eq_ok.mp helement
    unfold declareRootArray
    rw [if_pos hname]
    refine Traced.ofExcept_bind_eq_ok.mpr ⟨name, hderived, ?_⟩
    exact Traced.bind_eq_ok.mpr ⟨before, element, _, helement, rfl, rfl⟩

/-- A schema that is declared is an object or a named array of objects. -/
theorem declareRoot_eq_ok {shape : Shape} (h : declareRoot ignored shape = ⟨items, .ok t⟩) :
    declareObject ignored shape .null = ⟨items, .ok t⟩ ∨
      ∃ a elements, shape = array a elements ∧
        declareRootArray ignored a elements = ⟨items, .ok t⟩ := by
  unfold declareRoot at h
  split at h
  · exact Or.inl h
  · rename_i a elements
    exact Or.inr ⟨a, elements, rfl, h⟩
  · exact absurd h Traced.fail_ne_ok

/-- The answer for a schema refers to the declaration that was put out last. -/
theorem exists_last_of_declareRoot {shape : Shape}
    (h : declareRoot ignored shape = ⟨items, .ok t⟩) :
    ∃ before root, items = before ++ [root] ∧ t = .reference root.name := by
  rcases declareRoot_eq_ok h with hobject | ⟨a, elements, rfl, harray⟩
  · obtain ⟨a, properties, before, fields, name, -, -, -, rfl, rfl⟩ :=
      declareObject_eq_ok.mp hobject
    exact ⟨before, Decl.record name fields, rfl, rfl⟩
  · obtain ⟨name, before, element, -, -, -, rfl, rfl⟩ := declareRootArray_eq_ok.mp harray
    exact ⟨before, Decl.synonym a.name (.array [element]), rfl, rfl⟩

end Shape

end ShapeTypes
