import ShapeTypes.Proofs.Generator.Closed

/-!
# Arrays as roots

The root of a schema may be a named array of objects. It is declared as an alias for an array of the
record of its items.

* `Shape.elementName`: the name of that record: the explicit one of the items, else one derived from
  the name of the array.
* `Generator.KeepsElement`: the alias stands first, and the record that it is an array of is
  declared with the fields of the items.
* `Generator.keepsElement_iff`: **the record of the items is kept if and only if its name is not the
  one of the array**; `Generator.not_keepsElement_users`: under one explicit name for both the alias
  is left as an array of itself, and the fields of the items are lost.
-/

namespace ShapeTypes

/-- The name of the record of an array's items. -/
def Shape.elementName (a : Attributes) : Shape → Except Failure Value
  | .object b _ => do
    let derived ← elementNameOf a.name
    objectName b (.string derived)
  | _ => .error .noSuchPart

/-- An array that is declared puts out the record of its items, and after it the alias. -/
theorem Shape.exists_record_of_array {ignored : Ignored} {a : Attributes} {items : Shape}
    {emitted : List Decl} {root : TypeExpr}
    (h : declareRoot ignored (.array a items) = ⟨emitted, .ok root⟩) :
    ∃ b properties before fields element, items = .object b properties ∧
      declareFields ignored properties = ⟨before, .ok fields⟩ ∧
      elementName a items = .ok element ∧
      emitted = before ++ [Decl.record element fields,
        Decl.synonym a.name (.array [.reference element])] := by
  obtain ⟨derived, before, element, -, hderived, helement, rfl, -⟩ := declareRootArray_eq_ok.mp h
  obtain ⟨b, properties, before, fields, name, rfl, hfields, hname, rfl, rfl⟩ :=
    declareObject_eq_ok.mp helement
  refine ⟨b, properties, before, fields, name, rfl, hfields, ?_, by simp⟩
  rw [elementName, hderived]
  exact hname

namespace Generator

/-- The structure of the items is kept: the first declaration is an alias for an array of a
reference, and the record with the name referred to and with the fields of the items is declared. -/
def KeepsElement (ignored : Ignored) (items : Shape) (decls : List Decl) : Prop :=
  ∃ b properties before fields name element rest, items = .object b properties ∧
    Shape.declareFields ignored properties = ⟨before, .ok fields⟩ ∧
    decls = Decl.synonym name (.array [.reference element]) :: rest ∧
    Decl.record element fields ∈ decls

variable {generator : Generator} {a : Attributes} {items : Shape} {decls : List Decl}

/-- The declarations for an array start with the alias, and the record of the items is among them
unless it has the name of the array. -/
theorem exists_record_of_declarations (hroot : generator.root = .ok (.array a items))
    (h : generator.declarations.result = .ok decls) :
    ∃ b properties before fields element rest, items = .object b properties ∧
      Shape.declareFields generator.config.ignoreFields properties = ⟨before, .ok fields⟩ ∧
      Shape.elementName a items = .ok element ∧
      decls = Decl.synonym a.name (.array [.reference element]) :: rest ∧
      (element ≠ a.name → Decl.record element fields ∈ decls) := by
  obtain ⟨shape, emitted, root, kept, dropped, hshape, hdeclare, hunique, hdecls⟩ :=
    declarations_eq_ok.mp h
  cases Except.ok.inj (hroot.symm.trans hshape)
  obtain ⟨b, properties, before, fields, element, hitems, hfields, helement, rfl⟩ :=
    Shape.exists_record_of_array hdeclare
  have hlast : decls.head? = some (Decl.synonym a.name (.array [.reference element])) := by
    rw [hdecls, List.head?_reverse, (Decl.kept_of_unique hunique).last]
    simp
  refine ⟨b, properties, before, fields, element, decls.tail, hitems, hfields, helement,
    (List.cons_head?_tail hlast).symm, fun hne => ?_⟩
  rw [hdecls, List.mem_reverse]
  refine Decl.mem_kept_of_last hunique (List.forall_mem_singleton.mpr fun hsame => hne ?_)
  -- what is put out has identities, so that the record and the alias are named by texts
  obtain ⟨key, hkey⟩ := (Decl.kept_of_unique hunique).identified (Decl.record element fields)
    (by simp)
  have hrecord := (Decl.identity?_eq_ok rfl).mp hkey
  have halias := (Decl.identity?_eq_ok rfl).mp (hsame.trans hkey)
  exact hrecord.trans halias.symm

/-- **The structure of the items of an array is kept if and only if its name differs from the one
of the array.** -/
theorem keepsElement_iff (hroot : generator.root = .ok (.array a items))
    (h : generator.declarations.result = .ok decls) :
    ∃ element, Shape.elementName a items = .ok element ∧
      (KeepsElement generator.config.ignoreFields items decls ↔ element ≠ a.name) := by
  obtain ⟨b, properties, before, fields, element, rest, hitems, hfields, helement, hdecls,
    hrecord⟩ := exists_record_of_declarations hroot h
  refine ⟨element, helement, fun hkeeps hsame => ?_, fun hne => ?_⟩
  · obtain ⟨-, -, -, fields', name', element', rest', -, -, hdecls', hrecord'⟩ := hkeeps
    rw [hdecls] at hdecls' hrecord'
    cases hdecls'
    -- the record is not the alias, so it would be a second declaration of its name
    have hmem : Decl.record element fields' ∈ rest := by
      rcases List.mem_cons.mp hrecord' with heq | hrest
      · cases congrArg Decl.body heq
      · exact hrest
    have hnodup := nodup_names_of_declarations h
    rw [hdecls, List.map_cons, List.nodup_cons] at hnodup
    have hname : element ∈ rest.map Decl.name := List.mem_map_of_mem hmem
    exact hnodup.1 (hsame ▸ hname)
  · exact ⟨b, properties, before, fields, a.name, element, rest, hitems, hfields, hdecls,
      hrecord hne⟩

/-- The items of the accounts, which hold another object that gets their name. -/
def accountItems : Shape :=
  .object {} [.object { key := .string "account" } [], .string { key := .string "id" } .null]

/-- Accounts, whose name is given by the run. -/
def accounts : Generator where
  schema := .shape (.array {} accountItems)
  config := {}
  name := .string "Accounts"

/-- The declarations of the accounts. -/
def accountDecls : List Decl :=
  [.synonym (.string "Accounts") (.array [.reference (.string "Account")]),
    .record (.string "Account")
      [⟨.string "account", .reference (.string "Account"), .bool false⟩,
        ⟨.string "id", .keyword (.string "string"), .bool false⟩]]

/-- The structure of the accounts is kept, and the object inside them is dropped. -/
theorem keepsElement_accounts : accounts.declarations.result = .ok accountDecls ∧
    KeepsElement accounts.config.ignoreFields accountItems accountDecls := by
  have hroot : accounts.root = .ok (.array { name := .string "Accounts" } accountItems) := rfl
  have hdecls : accounts.declarations.result = .ok accountDecls := rfl
  obtain ⟨element, helement, hkeeps⟩ := keepsElement_iff hroot hdecls
  have hname : Value.string "Account" = element := Except.ok.inj helement
  refine ⟨hdecls, hkeeps.mpr ?_⟩
  rw [← hname]
  exact fun hsame => absurd (Value.string.inj hsame) (by decide)

/-- Users whose elements have the same explicit name as the root. -/
def users : Generator where
  schema := .shape (.array { name := .string "User" }
    (.object { name := .string "User" } [.string { key := .string "id" } .null]))
  config := {}
  name := .null

/-- The structure of the users is lost: the only declaration is an array of itself. -/
theorem not_keepsElement_users : ∃ a items decls, users.root = .ok (.array a items) ∧
    users.declarations.result = .ok decls ∧
    ¬ KeepsElement users.config.ignoreFields items decls := by
  refine ⟨_, _, [Decl.synonym (.string "User") (.array [.reference (.string "User")])], rfl, rfl,
    ?_⟩
  rintro ⟨b, properties, before, fields, name, element, rest, -, -, hdecls, hrecord⟩
  cases congrArg Decl.body (List.mem_singleton.mp hrecord)

end Generator

end ShapeTypes
