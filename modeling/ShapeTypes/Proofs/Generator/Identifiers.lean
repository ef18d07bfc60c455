import ShapeTypes.Proofs.Generator.Checked
import ShapeTypes.Proofs.Name.Identifier
import ShapeTypes.Proofs.Shape.PostOrder

/-!
# Names of declarations that are identifiers

Source text declares and refers to what the declarations are named, as it stands. So the names have
to be identifiers; a name that is derived from a key need not be one.

* `Value.IsIdentifier`: the value is a text that is an identifier.
* `Shape.anonymousOrigins`: the origins of the objects that are reached and have no explicit name.
  `Shape.name_cases_of_mem_postOrder`: the names of the declarations are explicit ones, or derived
  from such an origin.
* `Generator.isIdentifier_names_iff`: **the names in a document are identifiers if and only if the
  names derived from these origins are**, and they are if the keys there are identifiers.
  `Generator.not_isIdentifier_customer`: a key with a hyphen gives the name of a declaration.
-/

namespace ShapeTypes

/-- The value is a text that is an identifier. -/
def Value.IsIdentifier (v : Value) : Prop := ∃ s, v = .string s ∧ isIdentifier s = true

/-- A text is an identifier as a value if it is one. -/
theorem Value.isIdentifier_string {s : String} :
    (Value.string s).IsIdentifier ↔ isIdentifier s = true := by
  simp [IsIdentifier]

instance : DecidablePred Value.IsIdentifier
  | .string _ => decidable_of_iff _ Value.isIdentifier_string.symm
  | .null | .bool _ | .int _ | .double _ | .list _ | .object _ => .isFalse nofun

namespace Shape

/-- Every explicit name in the tree is an identifier. -/
def HasIdentifierNames (shape : Shape) : Prop :=
  ∀ node ∈ shape.nodes, ∀ a ∈ node.attributes?, a.name.truthy = true → a.name.IsIdentifier

instance (shape : Shape) : Decidable shape.HasIdentifierNames :=
  inferInstanceAs (Decidable (∀ node ∈ shape.nodes, ∀ a ∈ node.attributes?,
    a.name.truthy = true → a.name.IsIdentifier))

/-- The origin of a node that is an object without an explicit name. -/
def anonymousOrigin : Shape × Origin → Option Origin
  | (object a _, origin) => if a.name.truthy then none else some origin
  | _ => none

/-- The origins of the objects that are reached and have no explicit name. -/
def anonymousOrigins (ignored : Ignored) (shape : Shape) : List Origin :=
  (rootVisits ignored shape).filterMap anonymousOrigin

/-! ## Names in post-order -/

/-- The name of a declaration of a schema is an explicit name of a node, or it is derived from the
origin of an object without one. -/
theorem name_cases_of_mem_postOrder {ignored : Ignored} {shape : Shape} {decl : Decl}
    (h : decl ∈ postOrder ignored shape) (hname : decl.name.truthy = true) :
    (∃ node ∈ shape.nodes, ∃ a ∈ node.attributes?, a.name.truthy = true ∧ decl.name = a.name) ∨
      ∃ origin ∈ anonymousOrigins ignored shape,
        decl.name = .string (Name.capitalized origin.derived) := by
  rcases List.mem_append.mp h with hrecord | halias
  · obtain ⟨visit, hvisit, hdecl⟩ := List.mem_filterMap.mp hrecord
    unfold recordAt at hdecl
    split at hdecl
    · rename_i a properties origin
      cases hdecl
      by_cases hexplicit : a.name.truthy = true
      · left
        refine ⟨object a properties, mem_nodes_of_mem_rootVisits hvisit, a, rfl, hexplicit, ?_⟩
        simp [Decl.record, nameAt, hexplicit]
      · right
        refine ⟨origin, List.mem_filterMap.mpr ⟨_, hvisit, ?_⟩, ?_⟩
        · simp [anonymousOrigin, hexplicit]
        · simp [Decl.record, nameAt, hexplicit]
    · contradiction
  · left
    unfold rootAlias at halias
    split at halias
    · rename_i a b properties
      rw [List.mem_singleton] at halias
      subst halias
      exact ⟨_, self_mem_nodes _, a, rfl, hname, rfl⟩
    · exact absurd halias List.not_mem_nil

/-- The name that is derived from an origin is the name of a declaration. -/
theorem mem_names_of_mem_anonymousOrigins {ignored : Ignored} {shape : Shape} {origin : Origin}
    (h : origin ∈ anonymousOrigins ignored shape) :
    Value.string (Name.capitalized origin.derived) ∈
      (postOrder ignored shape).map Decl.name := by
  obtain ⟨visit, hvisit, horigin⟩ := List.mem_filterMap.mp h
  unfold anonymousOrigin at horigin
  split at horigin
  · rename_i a properties origin'
    split at horigin
    · contradiction
    · rename_i hanonymous
      cases horigin
      refine List.mem_map.mpr ⟨_, List.mem_append_left _
        (List.mem_filterMap.mpr ⟨_, hvisit, rfl⟩), ?_⟩
      simp [Decl.record, nameAt, hanonymous]
  · contradiction

/-- What is derived from an identifier and is not empty is an identifier. -/
theorem isIdentifier_of_origin {origin : Origin} (hword : isIdentifier origin.word = true)
    (hne : Name.capitalized origin.derived ≠ "") :
    isIdentifier (Name.capitalized origin.derived) = true := by
  have hstem : IsStem origin.word.toList := (isIdentifierChars_iff.mp hword).2
  have hderived := Name.isStem_iterate_elementName hstem origin.arrays
  refine isIdentifierChars_iff.mpr ⟨?_, Name.isStem_capitalized hderived⟩
  rwa [ne_eq, String.toList_eq_nil_iff]

end Shape

namespace Generator

variable {generator : Generator} {shape : Shape} {decls : List Decl} {document : Document}

/-- The names of the declarations are those that are read off the schema. -/
theorem mem_names_of_declarations (hroot : generator.root = .ok shape)
    (h : generator.declarations.result = .ok decls) {name : Value} :
    name ∈ decls.map Decl.name ↔
      name ∈ (Shape.postOrder generator.config.ignoreFields shape).map Decl.name := by
  obtain ⟨shape', emitted, root, kept, hshape, hdeclare, hcompiled, -, hkept, rfl⟩ := exists_kept h
  cases Except.ok.inj (hroot.symm.trans hshape)
  rw [← Shape.declareRoot_eq_postOrder hdeclare, List.map_reverse, List.mem_reverse]
  exact hkept.mem_names fun decl hdecl => (hcompiled decl hdecl).parameters

/-- The parts of a document are its declarations with their source texts. -/
theorem exists_parts_of_document (h : generator.document.result = .ok document) :
    ∃ decls, generator.declarations.result = .ok decls ∧ document.parts.map Prod.fst = decls := by
  obtain ⟨decls, sources, hdecls, hsources, rfl⟩ := document_eq_ok h
  have hlength := (declSources_eq_ok.mp hsources).length_eq
  exact ⟨decls, hdecls, List.map_fst_zip (Nat.le_of_eq hlength)⟩

/-- Under explicit names that are identifiers, the name of a declaration of a document is an
identifier, or it is derived from the origin of an object without an explicit name. -/
theorem isIdentifier_or_exists_origin (hroot : generator.root = .ok shape)
    (hnames : shape.HasIdentifierNames) (h : generator.declarations.result = .ok decls)
    {decl : Decl} (hdecl : decl ∈ decls) :
    decl.name.IsIdentifier ∨
      ∃ origin ∈ shape.anonymousOrigins generator.config.ignoreFields,
        Name.capitalized origin.derived ≠ "" ∧
          decl.name = .string (Name.capitalized origin.derived) := by
  obtain ⟨s, hs, hname⟩ := exists_name_of_declarations h decl hdecl
  have hmem := (mem_names_of_declarations hroot h).mp (List.mem_map_of_mem hdecl)
  obtain ⟨emitted, hemitted, heq⟩ := List.mem_map.mp hmem
  have htruthy : emitted.name.truthy = true := by
    rw [heq, hname, Value.truthy_string]
    exact hs
  rcases Shape.name_cases_of_mem_postOrder hemitted htruthy with
    ⟨node, hnode, a, ha, hexplicit, hisName⟩ | ⟨origin, horigin, hderived⟩
  · left
    rw [← heq, hisName]
    exact hnames node hnode a ha hexplicit
  · right
    rw [heq, hname] at hderived
    refine ⟨origin, horigin, ?_, hname.trans hderived⟩
    rwa [← Value.string.inj hderived]

/-- **The names in a document are identifiers if and only if the names derived for the objects
without an explicit one are.** They are identifiers if what these objects are named after is, and
then everything that is referred to is an identifier too. -/
theorem isIdentifier_names_iff (hroot : generator.root = .ok shape)
    (hnames : shape.HasIdentifierNames) (h : generator.document.result = .ok document) :
    ((∀ part ∈ document.parts, part.1.name.IsIdentifier) ↔
      ∀ origin ∈ shape.anonymousOrigins generator.config.ignoreFields,
        isIdentifier (Name.capitalized origin.derived) = true) ∧
    ((∀ origin ∈ shape.anonymousOrigins generator.config.ignoreFields,
        isIdentifier origin.word = true) →
      ∀ part ∈ document.parts, part.1.name.IsIdentifier ∧
        ∀ reference ∈ part.1.references, reference.IsIdentifier) := by
  obtain ⟨decls, hdecls, hparts⟩ := exists_parts_of_document h
  have hmem : ∀ {decl : Decl}, decl ∈ decls ↔ ∃ part ∈ document.parts, part.1 = decl := by
    intro decl
    rw [← hparts, List.mem_map]
  constructor
  · constructor
    · intro hparts origin horigin
      have hname := Shape.mem_names_of_mem_anonymousOrigins horigin
      obtain ⟨decl, hdecl, hderived⟩ :=
        List.mem_map.mp ((mem_names_of_declarations hroot hdecls).mpr hname)
      obtain ⟨part, hpart, rfl⟩ := hmem.mp hdecl
      rw [← Value.isIdentifier_string, ← hderived]
      exact hparts part hpart
    · intro horigins part hpart
      rcases isIdentifier_or_exists_origin hroot hnames hdecls (hmem.mpr ⟨part, hpart, rfl⟩) with
        hexplicit | ⟨origin, horigin, -, hderived⟩
      · exact hexplicit
      · exact ⟨_, hderived, horigins origin horigin⟩
  · intro hwords
    have hall : ∀ decl ∈ decls, decl.name.IsIdentifier := by
      intro decl hdecl
      rcases isIdentifier_or_exists_origin hroot hnames hdecls hdecl with
        hexplicit | ⟨origin, horigin, hne, hderived⟩
      · exact hexplicit
      · exact ⟨_, hderived, Shape.isIdentifier_of_origin (hwords origin horigin) hne⟩
    intro part hpart
    have hdecl := hmem.mpr ⟨part, hpart, rfl⟩
    refine ⟨hall part.1 hdecl, fun reference hreference => ?_⟩
    -- what is referred to is the name of a declaration
    have hname := closed_of_declarations hdecls part.1 hdecl reference hreference
    obtain ⟨decl, hdecl, rfl⟩ := List.mem_map.mp hname
    exact hall decl hdecl

/-- The shape of a shop: orders, whose recipient is named after a key, and an address whose key is
no identifier and that has an explicit name. -/
def shopShape : Shape :=
  .object { name := .string "Shop" }
    [.array { key := .string "orders" } (.array {}
        (.object {} [.object { key := .string "recipient" } []])),
      .object { key := .string "home-address", name := .string "Home" } []]

/-- The shop. -/
def shop : Generator where
  schema := .shape shopShape
  config := {}
  name := .null

/-- The declarations of the shop. -/
def shopDecls : List Decl :=
  [.record (.string "Shop")
      [⟨.string "orders", .array [.array [.reference (.string "OrderItem")]], .bool false⟩,
        ⟨.string "home-address", .reference (.string "Home"), .bool false⟩],
    .record (.string "Home") [],
    .record (.string "OrderItem")
      [⟨.string "recipient", .reference (.string "Recipient"), .bool false⟩],
    .record (.string "Recipient") []]

/-- The sources of these. -/
def shopSources : List String :=
  ["export interface Shop \x7b\n    orders: OrderItem[][];\n    \"home-address\": Home;\n\x7d",
    "export interface Home \x7b\n\x7d",
    "export interface OrderItem \x7b\n    recipient: Recipient;\n\x7d",
    "export interface Recipient \x7b\n\x7d"]

/-- The document of the shop. -/
def shopDocument : Document where
  text := "\n\n".intercalate shopSources
  parts := shopDecls.zip shopSources

/-- What is declared and referred to in the document of the shop is named by identifiers. -/
theorem isIdentifier_names_shop : shop.root = .ok shopShape ∧ shopShape.HasIdentifierNames ∧
    shop.document.result = .ok shopDocument ∧ ∀ part ∈ shopDocument.parts,
      part.1.name.IsIdentifier ∧ ∀ reference ∈ part.1.references, reference.IsIdentifier := by
  have hroot : shop.root = .ok shopShape := rfl
  have hnames : shopShape.HasIdentifierNames := by decide
  have hwords : ∀ origin ∈ shopShape.anonymousOrigins shop.config.ignoreFields,
      isIdentifier origin.word = true := by decide
  have hdocument : shop.document.result = .ok shopDocument := by rfl
  exact ⟨hroot, hnames, hdocument, (isIdentifier_names_iff hroot hnames hdocument).2 hwords⟩

/-- The properties of a customer: an address whose key has a hyphen. -/
def customerProperties : List Shape := [.object { key := .string "home-address" } []]

/-- A customer. -/
def customer : Generator where
  schema := .shape (.object { name := .string "Customer" } customerProperties)
  config := {}
  name := .null

/-- The document of the customer. -/
def customerDocument : Document where
  text := "export interface Customer \x7b\n    \"home-address\": Home-address;\n\x7d\n\n" ++
    "export interface Home-address \x7b\n\x7d"
  parts :=
    [(.record (.string "Customer")
        [⟨.string "home-address", .reference (.string "Home-address"), .bool false⟩],
      "export interface Customer \x7b\n    \"home-address\": Home-address;\n\x7d"),
    (.record (.string "Home-address") [], "export interface Home-address \x7b\n\x7d")]

/-- The root of the customer is named by an identifier, and nothing else has an explicit name; but
the document declares and refers to an address whose name is no identifier. -/
theorem not_isIdentifier_customer :
    customer.root = .ok (.object { name := .string "Customer" } customerProperties) ∧
    (Value.string "Customer").IsIdentifier ∧
    (∀ property ∈ customerProperties, ∀ node ∈ property.nodes, ∀ a ∈ node.attributes?,
      a.name = .null ∧ ∃ s, s ≠ "" ∧ a.key = .string s) ∧
    customer.document.result = .ok customerDocument ∧
    ¬ (∀ part ∈ customerDocument.parts, part.1.name.IsIdentifier) ∧
    ¬ ∀ part ∈ customerDocument.parts, ∀ reference ∈ part.1.references,
        reference.IsIdentifier := by
  refine ⟨rfl, by decide, ?_, by rfl, by decide, by decide⟩
  intro property hproperty node hnode a ha
  rw [customerProperties, List.mem_singleton] at hproperty
  subst hproperty
  cases List.mem_singleton.mp hnode
  cases ha
  exact ⟨rfl, "home-address", by decide, rfl⟩

end Generator

end ShapeTypes
