import Mathlib.Logic.Function.Iterate
import ShapeTypes.Proofs.Form
import ShapeTypes.Proofs.Regular
import ShapeTypes.Proofs.Shape.Success
import ShapeTypes.Session

/-!
# The declarations of a schema in post-order

What a schema puts out is read off the schema here, without running anything: every object that is
reached gives one record, after the records of everything inside it.

* `Origin`: what an anonymous object is named after, the key of the property, or the name of the
  root array, that it belongs to, together with the number of arrays between the two.
* `Shape.nameAt`, `Shape.typeAt`, `Shape.shownFields`: the name of an object, the type of a shape
  and the fields of an object with a given origin.
* `Shape.visits`, `Shape.rootVisits`: the nodes that are reached, in post-order; `Shape.postOrder`:
  the records of the objects among them, and the alias of a root array (`Shape.rootAlias`) behind
  them.
* `Shape.postOrder_cases`: what succeeds puts out the records in post-order and answers the type
  that is read off the shape. It is an induction over what succeeds, with the origin as invariant.
* `Session.perform_start`: a step that declares a shape gives in any session what it gives in a
  session without declarations, and only adds to the declarations that are there.
* `Shape.emitted_eq_postOrder`: **the declarations of a schema are those of its objects in
  post-order**, whatever was declared before.
-/

namespace ShapeTypes

/-! ## Origins -/

/-- The text by which a label counts; a label that is not given counts as the empty text. -/
def Value.word (label : Value) : String :=
  match label.orEmpty with
  | .string s => s
  | _ => ""

@[simp] theorem Value.word_string (s : String) : (Value.string s).word = s := by
  simp [word]

@[simp] theorem Value.word_orEmpty (label : Value) : label.orEmpty.word = label.word := by
  by_cases h : label.truthy = true
  · simp [orEmpty, h]
  · simp [word, orEmpty, h]

/-- What an anonymous object is named after. -/
structure Origin where
  /-- The key of a property or the name of a root array. -/
  word : String
  /-- The number of arrays that stand between what has that label and the object. -/
  arrays : Nat

namespace Origin

/-- The origin of what is named after a label directly. -/
def ofLabel (label : Value) : Origin := ⟨label.word, 0⟩

/-- The origin of the items of an array. -/
def inArray (origin : Origin) : Origin := { origin with arrays := origin.arrays + 1 }

/-- The derived name: every array names its items after itself. -/
def derived (origin : Origin) : String := Name.elementName^[origin.arrays] origin.word

@[simp] theorem derived_ofLabel (label : Value) : (ofLabel label).derived = label.word := rfl

@[simp] theorem derived_inArray (origin : Origin) :
    origin.inArray.derived = Name.elementName origin.derived :=
  Function.iterate_succ_apply' Name.elementName origin.arrays origin.word

end Origin

namespace Shape

/-! ## The declarations that are read off a schema -/

/-- The name of an object: the explicit one if it is given, else the derived one, capitalised. -/
def nameAt (a : Attributes) (origin : Origin) : Value :=
  if a.name.truthy then a.name else .string (Name.capitalized origin.derived)

/-- The type of a primitive: the union of the literals of its enumeration, or its keyword. -/
def typeOfPrimitive (keyword : String) : Value → TypeExpr
  | .list (v :: rest) => .union ((v :: rest).map .literal)
  | _ => .keyword (.string keyword)

/-- The type of a shape. A shape without a variant has none. -/
def typeAt : Shape → Origin → TypeExpr
  | object a _, origin => withNull a (.reference (nameAt a origin))
  | array a items, origin => withNull a (.array [typeAt items origin.inArray])
  | boolean a, _ => withNull a (.keyword (.string "boolean"))
  | number a enumeration, _ => withNull a (typeOfPrimitive "number" enumeration)
  | string a enumeration, _ => withNull a (typeOfPrimitive "string" enumeration)
  | untyped _, _ => .missing
  | foreign _, _ => .missing

/-- The properties that are not ignored. -/
def shown (ignored : Ignored) (properties : List Shape) : List Shape :=
  properties.filter fun property => !property.isIgnored ignored

/-- The fields of the properties that are not ignored, in order. -/
def shownFields (ignored : Ignored) (properties : List Shape) : List Field :=
  (shown ignored properties).map fun property =>
    ⟨property.key.orEmpty, property.typeAt (.ofLabel property.key), property.optional⟩

mutual

/-- The nodes of a shape that are reached without passing through an ignored property, each with its
origin: the nodes inside a node stand before it, in order. -/
def visits (ignored : Ignored) : Shape → Origin → List (Shape × Origin)
  | object a properties, origin =>
    visitsOf ignored properties ++ [(object a properties, origin)]
  | array a items, origin => visits ignored items origin.inArray ++ [(array a items, origin)]
  | other, origin => [(other, origin)]

/-- The nodes of several properties that are reached. -/
def visitsOf (ignored : Ignored) : List Shape → List (Shape × Origin)
  | [] => []
  | property :: rest =>
    if property.isIgnored ignored then visitsOf ignored rest
    else visits ignored property (.ofLabel property.key) ++ visitsOf ignored rest

end

/-- The record of a node, if it is an object. -/
def recordAt (ignored : Ignored) : Shape × Origin → Option Decl
  | (object a properties, origin) =>
    some (Decl.record (nameAt a origin) (shownFields ignored properties))
  | _ => none

/-- The records of the objects that are reached from a shape, in post-order. -/
def records (ignored : Ignored) (shape : Shape) (origin : Origin) : List Decl :=
  (visits ignored shape origin).filterMap (recordAt ignored)

/-- The nodes of a whole schema that are reached. The items of a root array are named after it. -/
def rootVisits (ignored : Ignored) : Shape → List (Shape × Origin)
  | array a items => visits ignored items (Origin.ofLabel a.name).inArray
  | other => visits ignored other (.ofLabel other.key)

/-- The alias of a root array of objects. -/
def rootAlias : Shape → List Decl
  | array a (object b _) =>
    [Decl.synonym a.name (.array [.reference (nameAt b (Origin.ofLabel a.name).inArray)])]
  | _ => []

/-- The declarations of a whole schema: the records of its objects in post-order, and the alias of a
root array behind them. -/
def postOrder (ignored : Ignored) (shape : Shape) : List Decl :=
  (rootVisits ignored shape).filterMap (recordAt ignored) ++ rootAlias shape

/-- The records of several properties. -/
theorem records_visitsOf (ignored : Ignored) (properties : List Shape) :
    (visitsOf ignored properties).filterMap (recordAt ignored) =
      (shown ignored properties).flatMap fun property =>
        records ignored property (.ofLabel property.key) := by
  induction properties with
  | nil => rfl
  | cons property rest ih =>
      rw [visitsOf, shown, List.filter_cons]
      by_cases hignored : property.isIgnored ignored = true
      · rw [if_pos hignored, hignored]
        exact ih
      · rw [Bool.not_eq_true] at hignored
        simp only [hignored, Bool.false_eq_true, if_false, Bool.not_false, if_true,
          List.filterMap_append, List.flatMap_cons, ih]
        rfl

@[simp] theorem records_object (ignored : Ignored) (a : Attributes) (properties : List Shape)
    (origin : Origin) : records ignored (object a properties) origin =
      ((shown ignored properties).flatMap fun property =>
        records ignored property (.ofLabel property.key)) ++
          [Decl.record (nameAt a origin) (shownFields ignored properties)] := by
  rw [records, visits, List.filterMap_append, records_visitsOf]
  rfl

@[simp] theorem records_array (ignored : Ignored) (a : Attributes) (items : Shape)
    (origin : Origin) :
    records ignored (array a items) origin = records ignored items origin.inArray := by
  rw [records, visits, List.filterMap_append]
  simp [recordAt, records]

/-! ## Nodes that are reached -/

/-- A node that is reached is a node of the shape. -/
theorem mem_nodes_of_mem_visits {ignored : Ignored} {shape : Shape} {visit : Shape × Origin} :
    ∀ {origin}, visit ∈ visits ignored shape origin → visit.1 ∈ shape.nodes := by
  induction shape with
  | object a properties ih =>
      intro origin hvisit
      rw [visits, List.mem_append, List.mem_singleton] at hvisit
      rw [mem_nodes_object]
      rcases hvisit with hinside | rfl
      · right
        induction properties with
        | nil => simp [visitsOf] at hinside
        | cons property rest ihrest =>
            have hrest := ihrest fun p hp => ih p (List.mem_cons_of_mem property hp)
            rw [visitsOf] at hinside
            split at hinside
            · obtain ⟨p, hp, hnode⟩ := hrest hinside
              exact ⟨p, List.mem_cons_of_mem property hp, hnode⟩
            · rcases List.mem_append.mp hinside with hfirst | hothers
              · exact ⟨property, List.mem_cons_self, ih property List.mem_cons_self hfirst⟩
              · obtain ⟨p, hp, hnode⟩ := hrest hothers
                exact ⟨p, List.mem_cons_of_mem property hp, hnode⟩
      · exact Or.inl rfl
  | array a items ih =>
      intro origin hvisit
      rw [visits, List.mem_append, List.mem_singleton] at hvisit
      rw [mem_nodes_array]
      rcases hvisit with hinside | rfl
      · exact Or.inr (ih hinside)
      · exact Or.inl rfl
  | _ =>
      intro origin hvisit
      simp only [visits, List.mem_singleton] at hvisit
      rw [hvisit]
      exact self_mem_nodes _

/-- A node of a schema that is reached is a node of the schema. -/
theorem mem_nodes_of_mem_rootVisits {ignored : Ignored} {shape : Shape} {visit : Shape × Origin}
    (h : visit ∈ rootVisits ignored shape) : visit.1 ∈ shape.nodes := by
  unfold rootVisits at h
  split at h
  · exact mem_nodes_array.mpr (Or.inr (mem_nodes_of_mem_visits h))
  · exact mem_nodes_of_mem_visits h

/-! ## Names -/

/-- A name that is capitalised is a text. -/
theorem capitalizedValue_eq_ok {label : Value} {name : String}
    (h : capitalizedValue label = .ok name) : name = Name.capitalized label.word := by
  unfold capitalizedValue at h
  split at h
  · simpa using h.symm
  · contradiction
  · contradiction

/-- The name of an element is derived from a text, or from a label that is not given. -/
theorem elementNameOf_eq_ok {label : Value} {name : String} (h : elementNameOf label = .ok name) :
    name = Name.elementName label.word := by
  unfold elementNameOf at h
  split at h
  · simpa using h.symm
  · split at h
    · contradiction
    · rename_i hfalsy
      have hword : label.word = "" := by simp [Value.word, Value.orEmpty, hfalsy]
      rw [hword]
      exact (Except.ok.inj h).symm

/-- The origin says what a shape is named after, given the name that is handed down, or null. -/
def Explains (origin : Origin) (shape : Shape) (derived : Value) : Prop :=
  (derived = .null ∧ origin = .ofLabel shape.key) ∨ derived = .string origin.derived

/-- What a shape is named after is the derived name of its origin. -/
theorem Explains.word_sourceName {origin : Origin} {shape : Shape} {derived : Value}
    (h : Explains origin shape derived) {a : Attributes} (ha : shape.attributes? = some a) :
    (sourceName a derived).word = origin.derived := by
  rcases h with ⟨rfl, rfl⟩ | rfl
  · simp [sourceName, key, ha]
  · simp [sourceName]

/-- The name of an object is the one that is read off it. -/
theorem Explains.objectName_eq {origin : Origin} {a : Attributes} {properties : List Shape}
    {derived name : Value} (h : Explains origin (object a properties) derived)
    (hname : objectName a derived = .ok name) : name = nameAt a origin := by
  unfold objectName at hname
  unfold nameAt
  split at hname
  · rename_i htruthy
    rw [if_pos htruthy]
    exact (Except.ok.inj hname).symm
  · rename_i hfalsy
    rw [if_neg hfalsy]
    split at hname
    · contradiction
    · rename_i text htext
      rw [capitalizedValue_eq_ok htext, h.word_sourceName rfl] at hname
      split at hname
      · contradiction
      · exact (Except.ok.inj hname).symm

/-- The items of an array are handed down the derived name of their origin. -/
theorem Explains.inArray {origin : Origin} {a : Attributes} {items : Shape} {derived : Value}
    {name : String} (h : Explains origin (array a items) derived)
    (hname : elementNameOf (sourceName a derived) = .ok name) (shape : Shape) :
    Explains origin.inArray shape (.string name) := by
  right
  rw [elementNameOf_eq_ok hname, h.word_sourceName rfl, Origin.derived_inArray]

/-! ## Post-order -/

/-- The type of a primitive is the one that is read off it. -/
theorem primitiveType_eq_typeOfPrimitive {variant : String} {test : Value → Except Failure Bool}
    {key enumeration : Value} {t : TypeExpr}
    (h : primitiveType variant test key enumeration = .ok t) :
    t = typeOfPrimitive variant enumeration := by
  rcases primitiveType_eq_ok h with ⟨rfl, hne⟩ | ⟨values, hne, rfl, -, rfl⟩
  · unfold typeOfPrimitive
    split
    · exact absurd rfl (hne _ _)
    · rfl
  · cases values with
    | nil => exact absurd rfl hne
    | cons v rest => rfl

/-- What succeeds puts out the records in post-order, and answers the type, or the fields, that are
read off the shape. -/
theorem postOrder_cases (ignored : Ignored) : SuccessCases ignored
    (fun shape derived items t => ∀ origin, Explains origin shape derived →
      items = records ignored shape origin ∧ t = shape.typeAt origin)
    (fun properties items fields =>
      (items = (shown ignored properties).flatMap fun property =>
        records ignored property (.ofLabel property.key)) ∧
      fields = shownFields ignored properties) where
  object := by
    intro a properties derived before fields name hfields hname origin horigin
    obtain ⟨rfl, rfl⟩ := hfields
    rw [horigin.objectName_eq hname, records_object]
    exact ⟨rfl, rfl⟩
  array := by
    intro a elements derived name items element hname helement origin horigin
    obtain ⟨rfl, rfl⟩ := helement origin.inArray (horigin.inArray hname elements)
    rw [records_array]
    exact ⟨rfl, rfl⟩
  boolean := fun _ _ => ⟨rfl, rfl⟩
  number := by
    intro a enumeration derived t htype origin _
    rw [primitiveType_eq_typeOfPrimitive htype]
    exact ⟨rfl, rfl⟩
  string := by
    intro a enumeration derived t htype origin _
    rw [primitiveType_eq_typeOfPrimitive htype]
    exact ⟨rfl, rfl⟩
  nil := ⟨rfl, rfl⟩
  hidden := by
    intro property rest key items fields hkey hhidden hrest
    have hshown : shown ignored (property :: rest) = shown ignored rest := by
      simp [shown, isIgnored_eq hkey hhidden]
    rwa [shownFields, hshown]
  shown := by
    intro property rest key before type after tail hkey hhidden htype htail
    obtain ⟨rfl, rfl⟩ := htype (.ofLabel property.key) (Or.inl ⟨rfl, rfl⟩)
    obtain ⟨rfl, rfl⟩ := htail
    have hshown : Shape.shown ignored (property :: rest) =
        property :: Shape.shown ignored rest := by
      simp [Shape.shown, isIgnored_eq hkey hhidden]
    rw [hshown, List.flatMap_cons, shownFields, shownFields, hshown, List.map_cons,
      ← eq_key_of_key? hkey]
    exact ⟨rfl, rfl⟩

/-- An object that is declared puts out its records in post-order. -/
theorem declareObject_eq_records {ignored : Ignored} {derived : Value} {a : Attributes}
    {properties : List Shape} {items : List Decl} {t : TypeExpr} {origin : Origin}
    (h : declareObject ignored (object a properties) derived = ⟨items, .ok t⟩)
    (horigin : Explains origin (object a properties) derived) :
    items = records ignored (object a properties) origin ∧ t = .reference (nameAt a origin) := by
  obtain ⟨_, _, before, fields, name, hshape, hfields, hname, rfl, rfl⟩ := declareObject_eq_ok.mp h
  cases hshape
  obtain ⟨rfl, rfl⟩ := (postOrder_cases ignored).fields hfields
  rw [horigin.objectName_eq hname, records_object]
  exact ⟨rfl, rfl⟩

/-- A schema that is declared puts out its declarations in post-order. -/
theorem declareRoot_eq_postOrder {ignored : Ignored} {shape : Shape} {items : List Decl}
    {t : TypeExpr} (h : declareRoot ignored shape = ⟨items, .ok t⟩) :
    items = postOrder ignored shape := by
  rcases declareRoot_eq_ok h with hobject | ⟨a, elements, rfl, harray⟩
  · obtain ⟨a, properties, -, -, -, rfl, -⟩ := declareObject_eq_ok.mp hobject
    have hrecords := (declareObject_eq_records hobject (Or.inl ⟨rfl, rfl⟩)).1
    exact hrecords.trans (List.append_nil _).symm
  · obtain ⟨name, before, element, -, hname, helement, rfl, -⟩ := declareRootArray_eq_ok.mp harray
    obtain ⟨b, properties, -, -, -, rfl, -⟩ := declareObject_eq_ok.mp helement
    have horigin : Explains (Origin.ofLabel a.name).inArray (object b properties)
        (.string name) := by
      right
      rw [elementNameOf_eq_ok hname, Origin.derived_inArray, Origin.derived_ofLabel]
    obtain ⟨rfl, rfl⟩ := declareObject_eq_records helement horigin
    rfl

end Shape

/-! ## What was declared before -/

/-- A step that declares a shape gives in any session what it gives in a session without
declarations, and adds to the declarations that are there what it puts out there. -/
theorem Session.perform_start (session : Session) (shape : Shape) (derived : Value) :
    ∀ step ∈ [Step.object shape derived, Step.type shape derived],
      (session.perform step).2 = ((start session.config).perform step).2 ∧
      (session.perform step).1.declarations =
        session.declarations ++ ((start session.config).perform step).1.declarations := by
  intro step hstep
  simp only [List.mem_cons, List.not_mem_nil, or_false] at hstep
  rcases hstep with rfl | rfl <;> simp [perform, absorb, start]

namespace Shape

/-- **The declarations of a schema are those of its objects in post-order.** What a schema puts out
when it is declared are the records of the objects that are reached, each after those inside it and
under the name that its origin explains, and behind them the alias of a root array. A step of a
session that declares a shape answers the same whatever was declared before, and keeps it in front
of what it puts out. -/
theorem emitted_eq_postOrder (ignored : Ignored) (shape : Shape) :
    (∀ emitted root, declareRoot ignored shape = ⟨emitted, .ok root⟩ →
      emitted = postOrder ignored shape) ∧
    ∀ (session : Session) (derived : Value),
      ∀ step ∈ [Step.object shape derived, Step.type shape derived],
        (session.perform step).2 = ((Session.start session.config).perform step).2 ∧
        (session.perform step).1.declarations =
          session.declarations ++
            ((Session.start session.config).perform step).1.declarations :=
  ⟨fun _ _ h => declareRoot_eq_postOrder h, fun session => session.perform_start shape⟩

/-- Games with rounds in two arrays, one of which has a key of its own, as have the rounds; a winner
with a name of its own; and secrets that are left out. -/
def games : Shape :=
  .array { name := .string "Games", nullable := .bool true }
    (.object { key := .string "game" }
      [.array { key := .string "rounds" }
          (.array { key := .string "pairs", name := .string "Pairs" }
            (.object { key := .string "round", nullable := .bool true }
              [.number { key := .string "points" } .null])),
        .object { key := .string "secrets" } [],
        .object { key := .string "winner", name := .string "Player", optional := .bool true } []])

/-- The declarations of the games. -/
def gamesDecls : List Decl :=
  [.record (.string "RoundItem") [⟨.string "points", .keyword (.string "number"), .bool false⟩],
    .record (.string "Player") [],
    .record (.string "Game")
      [⟨.string "rounds",
          .array [.array [.union [.reference (.string "RoundItem"), .null]]], .bool false⟩,
        ⟨.string "winner", .reference (.string "Player"), .bool true⟩],
    .synonym (.string "Games") (.array [.reference (.string "Game")])]

/-- The games put out the declarations that are read off them. -/
theorem emitted_games :
    declareRoot (.list [.string "secrets"]) games =
      ⟨gamesDecls, .ok (.reference (.string "Games"))⟩ ∧
    gamesDecls = postOrder (.list [.string "secrets"]) games := by
  have hdeclare : declareRoot (.list [.string "secrets"]) games =
      ⟨gamesDecls, .ok (.reference (.string "Games"))⟩ := rfl
  exact ⟨hdeclare, (emitted_eq_postOrder (.list [.string "secrets"]) games).1 _ _ hdeclare⟩

end Shape

end ShapeTypes
