import ShapeTypes.Proofs.Enumeration

/-!
# The faults of a schema

What is wrong with a schema is read off the schema here, node by node, without running anything.

* `Shape.fault?`: what is wrong with a node that is reached; `Shape.rootFault?`: what is wrong with
  the root.
* `Shape.faults`: all faults of a schema in the order in which they are found: the root first, then
  depth first and from left to right, an object behind its properties.
* `Shape.result_declareType`, `Shape.result_declareRoot`: **declaring fails with the first fault,
  and succeeds if there is none**. It is an induction over the tree, with the origin as invariant.
* `Shape.IsSound`: what is required of a node; `Shape.result_declareRoot_iff`: **a schema is
  declared if and only if its root can be one and every node that is reached is sound**, and fails
  with its first fault otherwise.
-/

namespace ShapeTypes

namespace Shape

/-! ## Faults -/

/-- What is wrong with a node that is reached, apart from what is wrong inside it. What stands for
missing items is a fault of the array. -/
def fault? : Shape × Origin → Option Failure
  | (object a _, origin) => if (nameAt a origin).truthy then none else some .namelessObject
  | (array a items, _) =>
    if items.isMissing then some (.unknownVariant "array without items" a.key.orEmpty) else none
  | (boolean _, _) => none
  | (number a enumeration, _) => LiteralKind.number.fault? a.key enumeration.alternatives
  | (string a enumeration, _) => LiteralKind.text.fault? a.key enumeration.alternatives
  | (untyped a, _) => some (.unknownVariant "SchemaNode" a.key.orEmpty)
  | (foreign .null, _) => none
  | (foreign value, _) => some (.unknownVariant value.typeName (.string ""))

/-- What is wrong with the root of a schema: it has to be an object or a named array of objects. -/
def rootFault? : Shape → Option Failure
  | object .. => none
  | array a items =>
    if a.name.truthy then
      match items with
      | object .. => none
      | other =>
        let variant := if other.isMissing then "array without items" else other.variant
        some (.unknownVariant variant (.string (a.name.text ++ "/items")))
    else some .namelessArray
  | other => some (.invalidRoot other.variant)

/-- All faults of a schema, in the order in which they are found. -/
def faults (ignored : Ignored) (shape : Shape) : List Failure :=
  (rootFault? shape).toList ++ (rootVisits ignored shape).filterMap fault?

/-- A node by itself has at most one fault. -/
theorem filterMap_fault?_singleton (visit : Shape × Origin) :
    [visit].filterMap fault? = (fault? visit).toList := by
  cases h : fault? visit <;> simp [h]

/-! ## The first fault decides -/

/-- What an anonymous object is named after is a text. -/
theorem Explains.sourceName_eq {origin : Origin} {shape : Shape} {derived : Value}
    (h : Explains origin shape derived) {a : Attributes} (ha : shape.attributes? = some a)
    (hkey : a.key.isLabel = true) : sourceName a derived = .string origin.derived := by
  rcases h with ⟨rfl, rfl⟩ | rfl
  · have hshape : shape.key = a.key := by simp [key, ha]
    rw [sourceName, hshape, Origin.derived_ofLabel]
    cases hlabel : a.key with
    | null => rfl
    | string s => simp
    | _ => simp [hlabel, Value.isLabel] at hkey
  · rfl

/-- A record is put out unless its object has no name. -/
theorem result_declareRecord {origin : Origin} {a : Attributes} {properties : List Shape}
    {derived : Value} (h : Explains origin (object a properties) derived)
    (hkey : a.key.isLabel = true) (fields : List Field) :
    (declareRecord a derived fields).result =
      outcome (fault? (object a properties, origin)).toList (.reference (nameAt a origin)) := by
  have hname : objectName a derived =
      outcome (fault? (object a properties, origin)).toList (nameAt a origin) := by
    unfold objectName fault?
    by_cases hexplicit : a.name.truthy = true
    · simp [nameAt, hexplicit]
    · rw [h.sourceName_eq rfl hkey]
      by_cases hempty : Name.capitalized origin.derived = "" <;>
        simp [nameAt, hexplicit, capitalizedValue, hempty]
  unfold declareRecord Traced.ofExcept
  rw [hname]
  cases fault? (object a properties, origin) <;> rfl

/-- The type of a shape is the one that is read off it, unless there are faults. -/
def TypeDecided (keys : List Value) (shape : Shape) : Prop :=
  ∀ derived origin, Explains origin shape derived →
    (declareType (.list keys) shape derived).result =
      outcome ((visits (.list keys) shape origin).filterMap fault?) (shape.typeAt origin)

/-- The fields of an object have the faults of its properties, in order. -/
theorem result_declareFields {keys : List Value} {properties : List Shape}
    (hnodes : ∀ p ∈ properties, ∃ b, p.attributes? = some b)
    (h : ∀ p ∈ properties, TypeDecided keys p) :
    (declareFields (.list keys) properties).result =
      outcome ((visitsOf (.list keys) properties).filterMap fault?)
        (shownFields (.list keys) properties) := by
  induction properties with
  | nil => rfl
  | cons p rest ih =>
      have hrest := ih (fun q hq => hnodes q (List.mem_cons_of_mem p hq))
        fun q hq => h q (List.mem_cons_of_mem p hq)
      obtain ⟨b, hb⟩ := hnodes p List.mem_cons_self
      have hkey : p.key? = .ok p.key := by simp [key?, key, hb]
      have hhides : Ignored.hides (.list keys) p.key = .ok (p.isIgnored (.list keys)) := rfl
      rw [declareFields, hkey, Traced.ofExcept_ok_bind, hhides, Traced.ofExcept_ok_bind, visitsOf]
      cases hidden : p.isIgnored (.list keys) with
      | true =>
          have hfields : shownFields (.list keys) (p :: rest) = shownFields (.list keys) rest := by
            simp [shownFields, shown, hidden]
          rw [if_pos rfl, if_pos rfl, hfields]
          exact hrest
      | false =>
          have hfields : shownFields (.list keys) (p :: rest) =
              ⟨p.key.orEmpty, p.typeAt (.ofLabel p.key), p.optional⟩ ::
                shownFields (.list keys) rest := by
            simp [shownFields, shown, hidden]
          have htype := h p List.mem_cons_self .null (.ofLabel p.key) (Or.inl ⟨rfl, rfl⟩)
          rw [if_neg Bool.false_ne_true, if_neg Bool.false_ne_true, hfields, List.filterMap_append]
          exact Traced.result_bind htype (Traced.result_bind_ok hrest rfl)

/-- **The first fault decides what becomes of the type of a shape.** -/
theorem result_declareType (keys : List Value) {shape : Shape} (h : shape.IsNodeTree)
    (hpresent : shape.isMissing = false) : TypeDecided keys shape := by
  induction shape with
  | object a properties ih =>
      intro derived origin horigin
      have hfields := result_declareFields (fun p hp => h.exists_attributes hp)
        fun p hp => ih p hp (h.property hp) (h.isMissing_property hp)
      have hrecord := result_declareRecord horigin (h.labels.root rfl).1
        (shownFields (.list keys) properties)
      rw [declareType, visits, List.filterMap_append, filterMap_fault?_singleton]
      exact Traced.result_bind hfields (Traced.result_bind_ok hrecord rfl)
  | array a items ih =>
      intro derived origin horigin
      have hname : elementNameOf (sourceName a derived) = .ok origin.inArray.derived := by
        rw [horigin.sourceName_eq rfl (h.labels.root rfl).1, Origin.derived_inArray]
        rfl
      rw [declareType, visits, List.filterMap_append]
      cases hmissing : items.isMissing with
      | true =>
          -- what stands for missing items has no fault of its own: the array's comes first
          obtain rfl := isMissing_iff.mp hmissing
          rw [Failure.unsupported_orEmpty (h.labels.root rfl).1]
          rfl
      | false =>
          have hitems := ih h.items hmissing (.string origin.inArray.derived) origin.inArray
            (Or.inr rfl)
          have hlast : fault? (array a items, origin) = none := by
            simp [fault?, hmissing]
          rw [if_neg Bool.false_ne_true, hname, Traced.ofExcept_ok_bind,
            filterMap_fault?_singleton, hlast, Option.toList_none, List.append_nil]
          exact Traced.result_bind_ok hitems rfl
  | boolean a => exact fun _ _ _ => rfl
  | number a enumeration =>
      intro derived origin _
      show _ = outcome ([(number a enumeration, origin)].filterMap fault?) _
      rw [declareType, filterMap_fault?_singleton]
      exact LiteralKind.number.result_primitive (h.labels.root rfl).1 enumeration
  | string a enumeration =>
      intro derived origin _
      show _ = outcome ([(string a enumeration, origin)].filterMap fault?) _
      rw [declareType, filterMap_fault?_singleton]
      exact LiteralKind.text.result_primitive (h.labels.root rfl).1 enumeration
  | untyped a =>
      intro derived origin _
      rw [declareType, Failure.unsupported_orEmpty (h.labels.root rfl).1]
      rfl
  | foreign value =>
      intro derived origin _
      cases value with
      | null => cases hpresent
      | _ => rfl

/-- The first fault decides what becomes of an object. -/
theorem result_declareObject {keys : List Value} {a : Attributes} {properties : List Shape}
    {derived : Value} {origin : Origin} (h : (object a properties).IsNodeTree)
    (horigin : Explains origin (object a properties) derived) :
    (declareObject (.list keys) (object a properties) derived).result =
      outcome ((visits (.list keys) (object a properties) origin).filterMap fault?)
        (.reference (nameAt a origin)) := by
  have hfields := result_declareFields (fun p hp => h.exists_attributes hp)
    fun p hp => result_declareType keys (h.property hp) (h.isMissing_property hp)
  rw [declareObject, visits, List.filterMap_append, filterMap_fault?_singleton]
  exact Traced.result_bind hfields
    (result_declareRecord horigin (h.labels.root rfl).1 (shownFields (.list keys) properties))

/-- The first fault decides what becomes of a named array of objects. -/
theorem result_declareRootArray {keys : List Value} {a b : Attributes} {properties : List Shape}
    (h : (array a (object b properties)).IsNodeTree) (hname : a.name.truthy = true) :
    (declareRootArray (.list keys) a (object b properties)).result =
      outcome ((rootVisits (.list keys) (array a (object b properties))).filterMap fault?)
        (.reference a.name) := by
  obtain ⟨s, hs⟩ := Value.eq_string_of_isLabel (h.labels.root rfl).2 hname
  have hderived : elementNameOf a.name = .ok (Origin.ofLabel a.name).inArray.derived := by
    rw [Origin.derived_inArray, Origin.derived_ofLabel, hs, Value.word_string]
    rfl
  have hobject : (declareObject (.list keys) (object b properties)
      (.string (Origin.ofLabel a.name).inArray.derived)).result =
        outcome ((rootVisits (.list keys) (array a (object b properties))).filterMap fault?)
          (.reference (nameAt b (Origin.ofLabel a.name).inArray)) :=
    result_declareObject h.items (Or.inr rfl)
  rw [declareRootArray, if_pos hname, hderived, Traced.ofExcept_ok_bind]
  exact Traced.result_bind_ok hobject rfl

/-- **The first fault decides what becomes of a schema.** -/
theorem result_declareRoot (keys : List Value) {shape : Shape} (h : shape.IsNodeTree) :
    ∃ root, (declareRoot (.list keys) shape).result =
      outcome (faults (.list keys) shape) root := by
  cases shape with
  | object a properties => exact ⟨_, result_declareObject h (Or.inl ⟨rfl, rfl⟩)⟩
  | array a items =>
      by_cases hname : a.name.truthy = true
      · cases items with
        | object b properties =>
            have hroot : rootFault? (array a (object b properties)) = none := by
              simp [rootFault?, hname]
            refine ⟨.reference a.name, ?_⟩
            rw [faults, hroot, Option.toList_none, List.nil_append]
            exact result_declareRootArray h hname
        | _ =>
            obtain ⟨name, hs⟩ := Value.eq_string_of_isLabel (h.labels.root rfl).2 hname
            have hshown : a.name.isShowable = true := by rw [hs, Value.isShowable_string]
            refine ⟨.missing, ?_⟩
            simp [declareRoot, declareRootArray, faults, rootFault?, hname,
              Failure.unsupportedItems, hshown]
      · refine ⟨.missing, ?_⟩
        simp [declareRoot, declareRootArray, faults, rootFault?, hname]
  | _ => exact ⟨.missing, rfl⟩

/-- The failure is the first fault of a schema: that of its root, or else that of the first node
reached with which something is wrong. -/
def IsFirstFault (ignored : Ignored) (shape : Shape) (failure : Failure) : Prop :=
  rootFault? shape = some failure ∨
    rootFault? shape = none ∧ ∃ before visit after,
      rootVisits ignored shape = before ++ visit :: after ∧
        (∀ earlier ∈ before, fault? earlier = none) ∧ fault? visit = some failure

/-- The first of all faults is the first fault. -/
theorem head?_faults {ignored : Ignored} {shape : Shape} {failure : Failure} :
    (faults ignored shape).head? = some failure ↔ IsFirstFault ignored shape failure := by
  unfold faults IsFirstFault
  cases hroot : rootFault? shape with
  | some fault => simp
  | none =>
      rw [Option.toList_none, List.nil_append, List.head?_filterMap, List.findSome?_eq_some_iff]
      constructor
      · rintro ⟨before, visit, after, hvisits, hfault, hbefore⟩
        exact Or.inr ⟨rfl, before, visit, after, hvisits, hbefore, hfault⟩
      · rintro (hfault | ⟨-, before, visit, after, hvisits, hbefore, hfault⟩)
        · cases hfault
        · exact ⟨before, visit, after, hvisits, hfault, hbefore⟩

/-- Declaring a schema fails with its first fault. -/
theorem result_declareRoot_eq_error (keys : List Value) {shape : Shape} (h : shape.IsNodeTree)
    {failure : Failure} : (declareRoot (.list keys) shape).result = .error failure ↔
      IsFirstFault (.list keys) shape failure := by
  obtain ⟨root, hroot⟩ := result_declareRoot keys h
  rw [hroot, outcome_eq_error, head?_faults]

end Shape

/-! ## What is required of a schema -/

/-- The enumeration of a shape; what has none enumerates nothing. -/
def Shape.enumeration : Shape → Value
  | .number _ enumeration | .string _ enumeration => enumeration
  | _ => .null

namespace Shape

/-- Every integer that stands in an enumeration of the tree, at any depth, is moderate. -/
def HasModerateIntegers (shape : Shape) : Prop :=
  ∀ node ∈ shape.nodes, ∀ n ∈ node.enumeration.integers, n.natAbs < Nat.pow 2 1023

instance (shape : Shape) : Decidable shape.HasModerateIntegers :=
  inferInstanceAs (Decidable (∀ node ∈ shape.nodes, ∀ n ∈ node.enumeration.integers,
    n.natAbs < Nat.pow 2 1023))

/-- The shape can be the root of a schema. -/
def IsRoot : Shape → Prop
  | object .. => True
  | array a (object ..) => a.name.truthy = true
  | _ => False

/-- What is required of a node that is reached: an object has a name, an array has items, the values
of an enumeration are literals of its kind, and everything else has a variant. What stands for
missing items is judged with the array. -/
def IsSound : Shape × Origin → Prop
  | (object a _, origin) => (nameAt a origin).truthy = true
  | (array _ items, _) => items.isMissing = false
  | (boolean _, _) => True
  | (number _ enumeration, _) => ∀ v ∈ enumeration.alternatives, v.literalKind? = some .number
  | (string _ enumeration, _) => ∀ v ∈ enumeration.alternatives, v.literalKind? = some .text
  | (untyped _, _) => False
  | (foreign value, _) => value = .null

/-- Nothing is wrong with a shape that can be the root. -/
theorem rootFault?_eq_none_iff {shape : Shape} : rootFault? shape = none ↔ shape.IsRoot := by
  cases shape with
  | array a items =>
      by_cases hname : a.name.truthy = true <;> cases items <;> simp [rootFault?, IsRoot, hname]
  | _ => simp [rootFault?, IsRoot]

/-- What is wrong with a root is a fault of the schema. -/
theorem isOfSchema_of_rootFault? {shape : Shape} {failure : Failure}
    (h : rootFault? shape = some failure) : failure.isOfSchema = true := by
  unfold rootFault? at h
  split at h
  · cases h
  · split at h
    · split at h
      · cases h
      · cases h
        rfl
    · cases h
      rfl
  · cases h
    rfl

/-- Nothing is wrong with a node that is sound. -/
theorem fault?_eq_none_iff {visit : Shape × Origin}
    (h : ∀ n ∈ visit.1.enumeration.integers, n.natAbs < Nat.pow 2 1023) :
    fault? visit = none ↔ IsSound visit := by
  have hfits : ∀ n ∈ (Value.list visit.1.enumeration.alternatives).integers,
      fitsDouble n = true :=
    fun n hn => fitsDouble_of_lt (h n (Value.mem_integers_of_alternatives hn))
  obtain ⟨shape, origin⟩ := visit
  cases shape with
  | number a enumeration => exact LiteralKind.fault?_eq_none_iff hfits
  | string a enumeration => exact LiteralKind.fault?_eq_none_iff hfits
  | foreign value => cases value <;> simp [fault?, IsSound]
  | _ => simp [fault?, IsSound]

/-- A node cannot be judged for the size of an integer in its enumeration. -/
def Overflows : Shape × Origin → Failure → Prop
  | (number _ enumeration, _), failure =>
    LiteralKind.number.Overflows enumeration.alternatives failure
  | (string _ enumeration, _), failure =>
    LiteralKind.text.Overflows enumeration.alternatives failure
  | _, _ => False

/-- What is wrong with a node is a fault of the schema, or an integer is too large. -/
theorem overflows_iff {visit : Shape × Origin} {failure : Failure}
    (h : fault? visit = some failure) : Overflows visit failure ↔ failure.isOfSchema = false := by
  obtain ⟨shape, origin⟩ := visit
  cases shape with
  | number a enumeration => exact LiteralKind.overflows_iff h
  | string a enumeration => exact LiteralKind.overflows_iff h
  | object a properties =>
      obtain ⟨-, rfl⟩ : _ ∧ Failure.namelessObject = failure := by simpa [fault?] using h
      exact iff_of_false id nofun
  | array a items =>
      obtain ⟨-, rfl⟩ : _ ∧ Failure.unknownVariant _ _ = failure := by simpa [fault?] using h
      exact iff_of_false id nofun
  | foreign value =>
      cases value <;> cases h <;> exact iff_of_false id nofun
  | _ => cases h <;> exact iff_of_false id nofun

/-- An integer that is too large is what is wrong with its node. -/
theorem Overflows.fault?_eq {visit : Shape × Origin} {failure : Failure}
    (h : Overflows visit failure) : fault? visit = some failure := by
  obtain ⟨shape, origin⟩ := visit
  cases shape with
  | number a enumeration => exact LiteralKind.Overflows.fault?_eq h a.key
  | string a enumeration => exact LiteralKind.Overflows.fault?_eq h a.key
  | _ => cases h

/-- Only an integer that is not moderate is too large. -/
theorem Overflows.exists_immoderate {visit : Shape × Origin} {failure : Failure}
    (h : Overflows visit failure) :
    ∃ n ∈ visit.1.enumeration.integers, ¬ n.natAbs < Nat.pow 2 1023 := by
  obtain ⟨shape, origin⟩ := visit
  cases shape with
  | number a enumeration =>
      obtain ⟨n, hn, hlarge⟩ := LiteralKind.Overflows.exists_immoderate h
      exact ⟨n, Value.mem_integers_of_alternatives hn, hlarge⟩
  | string a enumeration =>
      obtain ⟨n, hn, hlarge⟩ := LiteralKind.Overflows.exists_immoderate h
      exact ⟨n, Value.mem_integers_of_alternatives hn, hlarge⟩
  | _ => cases h

/-- Under moderate integers the first fault is a fault of the schema. -/
theorem IsFirstFault.isOfSchema {ignored : Ignored} {shape : Shape} {failure : Failure}
    (h : IsFirstFault ignored shape failure) (hmoderate : shape.HasModerateIntegers) :
    failure.isOfSchema = true := by
  rcases h with hroot | ⟨-, before, visit, after, hvisits, -, hfault⟩
  · exact isOfSchema_of_rootFault? hroot
  · by_contra hforeign
    have hoverflows := (overflows_iff hfault).mpr (Bool.eq_false_iff.mpr hforeign)
    obtain ⟨n, hn, hlarge⟩ := hoverflows.exists_immoderate
    have hvisit : visit ∈ rootVisits ignored shape := by simp [hvisits]
    exact hlarge (hmoderate visit.1 (mem_nodes_of_mem_rootVisits hvisit) n hn)

/-- **When a schema is declared, and how it fails.** Let the keys and names of a tree of nodes be
texts or missing, and the integers in its enumerations moderate. Then the schema is declared if and
only if it is an object or a named array of objects, and every node that is reached without passing
through an ignored property is sound. Otherwise it fails with the first fault, in the order in which
nodes are reached, and that says what is wrong with the schema. -/
theorem result_declareRoot_iff (keys : List Value) {shape : Shape} (h : shape.IsNodeTree)
    (hmoderate : shape.HasModerateIntegers) :
    ((∃ root, (declareRoot (.list keys) shape).result = .ok root) ↔
      shape.IsRoot ∧ ∀ visit ∈ rootVisits (.list keys) shape, IsSound visit) ∧
    ∀ failure, (declareRoot (.list keys) shape).result = .error failure ↔
      IsFirstFault (.list keys) shape failure ∧ failure.isOfSchema = true := by
  constructor
  · obtain ⟨root, hroot⟩ := result_declareRoot keys h
    rw [hroot, exists_outcome_eq_ok, faults, List.append_eq_nil_iff, Option.toList_eq_nil_iff,
      rootFault?_eq_none_iff, List.filterMap_eq_nil_iff]
    refine and_congr_right fun _ => forall₂_congr fun visit hvisit => ?_
    exact fault?_eq_none_iff (hmoderate visit.1 (mem_nodes_of_mem_rootVisits hvisit))
  · intro failure
    rw [result_declareRoot_eq_error keys h]
    exact ⟨fun hfirst => ⟨hfirst, hfirst.isOfSchema hmoderate⟩, And.left⟩

/-- The kinds of the answers to a survey, of which one is no text. -/
def answerKinds : Shape := .string { key := .string "kind" } (.list [.string "open", .int 1])

/-- A survey without a name: the secret, which is left out, and the remark have no variant. -/
def survey : Shape :=
  .object {}
    [.boolean { key := .string "done" },
      .untyped { key := .string "secret" },
      .array { key := .string "answers" } (.array {} (.object {} [answerKinds])),
      .untyped { key := .string "remark" }]

/-- The survey fails for the kinds of its answers, which come before the remark and the name. -/
theorem result_declareRoot_survey : survey.IsNodeTree ∧ survey.HasModerateIntegers ∧
    (declareRoot (.list [.string "secret"]) survey).result =
      .error (.unknownVariant "string enum with values ['open', 1]" (.string "kind")) := by
  have htree : survey.IsNodeTree := by decide
  have hmoderate : survey.HasModerateIntegers := by decide +kernel
  have hkinds : fault? (answerKinds, ⟨"kind", 0⟩) =
      some (.unknownVariant "string enum with values ['open', 1]" (.string "kind")) := by
    have hshown : (Value.list [.string "open", .int 1]).isShowable = true := by decide +kernel
    have hrefused : LiteralKind.text.fault? (.string "kind") [.string "open", .int 1] =
        some (LiteralKind.text.refusal (.string "kind") [.string "open", .int 1]) :=
      LiteralKind.fault?_eq_refusal rfl rfl
    rw [LiteralKind.refusal, if_pos hshown] at hrefused
    exact hrefused
  have hfirst : IsFirstFault (.list [.string "secret"]) survey
      (.unknownVariant "string enum with values ['open', 1]" (.string "kind")) :=
    Or.inr ⟨rfl, [(.boolean { key := .string "done" }, ⟨"done", 0⟩)], _, _, rfl,
      List.forall_mem_singleton.mpr rfl, hkinds⟩
  exact ⟨htree, hmoderate,
    ((result_declareRoot_iff [.string "secret"] htree hmoderate).2 _).mpr ⟨hfirst, rfl⟩⟩

end Shape

end ShapeTypes
