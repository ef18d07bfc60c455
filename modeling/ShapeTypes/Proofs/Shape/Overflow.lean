import ShapeTypes.Proofs.Shape.Faults

/-!
# Integers that are too large

A schema that cannot be declared is at fault, with one exception: an integer in an enumeration may
be too large to be compared with the doubles, or too long for the message that refuses the
enumeration.

* `Shape.OverflowsFirst`: such an integer is the first thing that is wrong with a schema.
* `Shape.result_declareRoot_overflow`: **a schema fails with a fault of its own unless such an
  integer comes first**, and then it fails with that.
  `Shape.not_isOfSchema_limits`: one integer beyond the doubles is enough.
-/

namespace ShapeTypes

namespace Shape

/-- The first thing that is wrong with a schema is an integer in an enumeration. -/
def OverflowsFirst (ignored : Ignored) (shape : Shape) (failure : Failure) : Prop :=
  shape.IsRoot ∧ ∃ before visit after, rootVisits ignored shape = before ++ visit :: after ∧
    (∀ earlier ∈ before, fault? earlier = none) ∧ Overflows visit failure

/-- An integer that is too large is the first fault if it comes first, and the only kind of first
fault that is not one of the schema. -/
theorem overflowsFirst_iff {ignored : Ignored} {shape : Shape} {failure : Failure} :
    OverflowsFirst ignored shape failure ↔
      IsFirstFault ignored shape failure ∧ failure.isOfSchema = false := by
  constructor
  · rintro ⟨hroot, before, visit, after, hvisits, hbefore, hoverflows⟩
    have hfault := hoverflows.fault?_eq
    refine ⟨Or.inr ⟨rootFault?_eq_none_iff.mpr hroot, ?_⟩, (overflows_iff hfault).mp hoverflows⟩
    exact ⟨before, visit, after, hvisits, hbefore, hfault⟩
  · rintro ⟨hroot | ⟨hroot, before, visit, after, hvisits, hbefore, hfault⟩, hforeign⟩
    · rw [isOfSchema_of_rootFault? hroot] at hforeign
      contradiction
    · refine ⟨rootFault?_eq_none_iff.mp hroot, before, visit, after, hvisits, hbefore, ?_⟩
      exact (overflows_iff hfault).mpr hforeign

/-- The two failures for an integer that is too large. -/
theorem Overflows.eq_or_eq {visit : Shape × Origin} {failure : Failure}
    (h : Overflows visit failure) : failure = .hugeInteger ∨ failure = .longInteger := by
  have hkind : ∃ (kind : LiteralKind) (values : List Value), kind.Overflows values failure := by
    unfold Overflows at h
    split at h
    · exact ⟨_, _, h⟩
    · exact ⟨_, _, h⟩
    · exact h.elim
  obtain ⟨kind, values, hoverflows⟩ := hkind
  cases hoverflows with
  | huge => exact Or.inl rfl
  | long => exact Or.inr rfl

/-- **A schema fails with a fault of its own, unless an integer is too large.** Let the keys and
names of a tree of nodes be texts or missing. Apart from the faults of a schema, declaring it fails
only for an integer that is too large to be compared or shown, and it does so if and only if that is
the first thing that is wrong. -/
theorem result_declareRoot_overflow (keys : List Value) {shape : Shape} (h : shape.IsNodeTree) :
    (∀ failure, (declareRoot (.list keys) shape).result = .error failure →
      failure.isOfSchema = true ∨ failure = .hugeInteger ∨ failure = .longInteger) ∧
    ∀ failure, (declareRoot (.list keys) shape).result = .error failure ∧
      failure.isOfSchema = false ↔ OverflowsFirst (.list keys) shape failure := by
  have hfirst : ∀ failure, (declareRoot (.list keys) shape).result = .error failure ∧
      failure.isOfSchema = false ↔ OverflowsFirst (.list keys) shape failure := by
    intro failure
    rw [result_declareRoot_eq_error keys h, overflowsFirst_iff]
  refine ⟨fun failure hfailure => ?_, hfirst⟩
  by_cases hown : failure.isOfSchema = true
  · exact Or.inl hown
  · obtain ⟨-, -, visit, -, -, -, hoverflows⟩ :=
      (hfirst failure).mp ⟨hfailure, Bool.eq_false_iff.mpr hown⟩
    exact Or.inr hoverflows.eq_or_eq

/-- An enumeration of one integer, which lies beyond the doubles. -/
def maxima : Shape := .number { key := .string "max" } (.list [.int (Nat.pow 10 309)])

/-- Limits with such an enumeration. -/
def limits : Shape :=
  .object { name := .string "Limits" } [.boolean { key := .string "on" }, maxima]

/-- The integer is the first thing that is wrong with the limits. -/
theorem overflowsFirst_limits : OverflowsFirst (.list []) limits .hugeInteger := by
  have hlarge : fitsDouble (Nat.pow 10 309) = false := by decide +kernel
  have hfirst : [Value.int (Nat.pow 10 309)].find? (fun v => !v.fitsAs .number) =
      some (.int (Nat.pow 10 309)) := by
    rw [List.find?_cons_of_pos]
    rw [Value.fitsAs, hlarge]
    rfl
  exact ⟨trivial, [(.boolean { key := .string "on" }, ⟨"on", 0⟩)], (maxima, ⟨"max", 0⟩), _, rfl,
    List.forall_mem_singleton.mpr rfl, LiteralKind.Overflows.huge hfirst⟩

/-- The limits fail for the integer. -/
theorem result_declareRoot_limits : limits.IsNodeTree ∧
    (declareRoot (.list []) limits).result = .error .hugeInteger := by
  have htree : limits.IsNodeTree := by decide
  exact ⟨htree, (((result_declareRoot_overflow [] htree).2 _).mpr overflowsFirst_limits).1⟩

/-- The limits are a tree of nodes, and neither are they declared nor is that a fault of the schema.
-/
theorem not_isOfSchema_limits : limits.IsNodeTree ∧
    ¬ ((∃ root, (declareRoot (.list []) limits).result = .ok root) ∨
      ∃ failure, (declareRoot (.list []) limits).result = .error failure ∧
        failure.isOfSchema = true) := by
  have htree : limits.IsNodeTree := by decide
  have hfailure := (result_declareRoot_eq_error [] htree).mpr
    (overflowsFirst_iff.mp overflowsFirst_limits).1
  refine ⟨htree, ?_⟩
  rw [hfailure]
  rintro (⟨root, hroot⟩ | ⟨failure, hother, hown⟩)
  · cases hroot
  · cases hother
    cases hown

end Shape

end ShapeTypes
