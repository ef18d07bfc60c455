import ShapeTypes.Proofs.Failure
import ShapeTypes.Proofs.Shape.PostOrder

/-!
# Faults of enumerations

* `Value.fitsAs`: the values that an enumeration of a kind admits.
* `LiteralKind.fault?`: what is wrong with the values of an enumeration, read off them: the first
  value that does not fit decides.
* `LiteralKind.result_primitive`: **the type of a primitive has the fault of its enumeration**.
* `LiteralKind.fault?_eq_none_iff`: nothing is wrong with literals of one kind.
* `LiteralKind.Overflows`: an integer is too large to be compared or shown.
  `LiteralKind.fault?_cases`, `LiteralKind.overflows_iff`: **every other fault is of the schema**.
-/

namespace ShapeTypes

/-! ## The fault of an enumeration -/

/-- The values that an enumeration admits: texts, or numbers in the range of the finite doubles. -/
def Value.fitsAs : LiteralKind → Value → Bool
  | .number, .int n => fitsDouble n
  | .number, .double x => x.isFinite
  | .text, .string _ => true
  | _, _ => false

/-- The values of an enumeration; what is no list enumerates nothing. -/
def Value.alternatives : Value → List Value
  | .list values => values
  | _ => []

/-! ## Moderate integers -/

/-- The integers among the alternatives are integers of the enumeration. -/
theorem Value.mem_integers_of_alternatives {enumeration : Value} {n : Int}
    (h : n ∈ (Value.list enumeration.alternatives).integers) : n ∈ enumeration.integers := by
  cases enumeration with
  | list values => exact h
  | _ => cases h

/-- A moderate integer rounds to a finite double. -/
theorem fitsDouble_of_lt {n : Int} (h : n.natAbs < Nat.pow 2 1023) : fitsDouble n = true := by
  have hbound : Nat.pow 2 1023 ≤ Nat.pow 2 1024 - Nat.pow 2 970 := by decide +kernel
  exact decide_eq_true (Nat.lt_of_lt_of_le h hbound)

/-- A moderate integer can be shown. -/
theorem lt_of_moderate {n : Nat} (h : n < Nat.pow 2 1023) : n < Nat.pow 10 maxIntegerDigits := by
  have hbound : Nat.pow 2 1023 ≤ Nat.pow 10 maxIntegerDigits := by decide +kernel
  exact Nat.lt_of_lt_of_le h hbound

/-! ## Faults -/

/-- A key that is null or a text can be shown in the failure for a variant. -/
theorem Failure.unsupported_orEmpty {key : Value} (h : key.isLabel = true) (variant : String) :
    unsupported variant key.orEmpty = .unknownVariant variant key.orEmpty := by
  have hshown : key.orEmpty.isShowable = true := by
    cases key with
    | null => rfl
    | string s =>
        unfold Value.orEmpty
        split <;> rfl
    | _ => contradiction
  rw [unsupported, if_pos hshown]

namespace LiteralKind

/-- The word for the variant of the nodes with enumerations of the kind. -/
def variant : LiteralKind → String
  | number => "number"
  | text => "string"

/-- The test that the values of such an enumeration have to pass. -/
def test : LiteralKind → Value → Except Failure Bool
  | number => isNumberLiteral
  | text => isStringLiteral

/-- How a value that does not fit stops the test: an integer cannot be compared with the doubles. -/
def overflow? : LiteralKind → Value → Option Failure
  | number, .int _ => some .hugeInteger
  | _, _ => none

/-- The failure that refuses an enumeration: its message shows all values, unless an integer among
them is too long. -/
def refusal (kind : LiteralKind) (key : Value) (values : List Value) : Failure :=
  if (Value.list values).isShowable then
    .unknownVariant (kind.variant ++ " enum with values " ++ (Value.list values).inspect)
      key.orEmpty
  else .longInteger

/-- What is wrong with the values of an enumeration: the first one that does not fit decides. -/
def fault? (kind : LiteralKind) (key : Value) (values : List Value) : Option Failure :=
  (values.find? fun v => !v.fitsAs kind).map fun v =>
    (kind.overflow? v).getD (kind.refusal key values)

variable {kind : LiteralKind} {v : Value}

/-- An enumeration is refused if its first value that does not fit is no integer beyond the doubles.
-/
theorem fault?_eq_refusal {key : Value} {values : List Value}
    (hfirst : values.find? (fun v => !v.fitsAs kind) = some v) (hother : kind.overflow? v = none) :
    kind.fault? key values = some (kind.refusal key values) := by
  rw [fault?, hfirst, Option.map_some, hother, Option.getD_none]

/-- What fits passes the test. -/
theorem test_of_fitsAs (h : v.fitsAs kind = true) : kind.test v = .ok true := by
  cases kind with
  | number =>
      cases v with
      | int n =>
          rw [Value.fitsAs] at h
          rw [test, isNumberLiteral, if_pos h]
      | double x => exact congrArg Except.ok h
      | _ => cases h
  | text =>
      cases v with
      | string s => rfl
      | _ => cases h

/-- What does not fit fails the test, or stops it if it is an integer. -/
theorem test_of_not_fitsAs (h : v.fitsAs kind = false) :
    kind.test v = (kind.overflow? v).elim (.ok false) .error := by
  cases kind with
  | number =>
      cases v with
      | int n =>
          rw [Value.fitsAs] at h
          rw [test, isNumberLiteral, h]
          rfl
      | double x => exact congrArg Except.ok h
      | _ => rfl
  | text =>
      cases v with
      | string s => cases h
      | _ => rfl

/-- The first value that does not fit decides how the test of all values ends. -/
theorem allPass_test (kind : LiteralKind) (values : List Value) :
    allPass kind.test values =
      match values.find? fun v => !v.fitsAs kind with
      | none => .ok true
      | some v => kind.test v := by
  induction values with
  | nil => rfl
  | cons v rest ih =>
      cases hfits : v.fitsAs kind with
      | true =>
          rw [List.find?_cons_of_neg (by simp [hfits]), ← ih]
          simp only [allPass, test_of_fitsAs hfits]
      | false =>
          rw [List.find?_cons_of_pos (by simp [hfits])]
          have hne : kind.test v ≠ .ok true := by
            rw [test_of_not_fitsAs hfits]
            cases kind.overflow? v <;> simp
          rw [allPass]
          split
          · contradiction
          · rfl

/-- The type of a primitive is read off it, unless something is wrong with its enumeration. -/
theorem primitiveType_eq_outcome (kind : LiteralKind) {key : Value} (hkey : key.isLabel = true)
    (enumeration : Value) :
    primitiveType kind.variant kind.test key enumeration =
      outcome (kind.fault? key enumeration.alternatives).toList
        (Shape.typeOfPrimitive kind.variant enumeration) := by
  unfold primitiveType
  split
  · rename_i v rest
    show enumType kind.variant kind.test key (v :: rest) =
      outcome (kind.fault? key (v :: rest)).toList (.union ((v :: rest).map .literal))
    rw [enumType, allPass_test, fault?]
    cases hfind : (v :: rest).find? fun v => !v.fitsAs kind with
    | none => rfl
    | some w =>
        have hfits : w.fitsAs kind = false := by
          have hw := List.find?_some hfind
          simpa using hw
        simp only [test_of_not_fitsAs hfits]
        cases hstop : kind.overflow? w with
        | some failure => simp [hstop]
        | none =>
            simp only [hstop, Option.elim_none, Option.map_some, Option.getD_none, refusal,
              Failure.unsupported_orEmpty hkey]
            split <;> rfl
  · rename_i hne
    cases enumeration with
    | list values =>
        cases values with
        | nil => rfl
        | cons v rest => exact absurd rfl (hne v rest)
    | _ => rfl

/-- The type of a primitive has the faults of its enumeration. -/
theorem result_primitive (kind : LiteralKind) {a : Attributes} (hkey : a.key.isLabel = true)
    (enumeration : Value) :
    (Traced.ofExcept (primitiveType kind.variant kind.test a.key enumeration) >>=
        fun type => (pure (withNull a type) : Declaring TypeExpr)).result =
      outcome (kind.fault? a.key enumeration.alternatives).toList
        (withNull a (Shape.typeOfPrimitive kind.variant enumeration)) := by
  rw [primitiveType_eq_outcome kind hkey]
  exact Traced.result_bind_ok rfl rfl

/-! ## Literals -/

variable {key : Value} {values : List Value}

/-- An integer that is enumerated is one of the integers of the enumeration. -/
theorem mem_integers_of_mem {n : Int} (h : Value.int n ∈ values) :
    n ∈ (Value.list values).integers := by
  show n ∈ Value.integersOfItems values
  induction values with
  | nil => cases h
  | cons v rest ih =>
      rw [Value.integersOfItems, List.mem_append]
      rcases List.mem_cons.mp h with rfl | hrest
      · exact Or.inl (List.mem_singleton_self n)
      · exact Or.inr (ih hrest)

/-- A value that is no integer beyond the doubles fits if it is a literal of the kind. -/
theorem fitsAs_iff {v : Value} (h : ∀ n, v = .int n → fitsDouble n = true) :
    v.fitsAs kind = true ↔ v.literalKind? = some kind := by
  cases kind <;> cases v with
  | int n => simp [Value.fitsAs, Value.literalKind?, h n rfl]
  | double x => cases hx : x.isFinite <;> simp [Value.fitsAs, Value.literalKind?, hx]
  | _ => simp [Value.fitsAs, Value.literalKind?]

/-- Nothing is wrong with an enumeration if all its values are literals of the kind. -/
theorem fault?_eq_none_iff (h : ∀ n ∈ (Value.list values).integers, fitsDouble n = true) :
    kind.fault? key values = none ↔ ∀ v ∈ values, v.literalKind? = some kind := by
  rw [fault?, Option.map_eq_none_iff, List.find?_eq_none]
  refine forall₂_congr fun v hv => ?_
  rw [Bool.not_eq_true, Bool.not_eq_false', fitsAs_iff]
  rintro n rfl
  exact h n (mem_integers_of_mem hv)

/-! ## Integers that are too large -/

/-- An enumeration cannot be judged for the size of an integer in it. -/
inductive Overflows : LiteralKind → List Value → Failure → Prop
  /-- The first number that does not fit is an integer beyond the doubles. -/
  | huge {values : List Value} {n : Int}
      (hfirst : values.find? (fun v => !v.fitsAs number) = some (.int n)) :
      Overflows number values .hugeInteger
  /-- The enumeration is refused for another value, and no message can show one of its integers. -/
  | long {kind : LiteralKind} {values : List Value} {v : Value} {n : Int}
      (hfirst : values.find? (fun v => !v.fitsAs kind) = some v)
      (hother : kind.overflow? v = none) (hn : n ∈ (Value.list values).integers)
      (hlong : Nat.pow 10 maxIntegerDigits ≤ n.natAbs) : Overflows kind values .longInteger

/-- An integer that is too large is not what is wrong with the schema. -/
theorem Overflows.isOfSchema_eq_false {failure : Failure} (h : kind.Overflows values failure) :
    failure.isOfSchema = false := by
  cases h <;> rfl

/-- An integer that is too large is what is wrong with its enumeration. -/
theorem Overflows.fault?_eq {failure : Failure} (h : kind.Overflows values failure)
    (key : Value) : kind.fault? key values = some failure := by
  cases h with
  | huge hfirst => rw [fault?, hfirst, Option.map_some, overflow?, Option.getD_some]
  | long hfirst hother hn hlong =>
      have hshown : ¬ (Value.list values).isShowable = true := by
        rw [Value.isShowable_iff]
        exact fun hall => Nat.not_lt_of_le hlong (hall _ hn)
      rw [fault?_eq_refusal hfirst hother, refusal, if_neg hshown]

/-- An integer in a value that cannot be shown is too long. -/
theorem exists_long_of_not_isShowable {v : Value} (h : ¬ v.isShowable = true) :
    ∃ n ∈ v.integers, Nat.pow 10 maxIntegerDigits ≤ n.natAbs := by
  rw [Value.isShowable_iff] at h
  simp only [Classical.not_forall, exists_prop, Nat.not_lt] at h
  exact h

/-- Only an integer that is not moderate is too large. -/
theorem Overflows.exists_immoderate {failure : Failure} (h : kind.Overflows values failure) :
    ∃ n ∈ (Value.list values).integers, ¬ n.natAbs < Nat.pow 2 1023 := by
  cases h with
  | @huge _ n hfirst =>
      refine ⟨n, mem_integers_of_mem (List.mem_of_find?_eq_some hfirst), fun hmoderate => ?_⟩
      have hfits := List.find?_some hfirst
      simp [Value.fitsAs, fitsDouble_of_lt hmoderate] at hfits
  | long hfirst hother hn hlong =>
      exact ⟨_, hn, fun hmoderate => Nat.not_lt_of_le hlong (lt_of_moderate hmoderate)⟩

/-- What is wrong with an enumeration is that it is refused, or that an integer is too large. -/
theorem fault?_cases {failure : Failure} (h : kind.fault? key values = some failure) :
    (∃ variant, failure = .unknownVariant variant key.orEmpty) ∨ kind.Overflows values failure := by
  obtain ⟨v, hfirst, rfl⟩ := Option.map_eq_some_iff.mp h
  cases hstop : kind.overflow? v with
  | some failure =>
      right
      unfold overflow? at hstop
      split at hstop
      · cases hstop
        exact Overflows.huge hfirst
      · cases hstop
  | none =>
      rw [Option.getD_none, refusal]
      split
      · exact Or.inl ⟨_, rfl⟩
      · rename_i hshown
        obtain ⟨n, hn, hlong⟩ := exists_long_of_not_isShowable hshown
        exact Or.inr (Overflows.long hfirst hstop hn hlong)

/-- **What is wrong with an enumeration is a fault of the schema, or an integer is too large.** -/
theorem overflows_iff {failure : Failure} (h : kind.fault? key values = some failure) :
    kind.Overflows values failure ↔ failure.isOfSchema = false := by
  refine ⟨Overflows.isOfSchema_eq_false, fun hforeign => ?_⟩
  rcases fault?_cases h with ⟨variant, rfl⟩ | hoverflows
  · cases hforeign
  · exact hoverflows

end LiteralKind

end ShapeTypes
