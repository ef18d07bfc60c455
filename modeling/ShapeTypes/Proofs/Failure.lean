import ShapeTypes.Proofs.Lists
import ShapeTypes.Traced

/-!
# Computations that may fail

* `Except.bind_eq_ok`: a sequence succeeds if both parts do.
* `Failure.map_eq_ok`, `Failure.map_eq_error`: a mapped result comes from a result, and a failure
  stays the same.
* `Failure.isOfSchema`: the failures that say what is wrong with a schema.
* `Failure.traverse_eq_ok`: **a pass over a list that stops at the first failure succeeds with the
  results of the items**, item by item and in order.
* `outcome`: a result, unless there are faults, of which the first one decides; computations in
  sequence have the faults of both (`Traced.result_bind`).
-/

/-- A sequence of two computations succeeds if both of them do. -/
theorem Except.bind_eq_ok {ε α β : Type} {first : Except ε α} {next : α → Except ε β} {b : β} :
    first >>= next = .ok b ↔ ∃ a, first = .ok a ∧ next a = .ok b := by
  cases first with
  | error failure =>
      show Except.error failure = .ok b ↔ _
      simp
  | ok a =>
      show next a = .ok b ↔ _
      simp

namespace ShapeTypes

namespace Failure

variable {α β : Type}

/-- A mapped result comes from a result. -/
theorem map_eq_ok {f : α → β} {x : Except Failure α} {b : β} :
    x.map f = .ok b ↔ ∃ a, x = .ok a ∧ f a = b := by
  cases x with
  | error failure => simp [Except.map]
  | ok a => simp [Except.map]

/-- The failure says that a schema cannot be declared. -/
def isOfSchema : Failure → Bool
  | unknownVariant .. | invalidRoot _ | namelessArray | namelessObject => true
  | _ => false

/-- A pass over a list that stops at the first failure succeeds with the results of the items. -/
theorem traverse_eq_ok {f : α → Except Failure β} {g : List α → Except Failure (List β)}
    (hnil : g [] = .ok [])
    (herror : ∀ x rest failure, f x = .error failure → g (x :: rest) = .error failure)
    (hok : ∀ x rest y, f x = .ok y → g (x :: rest) = (g rest).map (y :: ·))
    {xs : List α} {ys : List β} :
    g xs = .ok ys ↔ List.Forall₂ (fun x y => f x = .ok y) xs ys := by
  induction xs generalizing ys with
  | nil =>
      rw [hnil, List.forall₂_nil_left_iff, Except.ok.injEq]
      exact eq_comm
  | cons x rest ih =>
      rw [List.forall₂_cons_left_iff]
      cases hx : f x with
      | error failure => simp [herror x rest failure hx]
      | ok y =>
          rw [hok x rest y hx, map_eq_ok]
          constructor
          · rintro ⟨tail, htail, rfl⟩
            exact ⟨y, tail, rfl, ih.mp htail, rfl⟩
          · rintro ⟨y', tail, hy, htail, rfl⟩
            cases hy
            exact ⟨tail, ih.mpr htail, rfl⟩

end Failure

/-! ## Outcomes -/

/-- A result, unless there are faults, of which the first one decides. -/
def outcome {α : Type} (faults : List Failure) (a : α) : Except Failure α :=
  match faults with
  | [] => .ok a
  | failure :: _ => .error failure

section outcome

variable {σ α β : Type} {faults more : List Failure} {a : α} {b : β}

@[simp] theorem outcome_nil : outcome [] a = .ok a := rfl

@[simp] theorem outcome_cons (failure : Failure) :
    outcome (failure :: faults) a = .error failure := rfl

/-- Without faults there is a result. -/
theorem exists_outcome_eq_ok : (∃ a', outcome faults a = .ok a') ↔ faults = [] := by
  cases faults <;> simp

/-- The first fault is the failure. -/
theorem outcome_eq_error {failure : Failure} :
    outcome faults a = .error failure ↔ faults.head? = some failure := by
  cases faults <;> simp

/-- What is known beforehand may be handed on. -/
theorem Traced.ofExcept_ok_bind (a : α) (next : α → Traced σ β) :
    (ofExcept (.ok a) >>= next) = next a := rfl

/-- Two computations in sequence have the faults of the first and then those of the second. -/
theorem Traced.result_bind {first : Traced σ α} {next : α → Traced σ β}
    (hfirst : first.result = outcome faults a) (hnext : (next a).result = outcome more b) :
    (first >>= next).result = outcome (faults ++ more) b := by
  obtain ⟨items, result⟩ := first
  cases faults with
  | nil =>
      obtain rfl : result = .ok a := hfirst
      rw [bind_ok, List.nil_append]
      exact hnext
  | cons failure rest =>
      obtain rfl : result = .error failure := hfirst
      rw [bind_error]
      rfl

/-- What does not fail adds no faults. -/
theorem Traced.result_bind_ok {first : Traced σ α} {next : α → Traced σ β}
    (hfirst : first.result = outcome faults a) (hnext : (next a).result = .ok b) :
    (first >>= next).result = outcome faults b := by
  rw [← List.append_nil faults]
  exact result_bind hfirst hnext

end outcome

end ShapeTypes
