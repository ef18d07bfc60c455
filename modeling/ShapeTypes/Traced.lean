import ShapeTypes.Failure

/-!
# Computations that leave a trace

A computation yields a result or fails, and in both cases leaves what it has put out so far.

* `Traced σ α`: the items put out, in order, and the result.
* `Traced.emit`, `Traced.fail`, `Traced.ofExcept`: one item, a failure, a computation that puts out
  nothing.
* The items of a sequence are those of its first part followed by those of its second part, which
  runs only if the first succeeds.
-/

namespace ShapeTypes

/-- A computation that puts out items of `σ` and then yields an `α` or fails. -/
structure Traced (σ α : Type) where
  /-- What was put out, in order, also by a computation that fails. -/
  trace : List σ
  /-- The result. -/
  result : Except Failure α

namespace Traced

variable {σ τ α β : Type}

/-- Runs a second computation on the result of a first one. -/
def andThen (first : Traced σ α) (next : α → Traced σ β) : Traced σ β :=
  match first.result with
  | .ok a => ⟨first.trace ++ (next a).trace, (next a).result⟩
  | .error failure => ⟨first.trace, .error failure⟩

instance : Monad (Traced σ) where
  pure a := ⟨[], .ok a⟩
  bind := andThen

/-- Fails and puts out nothing. -/
def fail (failure : Failure) : Traced σ α := ⟨[], .error failure⟩

/-- A computation that puts out nothing. -/
def ofExcept (result : Except Failure α) : Traced σ α := ⟨[], result⟩

/-- Puts out one item. -/
def emit (item : σ) : Traced σ Unit := ⟨[item], .ok ()⟩

/-- Puts out several items. -/
def emitAll (items : List σ) : Traced σ Unit := ⟨items, .ok ()⟩

/-- The same computation with every item replaced. -/
def mapTrace (f : σ → τ) (computation : Traced σ α) : Traced τ α :=
  ⟨computation.trace.map f, computation.result⟩

/-! ## Basic lemmas -/

@[simp] theorem pure_eq (a : α) : (pure a : Traced σ α) = ⟨[], .ok a⟩ := rfl

@[simp] theorem bind_ok (items : List σ) (a : α) (next : α → Traced σ β) :
    (⟨items, .ok a⟩ : Traced σ α) >>= next = ⟨items ++ (next a).trace, (next a).result⟩ := rfl

@[simp] theorem bind_error (items : List σ) (failure : Failure) (next : α → Traced σ β) :
    (⟨items, .error failure⟩ : Traced σ α) >>= next = ⟨items, .error failure⟩ := rfl

@[simp] theorem trace_emit (item : σ) : (emit item).trace = [item] := rfl

@[simp] theorem result_emit (item : σ) : (emit item).result = .ok () := rfl

@[simp] theorem trace_fail (failure : Failure) : (fail failure : Traced σ α).trace = [] := rfl

@[simp] theorem result_fail (failure : Failure) :
    (fail failure : Traced σ α).result = .error failure := rfl

end Traced

end ShapeTypes
