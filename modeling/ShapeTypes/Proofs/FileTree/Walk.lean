import ShapeTypes.FileTree.Write
import ShapeTypes.Proofs.FileTree.Entry

/-!
# Where ordinary paths lead

* `Path.IsOrdinary`: steps that lead downwards by names that a file system takes.
* `FileTree.walk_of_some`, `FileTree.walk_of_none`: **an ordinary path leads to the place with its
  steps if something stands there**, and nowhere if not; then something is missing on the way, or a
  file stands there.
* `FileTree.exists?_eq`, `FileTree.leadsToDirectory_iff`: so it can be told what stands there.
-/

namespace ShapeTypes

namespace Path

/-- Steps that lead downwards by names that a file system takes. -/
structure IsOrdinary (steps : List String) : Prop where
  /-- No step leads upwards. -/
  downwards : upwards ∉ steps
  /-- No name holds the null character. -/
  plain : ∀ step ∈ steps, holdsNull step = false
  /-- No name is too long. -/
  short : ∀ step ∈ steps, step.utf8ByteSize ≤ nameLimit
  /-- The whole path is not too long. -/
  size : size steps ≤ sizeLimit

instance (steps : List String) : Decidable (IsOrdinary steps) :=
  decidable_of_iff (upwards ∉ steps ∧ (∀ step ∈ steps, holdsNull step = false) ∧
      (∀ step ∈ steps, step.utf8ByteSize ≤ nameLimit) ∧ Path.size steps ≤ sizeLimit)
    ⟨fun ⟨hdownwards, hplain, hshort, hsize⟩ => ⟨hdownwards, hplain, hshort, hsize⟩,
      fun h => ⟨h.downwards, h.plain, h.short, h.size⟩⟩

/-- The size of a path adds up over its steps. -/
theorem size_append (steps more : List String) : size (steps ++ more) = size steps + size more := by
  induction steps with
  | nil => rw [List.nil_append, size, size, List.foldr_nil, Nat.zero_add]
  | cons step rest ih =>
      unfold size at ih ⊢
      rw [List.cons_append, List.foldr_cons, List.foldr_cons, ih]
      omega

/-- The first steps of an ordinary path are one. -/
theorem IsOrdinary.left {steps more : List String} (h : IsOrdinary (steps ++ more)) :
    IsOrdinary steps := by
  obtain ⟨hdownwards, hplain, hshort, hsize⟩ := h
  rw [List.mem_append, not_or] at hdownwards
  rw [List.forall_mem_append] at hplain hshort
  rw [size_append] at hsize
  exact ⟨hdownwards.1, hplain.1, hshort.1, Nat.le_trans (Nat.le_add_right _ _) hsize⟩

/-- Nothing is wrong with an ordinary path in itself. -/
theorem IsOrdinary.flaw?_eq_none {steps : List String} (h : IsOrdinary steps) :
    flaw? steps = none := by
  have hnull : steps.any holdsNull = false := by
    rw [List.any_eq_false]
    intro step hstep
    rw [h.plain step hstep]
    exact Bool.false_ne_true
  rw [flaw?, hnull, if_neg Bool.false_ne_true, if_neg (Nat.not_lt.mpr h.size)]

end Path

namespace FileTree

variable {tree : FileTree} {here : Place} {steps : List String}

/-- On the way from a place to another one stands a file. -/
def Blocked (tree : FileTree) (place : Place) : Prop :=
  ∃ way bytes, way <+: place ∧ tree.entryAt? way = some (.file bytes)

/-- Steps down to something lead there. -/
theorem walkFrom_of_some (hdownwards : Path.upwards ∉ steps)
    (hshort : ∀ step ∈ steps, step.utf8ByteSize ≤ Path.nameLimit)
    (h : tree.entryAt? (here ++ steps) ≠ none) :
    tree.walkFrom here steps = .ok (here ++ steps) := by
  induction steps generalizing here with
  | nil => rw [walkFrom, List.append_nil]
  | cons step rest ih =>
      have hdirectory := entryAt?_of_append (List.cons_ne_nil step rest) h
      obtain ⟨children, hhere⟩ := entryAt?_eq_directory.mp hdirectory
      rw [List.mem_cons, not_or] at hdownwards
      obtain ⟨hstep, hrest⟩ := List.forall_mem_cons.mp hshort
      have happend : here ++ step :: rest = here ++ [step] ++ rest := by simp
      rw [happend] at h ⊢
      cases hlookup : children.lookup step with
      | none =>
          have hnone : tree.get? (here ++ [step] ++ rest) = none := by
            rw [get?_append, get?_concat hhere, hlookup, Option.bind_none]
          exact absurd (entryAt?_eq_none.mpr hnone) h
      | some child =>
          rw [walkFrom, hhere]
          dsimp only
          rw [if_neg (Ne.symm hdownwards.1), if_neg (Nat.not_lt.mpr hstep), hlookup]
          exact ih hdownwards.2 hrest h

/-- Steps down to nothing lead nowhere, since something is missing or a file stands on the way. -/
theorem walkFrom_of_none (hdownwards : Path.upwards ∉ steps)
    (hshort : ∀ step ∈ steps, step.utf8ByteSize ≤ Path.nameLimit)
    (hhere : tree.entryAt? here ≠ none) (h : tree.entryAt? (here ++ steps) = none) :
    tree.walkFrom here steps = .error .missing ∨
      tree.walkFrom here steps = .error .throughFile ∧ tree.Blocked (here ++ steps) := by
  induction steps generalizing here with
  | nil =>
      rw [List.append_nil] at h
      exact absurd h hhere
  | cons step rest ih =>
      rw [List.mem_cons, not_or] at hdownwards
      obtain ⟨hstep, hrest⟩ := List.forall_mem_cons.mp hshort
      have happend : here ++ step :: rest = here ++ [step] ++ rest := by simp
      rw [walkFrom]
      cases hfound : tree.get? here with
      | none => exact absurd (entryAt?_eq_none.mpr hfound) hhere
      | some found =>
          cases found with
          | file bytes =>
              refine Or.inr ⟨rfl, here, bytes, List.prefix_append here _, ?_⟩
              rw [entryAt?, hfound]
              rfl
          | directory children =>
              dsimp only
              rw [if_neg (Ne.symm hdownwards.1), if_neg (Nat.not_lt.mpr hstep)]
              cases hlookup : children.lookup step with
              | none => exact Or.inl rfl
              | some child =>
                  rw [happend] at h ⊢
                  refine ih hdownwards.2 hrest ?_ h
                  rw [Ne, entryAt?_eq_none, get?_concat hfound, hlookup]
                  exact Option.some_ne_none child

/-- The root stands at its place. -/
theorem entryAt?_nil_ne_none (tree : FileTree) : tree.entryAt? [] ≠ none := by
  rw [Ne, entryAt?_eq_none, get?_nil]
  exact Option.some_ne_none tree

/-- An ordinary path to something leads there. -/
theorem walk_of_some {entry : Entry} (hsteps : Path.IsOrdinary steps)
    (h : tree.entryAt? steps = some entry) : tree.walk steps = .ok steps := by
  have hthere : tree.entryAt? ([] ++ steps) ≠ none := by
    rw [List.nil_append, h]
    exact Option.some_ne_none entry
  rw [walk, hsteps.flaw?_eq_none]
  exact walkFrom_of_some hsteps.downwards hsteps.short hthere

/-- An ordinary path to nothing leads nowhere, since something is missing or a file stands on the
way. -/
theorem walk_of_none (hsteps : Path.IsOrdinary steps) (h : tree.entryAt? steps = none) :
    tree.walk steps = .error .missing ∨
      tree.walk steps = .error .throughFile ∧ tree.Blocked steps := by
  rw [walk, hsteps.flaw?_eq_none]
  exact walkFrom_of_none hsteps.downwards hsteps.short (entryAt?_nil_ne_none tree) h

/-- Whether something stands at an ordinary path is told without failure. -/
theorem exists?_eq (hsteps : Path.IsOrdinary steps) :
    tree.exists? steps = .ok (tree.entryAt? steps).isSome := by
  cases h : tree.entryAt? steps with
  | none =>
      rcases walk_of_none hsteps h with hwalk | ⟨hwalk, -⟩
      · rw [exists?, hwalk]
        rfl
      · rw [exists?, hwalk]
        rfl
  | some entry =>
      rw [exists?, walk_of_some hsteps h]
      rfl

/-- An ordinary path leads to a directory if one stands at its place. -/
theorem leadsToDirectory_iff (hsteps : Path.IsOrdinary steps) :
    tree.leadsToDirectory steps = true ↔ tree.entryAt? steps = some .directory := by
  rw [leadsToDirectory, find?]
  cases h : tree.entryAt? steps with
  | none => rcases walk_of_none hsteps h with hwalk | ⟨hwalk, -⟩ <;> simp [hwalk]
  | some entry =>
      rw [walk_of_some hsteps h]
      obtain ⟨found, hfound, rfl⟩ := Option.map_eq_some_iff.mp h
      dsimp only
      rw [hfound]
      cases found <;> simp [isDirectory, FileTree.entry]

end FileTree

end ShapeTypes
