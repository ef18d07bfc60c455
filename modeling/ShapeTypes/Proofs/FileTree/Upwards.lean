import Mathlib.Data.List.Induction
import ShapeTypes.Proofs.FileTree.Walk

/-!
# Where paths with upward steps lead

* `FileTree.walkFrom_cons`, `FileTree.walkFrom_cons_eq_ok`: one step, in terms of what stands at
  places. Where directories are made a path is split at its last step instead.
* `FileTree.eq_simplify_of_walkFrom`: **a path that leads somewhere leads to the place that its
  steps come to when they are taken together**.
* `FileTree.BlockedAlong`: a file stands where some first steps of a path come to.
  `FileTree.walkFrom_of_free`: a path leads somewhere or to nothing, or a name in it is too long, if
  no file stands on the way to its last step.
* `FileTree.exists_upwards_of_walk`: **a path that leads to nothing, although something stands where
  its steps come to, steps upwards from something missing**.
-/

namespace ShapeTypes

namespace Path

/-- The place of a path is reached from the place of its first steps. -/
theorem simplify_append (here : Place) (front rest : List String) :
    simplify here (front ++ rest) = simplify (simplify here front) rest := by
  induction front generalizing here with
  | nil => rfl
  | cons step front ih =>
      rw [List.cons_append, simplify, simplify]
      split
      · exact ih here.dropLast
      · exact ih (here ++ [step])

/-- The place behind one step. -/
theorem simplify_singleton (here : Place) (step : String) :
    simplify here [step] = if step = upwards then here.dropLast else here ++ [step] := rfl

/-- If nothing is wrong with a path, nothing is wrong with its first steps. -/
theorem flaw?_left {front rest : List String} (h : flaw? (front ++ rest) = none) :
    flaw? front = none := by
  unfold flaw? at h ⊢
  rw [List.any_append, size_append] at h
  cases hnull : front.any holdsNull with
  | true =>
      rw [hnull] at h
      cases h
  | false =>
      rw [if_neg Bool.false_ne_true, if_neg]
      intro hsize
      rw [hnull, Bool.false_or] at h
      split at h
      · cases h
      · rw [if_pos (by omega)] at h
        cases h

/-- What is wrong with a path is a null character or its length. -/
theorem flaw?_cases {steps : List String} {obstacle : Obstacle} (h : flaw? steps = some obstacle) :
    (obstacle = .nullCharacter ∧ steps.any holdsNull = true) ∨ obstacle = .tooLong := by
  rw [flaw?] at h
  split at h
  · rename_i hnull
    cases h
    exact Or.inl ⟨rfl, hnull⟩
  · split at h
    · cases h
      exact Or.inr rfl
    · cases h

/-- With nothing wrong in a path no step holds a null character. -/
theorem holdsNull_of_flaw?_eq_none {steps : List String} (h : flaw? steps = none) :
    ∀ step ∈ steps, holdsNull step = false := by
  rw [flaw?] at h
  split at h
  · cases h
  · rename_i hnull
    intro step hstep
    by_contra hholds
    exact hnull (List.any_eq_true.mpr ⟨step, hstep, by simpa using hholds⟩)

end Path

namespace FileTree

variable {tree : FileTree} {here place way : Place} {front steps : List String} {step name : String}

/-- One step leads upwards, or to a child of a directory. -/
theorem walkFrom_cons (tree : FileTree) (here : Place) (step : String) (rest : List String) :
    tree.walkFrom here (step :: rest) =
      match tree.entryAt? here with
      | some .directory =>
        if step = Path.upwards then tree.walkFrom here.dropLast rest
        else if Path.nameLimit < step.utf8ByteSize then .error .tooLong
        else if (tree.entryAt? (here ++ [step])).isSome then tree.walkFrom (here ++ [step]) rest
        else .error .missing
      | some (.file _) => .error .throughFile
      | none => .error .missing := by
  rw [walkFrom, entryAt?]
  cases hhere : tree.get? here with
  | none => rfl
  | some found =>
      cases found with
      | file bytes => rfl
      | directory children =>
          rw [entryAt?, get?_concat hhere]
          show (if step = Path.upwards then _ else _) = (if step = Path.upwards then _ else _)
          cases children.lookup step <;> rfl

/-- **A path leads somewhere if its first step leads from a directory upwards, or to something by a
name that is not too long**, and the others on from there. -/
theorem walkFrom_cons_eq_ok {rest : List String} :
    tree.walkFrom here (step :: rest) = .ok place ↔
      tree.entryAt? here = some .directory ∧
        (step = Path.upwards ∧ tree.walkFrom here.dropLast rest = .ok place ∨
        step ≠ Path.upwards ∧ step.utf8ByteSize ≤ Path.nameLimit ∧
          tree.entryAt? (here ++ [step]) ≠ none ∧
          tree.walkFrom (here ++ [step]) rest = .ok place) := by
  rw [walkFrom_cons]
  cases tree.entryAt? here with
  | none => simp
  | some entry =>
      cases entry with
      | file bytes => simp
      | directory =>
          dsimp only
          by_cases hstep : step = Path.upwards
          · simp [hstep]
          · by_cases hshort : step.utf8ByteSize ≤ Path.nameLimit
            · rw [if_neg hstep, if_neg (Nat.not_lt.mpr hshort)]
              cases tree.entryAt? (here ++ [step]) <;> simp [hstep, hshort]
            · rw [if_neg hstep, if_pos (Nat.not_le.mp hshort)]
              simp [hstep, hshort]

/-- More steps go on from where the first ones lead; if these lead nowhere, so do all. -/
theorem walkFrom_append (tree : FileTree) (here : Place) (front rest : List String) :
    tree.walkFrom here (front ++ rest) =
      tree.walkFrom here front >>= fun place => tree.walkFrom place rest := by
  induction front generalizing here with
  | nil => rfl
  | cons step front ih =>
      rw [List.cons_append, walkFrom_cons, walkFrom_cons]
      split
      · split
        · exact ih here.dropLast
        · split
          · rfl
          · split
            · exact ih (here ++ [step])
            · rfl
      · rfl
      · rfl

/-- **A path leads to the place that its steps come to**, if it leads anywhere. -/
theorem eq_simplify_of_walkFrom (h : tree.walkFrom here steps = .ok place) :
    place = Path.simplify here steps := by
  induction steps generalizing here with
  | nil => exact (Except.ok.inj h).symm
  | cons step rest ih =>
      rw [Path.simplify]
      obtain ⟨-, ⟨hstep, hrest⟩ | ⟨hstep, -, -, hrest⟩⟩ := walkFrom_cons_eq_ok.mp h
      · rw [if_pos hstep]
        exact ih hrest
      · rw [if_neg hstep]
        exact ih hrest

/-- A path from something leads to something. -/
theorem entryAt?_of_walkFrom (hhere : tree.entryAt? here ≠ none)
    (h : tree.walkFrom here steps = .ok place) : tree.entryAt? place ≠ none := by
  induction steps generalizing here with
  | nil =>
      cases h
      exact hhere
  | cons step rest ih =>
      obtain ⟨hdirectory, ⟨-, hrest⟩ | ⟨-, -, hthere, hrest⟩⟩ := walkFrom_cons_eq_ok.mp h
      · refine ih ?_ hrest
        rw [entryAt?_of_isPrefix here.dropLast_prefix hdirectory]
        exact Option.some_ne_none _
      · exact ih hthere hrest

/-- On the way to a directory a path leads to directories. -/
theorem exists_directory_of_walkFrom (h : tree.walkFrom here steps = .ok place)
    (hplace : tree.entryAt? place = some .directory) (hfront : front <+: steps) :
    ∃ way, tree.walkFrom here front = .ok way ∧ tree.entryAt? way = some .directory := by
  obtain ⟨rest, rfl⟩ := hfront
  rw [walkFrom_append] at h
  cases hway : tree.walkFrom here front with
  | error obstacle =>
      rw [hway] at h
      cases h
  | ok way =>
      rw [hway] at h
      refine ⟨way, rfl, ?_⟩
      cases rest with
      | nil =>
          cases h
          exact hplace
      | cons step rest =>
          change tree.walkFrom way (step :: rest) = .ok place at h
          exact (walkFrom_cons_eq_ok.mp h).1

/-! ## Files on the way -/

/-- A file stands where some first steps of a path come to. -/
def BlockedAlong (tree : FileTree) (steps : List String) : Prop :=
  ∃ front bytes, front <+: steps ∧
    tree.entryAt? (Path.simplify [] front) = some (.file bytes)

/-- A file on the way of the first steps is one on the whole way. -/
theorem BlockedAlong.mono (h : tree.BlockedAlong front) (hfront : front <+: steps) :
    tree.BlockedAlong steps := by
  obtain ⟨before, bytes, hbefore, hfile⟩ := h
  exact ⟨before, bytes, hbefore.trans hfront, hfile⟩

/-- A file stands on no way to a directory. -/
theorem not_blockedAlong_of_walkFrom (h : tree.walkFrom [] steps = .ok place)
    (hplace : tree.entryAt? place = some .directory) : ¬ tree.BlockedAlong steps := by
  rintro ⟨front, bytes, hfront, hfile⟩
  obtain ⟨way, hway, hdirectory⟩ := exists_directory_of_walkFrom h hplace hfront
  rw [← eq_simplify_of_walkFrom hway, hdirectory] at hfile
  cases hfile

/-- A path on which no file stands leads to a directory, if it leads anywhere. -/
theorem entryAt?_of_free (h : tree.walkFrom [] steps = .ok place)
    (hfree : ¬ tree.BlockedAlong steps) : tree.entryAt? place = some .directory := by
  have hthere := entryAt?_of_walkFrom (entryAt?_nil_ne_none tree) h
  cases hentry : tree.entryAt? place with
  | none => exact absurd hentry hthere
  | some entry =>
      cases entry with
      | directory => rfl
      | file bytes =>
          rw [eq_simplify_of_walkFrom h] at hentry
          exact absurd ⟨steps, bytes, List.prefix_refl steps, hentry⟩ hfree

/-- One step from a directory leads somewhere or to nothing, or its name is too long. -/
theorem walkFrom_singleton (hplace : tree.entryAt? place = some .directory) (step : String) :
    (∃ way, tree.walkFrom place [step] = .ok way) ∨
      tree.walkFrom place [step] = .error .missing ∨
      tree.walkFrom place [step] = .error .tooLong := by
  rw [walkFrom_cons, hplace]
  dsimp only
  split
  · exact Or.inl ⟨_, rfl⟩
  · split
    · exact Or.inr (Or.inr rfl)
    · split
      · exact Or.inl ⟨_, rfl⟩
      · exact Or.inr (Or.inl rfl)

/-- No name is too long where a path leads somewhere. -/
theorem short_of_walkFrom (h : tree.walkFrom here steps = .ok place) :
    ∀ step ∈ steps, step.utf8ByteSize ≤ Path.nameLimit := by
  induction steps generalizing here with
  | nil => exact List.forall_mem_nil _
  | cons step rest ih =>
      rw [List.forall_mem_cons]
      obtain ⟨-, ⟨hstep, hrest⟩ | ⟨-, hshort, -, hrest⟩⟩ := walkFrom_cons_eq_ok.mp h
      · rw [hstep]
        exact ⟨by decide, ih hrest⟩
      · exact ⟨hshort, ih hrest⟩

/-- A path without names that are too long meets none. -/
theorem walkFrom_ne_tooLong (hshort : ∀ step ∈ steps, step.utf8ByteSize ≤ Path.nameLimit) :
    tree.walkFrom here steps ≠ .error .tooLong := by
  induction steps generalizing here with
  | nil => exact nofun
  | cons step rest ih =>
      obtain ⟨hstep, hrest⟩ := List.forall_mem_cons.mp hshort
      rw [walkFrom_cons]
      split
      · split
        · exact ih hrest
        · rw [if_neg (Nat.not_lt.mpr hstep)]
          split
          · exact ih hrest
          · exact nofun
      · exact nofun
      · exact nofun

/-- **A path leads somewhere or to nothing, or a name in it is too long, if no file stands on the
way to its last step.** -/
theorem walkFrom_of_free (hfree : ¬ tree.BlockedAlong steps.dropLast) :
    (∃ place, tree.walkFrom [] steps = .ok place) ∨
      tree.walkFrom [] steps = .error .missing ∨ tree.walkFrom [] steps = .error .tooLong := by
  induction steps using List.reverseRecOn with
  | nil => exact Or.inl ⟨[], rfl⟩
  | append_singleton front step ih =>
      rw [List.dropLast_concat] at hfree
      rw [walkFrom_append]
      rcases ih fun h => hfree (h.mono front.dropLast_prefix) with ⟨place, hwalk⟩ | hmissing | hlong
      · rw [hwalk]
        exact walkFrom_singleton (entryAt?_of_free hwalk hfree) step
      · rw [hmissing]
        exact Or.inr (Or.inl rfl)
      · rw [hlong]
        exact Or.inr (Or.inr rfl)

/-- One step that leads from something to nothing comes to a place where nothing stands. -/
theorem entryAt?_of_walkFrom_singleton (hplace : tree.entryAt? place ≠ none)
    (h : tree.walkFrom place [step] = .error .missing) :
    tree.entryAt? (Path.simplify place [step]) = none := by
  rw [walkFrom_cons] at h
  rw [Path.simplify_singleton]
  split at h
  · split at h
    · cases h
    · rename_i hstep
      split at h
      · cases h
      · split at h
        · cases h
        · rename_i hnone
          rw [if_neg hstep]
          exact Option.not_isSome_iff_eq_none.mp hnone
  · cases h
  · rename_i hnone
    exact absurd hnone hplace

/-- Steps that lead to nothing, although something stands where they come to, have an upward one
behind first ones that lead to nothing. -/
theorem exists_upwards_of_missing (h : tree.walkFrom [] steps = .error .missing)
    (hthere : tree.entryAt? (Path.simplify [] steps) ≠ none) :
    ∃ front, front ++ [Path.upwards] <+: steps ∧ tree.walkFrom [] front = .error .missing := by
  induction steps using List.reverseRecOn with
  | nil => cases h
  | append_singleton front step ih =>
      rw [Path.simplify_append] at hthere
      rw [walkFrom_append] at h
      cases hfront : tree.walkFrom [] front with
      | ok place =>
          -- it would be the last step that leads to nothing
          have hplace := entryAt?_of_walkFrom (entryAt?_nil_ne_none tree) hfront
          rw [hfront] at h
          rw [← eq_simplify_of_walkFrom hfront] at hthere
          exact absurd (entryAt?_of_walkFrom_singleton hplace h) hthere
      | error obstacle =>
          rw [hfront] at h
          cases h
          by_cases hstep : step = Path.upwards
          · exact ⟨front, hstep ▸ List.prefix_refl _, hfront⟩
          · -- the step leads down, so that something stands where the first steps come to
            rw [Path.simplify_singleton, if_neg hstep] at hthere
            have hbefore := entryAt?_of_append (List.cons_ne_nil step []) hthere
            obtain ⟨way, hway, hmissing⟩ := ih hfront (by rw [hbefore]; exact Option.some_ne_none _)
            exact ⟨way, hway.trans (List.prefix_append front [step]), hmissing⟩

/-! ## Whole paths -/

/-- With nothing wrong in itself, a path leads where its steps lead from the root. -/
theorem walk_of_flaw?_eq_none (tree : FileTree) (h : Path.flaw? steps = none) :
    tree.walk steps = tree.walkFrom [] steps := by
  rw [walk, h]

/-- A path that leads somewhere has nothing wrong in itself. -/
theorem walk_eq_ok :
    tree.walk steps = .ok place ↔
      Path.flaw? steps = none ∧ tree.walkFrom [] steps = .ok place := by
  rw [walk]
  cases Path.flaw? steps <;> simp

/-- A path that leads to nothing has nothing wrong in itself. -/
theorem flaw?_of_missing {steps : List String} (h : tree.walk steps = .error .missing) :
    Path.flaw? steps = none := by
  cases hflaw : Path.flaw? steps with
  | none => rfl
  | some obstacle =>
      rw [walk, hflaw] at h
      cases h
      rcases Path.flaw?_cases hflaw with ⟨hnull, -⟩ | hlong
      · cases hnull
      · cases hlong

/-- A path that leads nowhere has a last step. -/
theorem exists_concat_of_walk {obstacle : Obstacle} {steps : List String}
    (h : tree.walk steps = .error obstacle) : ∃ front name, steps = front ++ [name] := by
  rcases List.eq_nil_or_concat steps with rfl | ⟨front, name, hsteps⟩
  · cases h
  · exact ⟨front, name, by rw [hsteps, List.concat_eq_append]⟩

/-- The steps of a path come to a child of the directory that its first steps lead to. -/
theorem simplify_of_walk (hway : tree.walk front = .ok way) (hname : name ≠ Path.upwards) :
    Path.simplify [] (front ++ [name]) = way ++ [name] := by
  rw [Path.simplify_append, ← eq_simplify_of_walkFrom (walk_eq_ok.mp hway).2,
    Path.simplify_singleton, if_neg hname]

/-- A path on which neither a file nor a null character stands in the way leads to nothing if it
leads nowhere and is short enough. -/
theorem walk_eq_missing {obstacle : Obstacle} {steps : List String}
    (hplain : ∀ step ∈ steps, Path.holdsNull step = false)
    (hfree : ¬ tree.BlockedAlong steps.dropLast) (hwalk : tree.walk steps = .error obstacle)
    (hshort : obstacle ≠ .tooLong) : tree.walk steps = .error .missing := by
  cases hflaw : Path.flaw? steps with
  | some flaw =>
      rw [walk, hflaw] at hwalk
      cases hwalk
      obtain ⟨-, hnull⟩ := (Path.flaw?_cases hflaw).resolve_right hshort
      obtain ⟨step, hstep, hholds⟩ := List.any_eq_true.mp hnull
      rw [hplain step hstep] at hholds
      cases hholds
  | none =>
      rw [walk_of_flaw?_eq_none tree hflaw] at hwalk ⊢
      rcases walkFrom_of_free hfree with ⟨place, hplace⟩ | hmissing | hlong
      · rw [hplace] at hwalk
        cases hwalk
      · exact hmissing
      · rw [hlong] at hwalk
        cases hwalk
        exact absurd rfl hshort

/-- **A path that leads to nothing, although something stands where its steps come to, steps upwards
from something missing.** -/
theorem exists_upwards_of_walk (h : tree.walk steps = .error .missing)
    (hthere : tree.entryAt? (Path.simplify [] steps) ≠ none) :
    ∃ front, front ++ [Path.upwards] <+: steps ∧ tree.walk front = .error .missing := by
  have hflaw := flaw?_of_missing h
  rw [walk_of_flaw?_eq_none tree hflaw] at h
  obtain ⟨front, ⟨rest, rfl⟩, hfront⟩ := exists_upwards_of_missing h hthere
  refine ⟨front, List.prefix_append _ rest, ?_⟩
  rw [walk_of_flaw?_eq_none tree (Path.flaw?_left (Path.flaw?_left hflaw)), hfront]

end FileTree

end ShapeTypes
