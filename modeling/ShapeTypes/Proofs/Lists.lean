import Mathlib.Data.List.Forall2

/-!
# Lists

General facts about lists, none of which mentions shapes or declarations.

* `List.findSome?_flatMap`: the first find in a list of lists.
* `List.mapM_cons_eq_some`, `List.mapM_mono`, `List.mapM_concat`: answers for all items of a list.
* `List.exists_forall₂`, `List.Forall₂.exists_of_mem_left`, `List.Forall₂.exists_of_mem_right`,
  `List.Forall₂.map_eq_map`: lists that are related item by item.
* `List.splitOn_intercalate_eq_flatMap`, `List.eq_of_flatMap_splitOn`: what can be read back from
  joined lists, and what determines them.
-/

namespace List

/-- The first find in a list of lists is that of the first list with one. -/
theorem findSome?_flatMap {α β γ : Type} (f : β → Option γ) (g : α → List β) (xs : List α) :
    (xs.flatMap g).findSome? f = xs.findSome? fun x => (g x).findSome? f := by
  simp only [← List.head?_filterMap, List.filterMap_flatMap, List.head?_flatMap]

/-! ## Answers for all items -/

section answers

variable {α β : Type} {f g : α → Option β}

/-- All items of a list are answered if the first one and all others are. -/
theorem mapM_cons_eq_some {x : α} {rest : List α} {ys : List β} :
    (x :: rest).mapM f = some ys ↔
      ∃ y tail, f x = some y ∧ rest.mapM f = some tail ∧ ys = y :: tail := by
  simp only [List.mapM_cons, Option.bind_eq_bind, Option.bind_eq_some_iff, Option.pure_def,
    Option.some.injEq]
  constructor
  · rintro ⟨y, hy, tail, htail, rfl⟩
    exact ⟨y, tail, hy, htail, rfl⟩
  · rintro ⟨y, tail, hy, htail, rfl⟩
    exact ⟨y, hy, tail, htail, rfl⟩

/-- The answers stay the same under a function that answers whatever another one does. -/
theorem mapM_mono (hfg : ∀ x y, f x = some y → g x = some y) {xs : List α} {ys : List β}
    (h : xs.mapM f = some ys) : xs.mapM g = some ys := by
  induction xs generalizing ys with
  | nil => exact h
  | cons x rest ih =>
      obtain ⟨y, tail, hy, htail, rfl⟩ := mapM_cons_eq_some.mp h
      exact mapM_cons_eq_some.mpr ⟨y, tail, hfg x y hy, ih htail, rfl⟩

/-- One more item with an answer adds that answer. -/
theorem mapM_concat {xs : List α} {ys : List β} (h : xs.mapM f = some ys) {x : α} {y : β}
    (hx : f x = some y) : (xs ++ [x]).mapM f = some (ys ++ [y]) := by
  have hone : [x].mapM f = some [y] := mapM_cons_eq_some.mpr ⟨y, [], hx, rfl, rfl⟩
  rw [List.mapM_append, h, hone]
  rfl

end answers

/-! ## Lists that are related item by item -/

section related

variable {α β : Type} {R : α → β → Prop}

/-- If every item is related to something, the list is related to a list item by item. -/
theorem exists_forall₂ {xs : List α} (h : ∀ x ∈ xs, ∃ y, R x y) : ∃ ys, List.Forall₂ R xs ys := by
  induction xs with
  | nil => exact ⟨[], List.Forall₂.nil⟩
  | cons x rest ih =>
      obtain ⟨⟨y, hy⟩, hrest⟩ := List.forall_mem_cons.mp h
      obtain ⟨ys, hys⟩ := ih hrest
      exact ⟨y :: ys, List.Forall₂.cons hy hys⟩

/-- What stands in the second of two related lists is related to something in the first. -/
theorem Forall₂.exists_of_mem_right {xs : List α} {ys : List β} (h : List.Forall₂ R xs ys) {y : β}
    (hy : y ∈ ys) : ∃ x ∈ xs, R x y := by
  induction h with
  | nil => cases hy
  | cons hxy _ ih =>
      rcases List.mem_cons.mp hy with rfl | hrest
      · exact ⟨_, List.mem_cons_self, hxy⟩
      · obtain ⟨x, hx, hr⟩ := ih hrest
        exact ⟨x, List.mem_cons_of_mem _ hx, hr⟩

/-- What stands in the first of two related lists is related to something in the second. -/
theorem Forall₂.exists_of_mem_left {xs : List α} {ys : List β} (h : List.Forall₂ R xs ys) {x : α}
    (hx : x ∈ xs) : ∃ y ∈ ys, R x y :=
  h.flip.exists_of_mem_right hx

/-- Two lists that are related to the same list look alike if any two items that are related to the
same thing do. -/
theorem Forall₂.map_eq_map {γ : Type} {f : α → γ} {xs xs' : List α} {ys : List β}
    (h : List.Forall₂ R xs ys) (h' : List.Forall₂ R xs' ys)
    (hf : ∀ x ∈ xs, ∀ x' ∈ xs', ∀ y, R x y → R x' y → f x = f x') : xs.map f = xs'.map f := by
  induction h generalizing xs' with
  | nil =>
      cases h'
      rfl
  | @cons x y rest _ hxy _ ih =>
      cases h' with
      | @cons x' _ rest' _ hxy' hrest' =>
          have hhead := hf x List.mem_cons_self x' List.mem_cons_self y hxy hxy'
          have htail := ih hrest' fun z hz z' hz' =>
            hf z (List.mem_cons_of_mem x hz) z' (List.mem_cons_of_mem x' hz')
          rw [List.map_cons, List.map_cons, hhead, htail]

end related

/-! ## Joined lists -/

section joined

variable {α : Type} [DecidableEq α] {x : α} {parts others : List (List α)}

/-- What falls apart into the same parts is the same. -/
theorem eq_of_splitOn_eq {xs ys : List α} (h : xs.splitOn x = ys.splitOn x) : xs = ys := by
  have hjoined := congrArg [x].intercalate h
  rwa [List.intercalate_splitOn, List.intercalate_splitOn] at hjoined

/-- Joined parts fall apart at every separator, also at those within the parts. -/
theorem splitOn_intercalate_eq_flatMap (h : parts ≠ []) :
    ([x].intercalate parts).splitOn x = parts.flatMap (List.splitOn x) := by
  induction parts with
  | nil => contradiction
  | cons part rest ih =>
      cases rest with
      | nil => simp
      | cons next rest =>
          rw [List.intercalate_cons_cons, List.append_assoc, List.singleton_append,
            List.splitOn_append_cons_self, ih (List.cons_ne_nil next rest)]
          rfl

/-- Parts are joined to the same if they fall apart into the same. -/
theorem intercalate_eq_iff (h : parts ≠ []) (h' : others ≠ []) :
    [x].intercalate parts = [x].intercalate others ↔
      parts.flatMap (List.splitOn x) = others.flatMap (List.splitOn x) := by
  rw [← splitOn_intercalate_eq_flatMap h, ← splitOn_intercalate_eq_flatMap h']
  exact ⟨fun hsame => by rw [hsame], eq_of_splitOn_eq⟩

/-- Parts without separators are what they fall apart into. -/
theorem flatMap_splitOn_of_not_mem (h : ∀ part ∈ parts, x ∉ part) :
    parts.flatMap (List.splitOn x) = parts := by
  by_cases hparts : parts = []
  · rw [hparts, List.flatMap_nil]
  · rw [← splitOn_intercalate_eq_flatMap hparts, List.splitOn_intercalate x h hparts]

/-- A list falls apart into one part more than it has separators. -/
theorem length_splitOn (x : α) (xs : List α) : (xs.splitOn x).length = xs.count x + 1 := by
  induction xs with
  | nil => rfl
  | cons y rest ih =>
      rw [List.splitOn_cons_eq_if_modifyHead]
      by_cases h : y = x
      · simp [h, ih]
      · simp [h, ih]

/-- The parts are determined by what they fall apart into and by the number of separators in each
of them. -/
theorem eq_of_flatMap_splitOn
    (hpieces : parts.flatMap (List.splitOn x) = others.flatMap (List.splitOn x))
    (hcounts : parts.map (List.count x) = others.map (List.count x)) : parts = others := by
  induction parts generalizing others with
  | nil => exact (List.map_eq_nil_iff.mp hcounts.symm).symm
  | cons part rest ih =>
      obtain ⟨other, others, rfl, hcount, hrest⟩ := List.map_eq_cons_iff.mp hcounts.symm
      rw [List.flatMap_cons, List.flatMap_cons] at hpieces
      have hlength : (part.splitOn x).length = (other.splitOn x).length := by
        rw [length_splitOn, length_splitOn, hcount]
      obtain ⟨hpart, hpieces⟩ := List.append_inj hpieces hlength
      rw [eq_of_splitOn_eq hpart, ih hpieces hrest.symm]

end joined

end List
