import ShapeTypes.Proofs.Decl.Unique

/-!
# The last bearers of their identities

Which declarations are kept is told here by looking ahead, where the program counts.

* `Decl.IsLast`: no later declaration shares the identity of the one at a position.
* `Decl.exists_positions`: **the last bearers stand at exactly these positions**. It is an induction
  over the list, by what `Decl.IsLast` says of its first position and of the others.
* `lastOfEach_of_nodup`: what has distinct keys is kept as a whole.
* `Decl.LastOnly`, `Decl.unique_lastOnly`: **counting keeps exactly the declarations at the last
  position of their identity**, one for every identity, and keeps all of them when it is repeated.
-/

namespace ShapeTypes

/-! ## Counting distinct keys -/

/-- Nothing is dropped if no key is counted more than once. -/
theorem Tally.keepLast_of_le_one {α : Type} {tally : Tally} {items : List (String × α)}
    (h : ∀ key ∈ items.map Prod.fst, tally.get key ≤ 1) :
    tally.keepLast items = (items.map Prod.snd, []) := by
  induction items with
  | nil => rfl
  | cons p rest ih =>
      obtain ⟨key, item⟩ := p
      rw [List.map_cons, List.forall_mem_cons] at h
      rw [keepLast, if_neg (Nat.not_lt.mpr h.1), ih h.2]
      rfl

/-- What has distinct keys is kept as a whole. -/
theorem lastOfEach_of_nodup {α : Type} {items : List (String × α)}
    (h : (items.map Prod.fst).Nodup) : lastOfEach items = (items.map Prod.snd, []) := by
  apply Tally.keepLast_of_le_one
  intro key _
  rw [Tally.get_ofKeys]
  exact List.nodup_iff_count_le_one.mp h key

namespace Decl

/-! ## The last positions -/

/-- No later declaration shares the identity of the one at the position. -/
def IsLast (decls : List Decl) (i : Fin decls.length) : Prop :=
  ∀ j : Fin decls.length, i < j → (decls.get j).identity? ≠ (decls.get i).identity?

variable {decl : Decl} {decls kept : List Decl}

/-- The first position is the last of its identity if no other declaration shares it. -/
theorem isLast_zero : IsLast (decl :: decls) ⟨0, Nat.zero_lt_succ decls.length⟩ ↔
    ∀ other ∈ decls, other.identity? ≠ decl.identity? := by
  constructor
  · intro h other hother
    obtain ⟨j, rfl⟩ := List.mem_iff_get.mp hother
    exact h j.succ (Fin.succ_pos j)
  · intro h j hj
    cases j using Fin.cases with
    | zero => exact absurd hj (Nat.lt_irrefl 0)
    | succ j => exact h _ (List.get_mem decls j)

/-- A declaration in front changes nothing for the positions behind it. -/
theorem isLast_succ {i : Fin decls.length} : IsLast (decl :: decls) i.succ ↔ IsLast decls i := by
  constructor
  · intro h j hj
    exact h j.succ (Fin.succ_lt_succ_iff.mpr hj)
  · intro h j hj
    cases j using Fin.cases with
    | zero => exact absurd hj (Nat.not_lt_zero _)
    | succ j => exact h j (Fin.succ_lt_succ_iff.mp hj)

/-- The keys of a list are the identities that its declarations have. -/
theorem mem_keys_iff {pairs : List (String × Decl)} (h : ∀ p ∈ pairs, p.2.identity? = .ok p.1)
    {key : String} : key ∈ pairs.map Prod.fst ↔
      ∃ other ∈ pairs.map Prod.snd, other.identity? = .ok key := by
  constructor
  · intro hkey
    obtain ⟨p, hp, rfl⟩ := List.mem_map.mp hkey
    exact ⟨p.2, List.mem_map_of_mem hp, h p hp⟩
  · rintro ⟨other, hother, hidentity⟩
    obtain ⟨p, hp, rfl⟩ := List.mem_map.mp hother
    rw [h p hp] at hidentity
    cases hidentity
    exact List.mem_map_of_mem hp

/-- **The last bearers stand at the last positions of their identities.** -/
theorem exists_positions {pairs : List (String × Decl)} (h : ∀ p ∈ pairs, p.2.identity? = .ok p.1) :
    ∃ positions : List (Fin (pairs.map Prod.snd).length),
      positions.Pairwise (· < ·) ∧
      (∀ i, i ∈ positions ↔ IsLast (pairs.map Prod.snd) i) ∧
      (lastBearers pairs).map Prod.snd = positions.map (pairs.map Prod.snd).get := by
  induction pairs with
  | nil => exact ⟨[], List.Pairwise.nil, fun i => i.elim0, rfl⟩
  | cons p rest ih =>
      obtain ⟨hp, hrest⟩ := List.forall_mem_cons.mp h
      obtain ⟨positions, hordered, hmem, hbearers⟩ := ih hrest
      have hbehind : (positions.map Fin.succ).Pairwise (· < ·) :=
        hordered.map Fin.succ fun i j hij => Fin.succ_lt_succ_iff.mpr hij
      have hsucc (i : Fin (rest.map Prod.snd).length) :
          i.succ ∈ positions.map Fin.succ ↔ IsLast (p.2 :: rest.map Prod.snd) i.succ := by
        rw [isLast_succ, ← hmem i]
        simp
      have hzero : IsLast (p.2 :: rest.map Prod.snd) ⟨0, Nat.zero_lt_succ _⟩ ↔
          p.1 ∉ rest.map Prod.fst := by
        rw [isLast_zero, mem_keys_iff hrest, hp]
        simp
      rw [lastBearers]
      by_cases hkey : p.1 ∈ rest.map Prod.fst
      · -- another bearer is to come: the first position is not a last one
        refine ⟨positions.map Fin.succ, hbehind, ?_, ?_⟩
        · intro i
          cases i using Fin.cases with
          | zero =>
              refine iff_of_false ?_ fun hlast => hzero.mp hlast hkey
              intro hfirst
              obtain ⟨j, -, hj⟩ := List.mem_map.mp hfirst
              exact Fin.succ_ne_zero j hj
          | succ i => exact hsucc i
        · rw [if_pos hkey, hbearers, List.map_map]
          rfl
      · refine ⟨⟨0, Nat.zero_lt_succ _⟩ :: positions.map Fin.succ, ?_, ?_, ?_⟩
        · refine List.Pairwise.cons ?_ hbehind
          intro i hi
          obtain ⟨j, -, rfl⟩ := List.mem_map.mp hi
          exact Fin.succ_pos j
        · intro i
          cases i using Fin.cases with
          | zero => exact iff_of_true List.mem_cons_self (hzero.mpr hkey)
          | succ i =>
              rw [List.mem_cons]
              refine Iff.trans ⟨fun h => ?_, Or.inr⟩ (hsucc i)
              exact h.resolve_left (Fin.succ_ne_zero i)
        · rw [if_neg hkey, List.map_cons, List.map_cons, List.map_map, hbearers]
          rfl

/-- Every identity has a last bearer. -/
theorem exists_last (h : decl ∈ decls) : ∃ before last after, decls = before ++ last :: after ∧
    last.identity? = decl.identity? ∧ ∀ other ∈ after, other.identity? ≠ last.identity? := by
  induction decls generalizing decl with
  | nil => cases h
  | cons first rest ih =>
      by_cases hlater : ∃ other ∈ rest, other.identity? = decl.identity?
      · obtain ⟨other, hother, hsame⟩ := hlater
        obtain ⟨before, last, after, rfl, hlast, hafter⟩ := ih hother
        exact ⟨first :: before, last, after, rfl, hlast.trans hsame, hafter⟩
      · have hfirst : decl = first :=
          (List.mem_cons.mp h).resolve_right fun hrest => hlater ⟨decl, hrest, rfl⟩
        subst hfirst
        exact ⟨[], decl, rest, rfl, rfl, fun other hother hsame => hlater ⟨other, hother, hsame⟩⟩

/-! ## What is kept -/

/-- Declarations with distinct identities are all kept. -/
theorem unique_of_distinct (hidentified : ∀ decl ∈ decls, ∃ key, decl.identity? = .ok key)
    (hdistinct : decls.Pairwise fun decl other => decl.identity? ≠ other.identity?) :
    unique decls = .ok (decls, []) := by
  obtain ⟨keys, hrelated⟩ := List.exists_forall₂ hidentified
  have hkeys := identities_eq_ok.mpr hrelated
  obtain ⟨hsnd, hpairs⟩ := zip_of_identities hkeys
  have hnodup : ((keys.zip decls).map Prod.fst).Nodup := by
    rw [← hsnd, List.pairwise_map] at hdistinct
    refine List.pairwise_map.mpr (hdistinct.imp_of_mem ?_)
    intro p q hp hq hne heq
    apply hne
    rw [hpairs p hp, hpairs q hq, heq]
  unfold unique
  rw [hkeys]
  show Except.ok (lastOfEach (keys.zip decls)) = .ok (decls, [])
  rw [lastOfEach_of_nodup hnodup, hsnd]

/-- What is kept of some declarations are those at the last position of their identity. -/
structure LastOnly (kept decls : List Decl) : Prop where
  /-- The declarations that are kept are those at the last positions, in the old order. -/
  positions : ∃ positions : List (Fin decls.length), positions.Pairwise (· < ·) ∧
    (∀ i, i ∈ positions ↔ IsLast decls i) ∧ kept = positions.map decls.get
  /-- No two of them share an identity. -/
  distinct : kept.Pairwise fun decl other => decl.identity? ≠ other.identity?
  /-- Every identity is kept exactly once, with its last bearer. -/
  bearer : ∀ decl ∈ decls, ∃ before last after, decls = before ++ last :: after ∧
    last.identity? = decl.identity? ∧ (∀ other ∈ after, other.identity? ≠ last.identity?) ∧
    ∃ left right, kept = left ++ last :: right ∧
      ∀ other ∈ left ++ right, other.identity? ≠ last.identity?

/-- What is kept are the declarations at the last position of their identity. -/
theorem lastOnly_of_unique {dropped : List String} (h : unique decls = .ok (kept, dropped)) :
    LastOnly kept decls := by
  have hkept := kept_of_unique h
  refine ⟨?_, hkept.distinct, ?_⟩
  · obtain ⟨pairs, rfl, hpairs, rfl⟩ := exists_pairs_of_unique h
    exact exists_positions hpairs
  · intro decl hdecl
    obtain ⟨before, last, after, rfl, hlast, hafter⟩ := exists_last hdecl
    obtain ⟨left, right, rfl⟩ := List.append_of_mem (mem_kept_of_last h hafter)
    refine ⟨before, last, after, rfl, hlast, hafter, left, right, rfl, ?_⟩
    have hdistinct := hkept.distinct
    rw [List.pairwise_append, List.pairwise_cons] at hdistinct
    obtain ⟨-, ⟨hright, -⟩, hleft⟩ := hdistinct
    intro other hother
    rcases List.mem_append.mp hother with hmem | hmem
    · exact hleft other hmem last List.mem_cons_self
    · exact Ne.symm (hright other hmem)

/-- **Of declarations that are named by texts exactly those at the last position of their identity
are kept**, in the old order, and of these all are kept. -/
theorem unique_lastOnly (h : ∀ decl ∈ decls, ∃ s, decl.name = .string s) :
    ∃ kept dropped, unique decls = .ok (kept, dropped) ∧ LastOnly kept decls ∧
      unique kept = .ok (kept, []) := by
  obtain ⟨kept, dropped, hunique⟩ := exists_unique_of_text h
  have hkept := kept_of_unique hunique
  refine ⟨kept, dropped, hunique, lastOnly_of_unique hunique, ?_⟩
  apply unique_of_distinct _ hkept.distinct
  intro decl hdecl
  exact hkept.identified decl (hkept.sublist.subset hdecl)

/-- Declarations of pages and of their authors, some of them repeated. -/
def pages : List Decl :=
  [⟨.string "Page", ["T"], .bare⟩, .record (.string "Author") [], ⟨.string "Page", [], .bare⟩,
    ⟨.string "Page", ["T"], .record []⟩, .record (.string "Page") [],
    .synonym (.string "Author") .null]

/-- Of the pages those at the last three positions are kept, each after an earlier bearer. -/
theorem unique_pages : (∀ decl ∈ pages, ∃ s, decl.name = .string s) ∧
    unique pages = .ok (pages.drop 3, ["Page|T", "Author", "Page"]) ∧
    LastOnly (pages.drop 3) pages ∧ unique (pages.drop 3) = .ok (pages.drop 3, []) := by
  have hnames : ∀ decl ∈ pages, ∃ s, decl.name = .string s := by
    simp [pages, record, synonym]
  have hpages : unique pages = .ok (pages.drop 3, ["Page|T", "Author", "Page"]) := by rfl
  obtain ⟨kept, dropped, hunique, hlast, hagain⟩ := unique_lastOnly hnames
  rw [hpages] at hunique
  cases hunique
  exact ⟨hnames, hpages, hlast, hagain⟩

end Decl

end ShapeTypes
