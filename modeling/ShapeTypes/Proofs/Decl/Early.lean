import ShapeTypes.Proofs.Decl.LastBearer

/-!
# Dropping repetitions early

Repetitions may be dropped from the first part of a list before the rest of it is there. What is
kept of the whole list in the end is the same.

* `lastBearers_append`: what is kept of a list that goes on.
* `Decl.unique_of_pairs`: what is kept of declarations whose identities are known.
* `Decl.SameKept`: the same declarations are kept of two lists. This stays true when both lists go
  on in the same way (`Decl.SameKept.append`) and when repetitions are dropped from one of them
  (`Decl.SameKept.unique_left`).
-/

namespace ShapeTypes

/-- What is kept of a list that goes on: of its first part the last bearers whose keys do not come
again, and the last bearers of the rest. -/
theorem lastBearers_append {α : Type} (xs ys : List (String × α)) :
    lastBearers (xs ++ ys) =
      (lastBearers xs).filter (fun p => p.1 ∉ ys.map Prod.fst) ++ lastBearers ys := by
  induction xs with
  | nil => rfl
  | cons p rest ih =>
      have hkeys : p.1 ∈ (rest ++ ys).map Prod.fst ↔
          p.1 ∈ rest.map Prod.fst ∨ p.1 ∈ ys.map Prod.fst := by
        rw [List.map_append, List.mem_append]
      rw [List.cons_append, lastBearers, lastBearers]
      by_cases hrest : p.1 ∈ rest.map Prod.fst
      · rw [if_pos (hkeys.mpr (Or.inl hrest)), if_pos hrest, ih]
      · rw [if_neg hrest]
        by_cases hys : p.1 ∈ ys.map Prod.fst
        · rw [if_pos (hkeys.mpr (Or.inr hys)), List.filter_cons_of_neg (by simpa using hys), ih]
        · rw [if_neg (fun h => (hkeys.mp h).elim hrest hys),
            List.filter_cons_of_pos (by simpa using hys), ih, List.cons_append]

namespace Decl

/-- What is kept of declarations whose identities are known are the last bearers of these. -/
theorem unique_of_pairs {pairs : List (String × Decl)} (h : ∀ p ∈ pairs, p.2.identity? = .ok p.1) :
    ∃ dropped, unique (pairs.map Prod.snd) = .ok ((lastBearers pairs).map Prod.snd, dropped) := by
  have hkeys : identities identity? (pairs.map Prod.snd) = .ok (pairs.map Prod.fst) := by
    rw [identities_eq_ok, List.forall₂_map_left_iff, List.forall₂_map_right_iff,
      List.forall₂_same]
    exact h
  have hzip : (pairs.map Prod.fst).zip (pairs.map Prod.snd) = pairs :=
    (List.zip_of_prod rfl rfl).symm
  refine ⟨(lastOfEach pairs).2, ?_⟩
  unfold unique
  rw [hkeys, ← fst_lastOfEach]
  show Except.ok (lastOfEach _) = _
  rw [hzip]

/-- Declarations that are named by texts have identities. -/
theorem exists_pairs_of_text {decls : List Decl} (h : ∀ decl ∈ decls, ∃ s, decl.name = .string s) :
    ∃ pairs : List (String × Decl), pairs.map Prod.snd = decls ∧
      ∀ p ∈ pairs, p.2.identity? = .ok p.1 := by
  obtain ⟨kept, dropped, hunique⟩ := exists_unique_of_text h
  obtain ⟨pairs, hdecls, hpairs, -⟩ := exists_pairs_of_unique hunique
  exact ⟨pairs, hdecls, hpairs⟩

/-- Declarations have their identities under one key only. -/
theorem eq_of_map_snd_eq {pairs pairs' : List (String × Decl)}
    (h : ∀ p ∈ pairs, p.2.identity? = .ok p.1) (h' : ∀ p ∈ pairs', p.2.identity? = .ok p.1)
    (hsnd : pairs.map Prod.snd = pairs'.map Prod.snd) : pairs = pairs' := by
  induction pairs generalizing pairs' with
  | nil => exact (List.map_eq_nil_iff.mp hsnd.symm).symm
  | cons p rest ih =>
      obtain ⟨q, rest', rfl, hq, hrest⟩ := List.map_eq_cons_iff.mp hsnd.symm
      obtain ⟨hp, hpairs⟩ := List.forall_mem_cons.mp h
      obtain ⟨hqkey, hpairs'⟩ := List.forall_mem_cons.mp h'
      rw [hq, hp] at hqkey
      rw [Prod.ext (Except.ok.inj hqkey) hq.symm, ih hpairs hpairs' hrest.symm]

/-- The same declarations are kept of the two lists. -/
def SameKept (decls others : List Decl) : Prop :=
  ∃ kept dropped dropped', unique decls = .ok (kept, dropped) ∧ unique others = .ok (kept, dropped')

namespace SameKept

variable {decls others more : List Decl}

/-- Declarations that are named by texts have the same kept as themselves. -/
theorem refl (h : ∀ decl ∈ decls, ∃ s, decl.name = .string s) : SameKept decls decls := by
  obtain ⟨kept, dropped, hunique⟩ := exists_unique_of_text h
  exact ⟨kept, dropped, dropped, hunique, hunique⟩

/-- Two lists of which the same declarations are kept may go on in the same way. -/
theorem append (h : SameKept decls others) (hmore : ∀ decl ∈ more, ∃ s, decl.name = .string s) :
    SameKept (decls ++ more) (others ++ more) := by
  obtain ⟨kept, dropped, dropped', hdecls, hothers⟩ := h
  obtain ⟨pairs, rfl, hpairs, hkept⟩ := exists_pairs_of_unique hdecls
  obtain ⟨pairs', rfl, hpairs', hkept'⟩ := exists_pairs_of_unique hothers
  obtain ⟨last, rfl, hlast⟩ := exists_pairs_of_text hmore
  -- what is kept determines the last bearers, which are all that counts for what follows
  have hbearers : lastBearers pairs = lastBearers pairs' := by
    refine eq_of_map_snd_eq ?_ ?_ (hkept.symm.trans hkept')
    · exact fun p hp => hpairs p ((lastBearers_sublist pairs).subset hp)
    · exact fun p hp => hpairs' p ((lastBearers_sublist pairs').subset hp)
  obtain ⟨first, hfirst⟩ := unique_of_pairs (List.forall_mem_append.mpr ⟨hpairs, hlast⟩)
  obtain ⟨second, hsecond⟩ := unique_of_pairs (List.forall_mem_append.mpr ⟨hpairs', hlast⟩)
  rw [List.map_append] at hfirst hsecond
  refine ⟨_, first, second, hfirst, ?_⟩
  rw [hsecond, lastBearers_append, lastBearers_append, hbearers]

/-- Repetitions may be dropped from one of the lists. -/
theorem unique_left (h : SameKept decls others) :
    ∃ kept dropped, unique decls = .ok (kept, dropped) ∧ SameKept kept others := by
  obtain ⟨kept, dropped, dropped', hdecls, hothers⟩ := h
  have hkept := kept_of_unique hdecls
  have hagain : unique kept = .ok (kept, []) :=
    unique_of_distinct (fun decl hdecl => hkept.identified decl (hkept.sublist.subset hdecl))
      hkept.distinct
  exact ⟨kept, dropped, hdecls, kept, [], dropped', hagain, hothers⟩

end SameKept

end Decl

end ShapeTypes
