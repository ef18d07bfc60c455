import Mathlib.Data.List.Nodup
import ShapeTypes.Decl.Unique
import ShapeTypes.Proofs.Failure
import ShapeTypes.Proofs.References

/-!
# What is kept of a list with repetitions

The counting of `lastOfEach` keeps, of all items with one key, the last one.

* `lastBearers`: the items that no later item shares its key with, read off the list without
  counting; `fst_lastOfEach`: **counting keeps exactly these**.
* `lastBearers_sublist`, `nodup_keys_lastBearers`, `mem_keys_lastBearers`, `getLast?_lastBearers`:
  they stand in the old order, have distinct keys, all keys are still there, and the last item stays
  the last one.
* `mem_lastBearers_of_last`: an item without later bearers of its key is kept.
* `Decl.Kept`: what this means for declarations (`Decl.kept_of_unique`), and
  `Decl.exists_unique_of_text`: dropping repetitions succeeds on declarations named by texts.
-/

namespace ShapeTypes

namespace Tally

/-! ## Counting -/

/-- The number that a list with a first entry has for a key. -/
theorem getD_lookup_cons (key other : String) (count : Nat) (counts : List (String × Nat)) :
    (((key, count) :: counts).lookup other).getD 0 =
      if other = key then count else (counts.lookup other).getD 0 := by
  by_cases h : other = key
  · rw [List.lookup_cons, beq_iff_eq.mpr h, if_pos h]
    rfl
  · rw [List.lookup_cons, beq_eq_false_iff_ne.mpr h, if_neg h]

/-- Replacing the number of a key changes what is found under this key only. -/
theorem getD_lookup_setIn (key other : String) (count : Nat) (counts : List (String × Nat)) :
    ((setIn key count counts).lookup other).getD 0 =
      if other = key then count else (counts.lookup other).getD 0 := by
  induction counts with
  | nil => exact getD_lookup_cons key other count []
  | cons entry rest ih =>
      obtain ⟨k, n⟩ := entry
      rw [setIn]
      by_cases hk : k = key
      · subst hk
        rw [if_pos rfl, getD_lookup_cons, getD_lookup_cons]
        split <;> rfl
      · rw [if_neg hk, getD_lookup_cons, getD_lookup_cons, ih]
        by_cases ho : other = k
        · rw [if_pos ho, if_pos ho, if_neg (ho ▸ hk)]
        · rw [if_neg ho, if_neg ho]

/-- Replacing the number of a key changes the number of this key only. -/
theorem get_set (tally : Tally) (key other : String) (count : Nat) :
    (tally.set key count).get other = if other = key then count else tally.get other :=
  getD_lookup_setIn key other count tally.counts

/-- A tally that goes on over more keys adds how often each of them occurs. -/
theorem get_foldl (keys : List String) (tally : Tally) (key : String) :
    (keys.foldl (fun tally key => tally.set key (tally.get key + 1)) tally).get key =
      tally.get key + keys.count key := by
  induction keys generalizing tally with
  | nil => simp
  | cons k rest ih =>
      rw [List.foldl_cons, ih, get_set, List.count_cons]
      by_cases h : key = k
      · subst h
        simp only [if_true, beq_self_eq_true]
        omega
      · have hk : (k == key) = false := beq_eq_false_iff_ne.mpr (Ne.symm h)
        rw [if_neg h, hk]
        simp

/-- The tally of some keys counts how often each of them occurs. -/
theorem get_ofKeys (keys : List String) (key : String) :
    (ofKeys keys).get key = keys.count key := by
  rw [ofKeys, get_foldl]
  simp [get]

end Tally

/-! ## The last bearers -/

variable {α : Type}

/-- The items that no later item shares its key with. -/
def lastBearers : List (String × α) → List (String × α)
  | [] => []
  | p :: rest => if p.1 ∈ rest.map Prod.fst then lastBearers rest else p :: lastBearers rest

/-- The second pass keeps the last bearers if the tally counts the keys that are to come. -/
theorem Tally.fst_keepLast {items : List (String × α)} {tally : Tally}
    (h : ∀ key ∈ items.map Prod.fst, tally.get key = (items.map Prod.fst).count key) :
    (tally.keepLast items).1 = (lastBearers items).map Prod.snd := by
  induction items generalizing tally with
  | nil => rfl
  | cons p rest ih =>
      obtain ⟨key, item⟩ := p
      have hkey : tally.get key = (rest.map Prod.fst).count key + 1 := by
        rw [h key List.mem_cons_self, List.map_cons, List.count_cons_self]
      rw [Tally.keepLast, lastBearers]
      by_cases hmem : key ∈ rest.map Prod.fst
      · -- another bearer is to come: this one is dropped, and the tally counts the rest again
        have hpos := List.count_pos_iff.mpr hmem
        rw [if_pos (by omega), if_pos hmem]
        refine ih fun other hother => ?_
        rw [Tally.get_set]
        split
        · rename_i heq
          rw [heq]
          omega
        · rename_i hne
          rw [h other (List.mem_cons_of_mem key hother), List.map_cons,
            List.count_cons_of_ne (Ne.symm hne)]
      · -- the last bearer is kept; its key is not looked up again
        have hzero := List.count_eq_zero.mpr hmem
        rw [if_neg (by omega), if_neg hmem, List.map_cons]
        refine congrArg (item :: ·) (ih fun other hother => ?_)
        have hne : key ≠ other := fun heq => hmem (heq ▸ hother)
        rw [h other (List.mem_cons_of_mem key hother), List.map_cons, List.count_cons_of_ne hne]

/-- Counting keeps the last bearer of every key. -/
theorem fst_lastOfEach (items : List (String × α)) :
    (lastOfEach items).1 = (lastBearers items).map Prod.snd :=
  Tally.fst_keepLast fun key _ => Tally.get_ofKeys _ key

/-- The last bearers stand in the old order. -/
theorem lastBearers_sublist (items : List (String × α)) : (lastBearers items).Sublist items := by
  induction items with
  | nil => exact List.Sublist.slnil
  | cons p rest ih =>
      rw [lastBearers]
      split
      · exact ih.cons p
      · exact ih.cons_cons p

/-- Every key still has a bearer. -/
theorem mem_keys_lastBearers {items : List (String × α)} {key : String} :
    key ∈ (lastBearers items).map Prod.fst ↔ key ∈ items.map Prod.fst := by
  induction items with
  | nil => rfl
  | cons p rest ih =>
      rw [lastBearers, List.map_cons, List.mem_cons]
      split
      · rename_i hmem
        rw [ih]
        exact ⟨Or.inr, fun h => h.elim (fun heq => heq ▸ hmem) id⟩
      · rw [List.map_cons, List.mem_cons, ih]

/-- The last bearers have distinct keys. -/
theorem nodup_keys_lastBearers (items : List (String × α)) :
    ((lastBearers items).map Prod.fst).Nodup := by
  induction items with
  | nil => exact List.nodup_nil
  | cons p rest ih =>
      rw [lastBearers]
      split
      · exact ih
      · rename_i hmem
        rw [List.map_cons, List.nodup_cons, mem_keys_lastBearers]
        exact ⟨hmem, ih⟩

/-- The last item stays the last one. -/
theorem getLast?_lastBearers (items : List (String × α)) :
    (lastBearers items).getLast? = items.getLast? := by
  induction items with
  | nil => rfl
  | cons p rest ih =>
      rw [lastBearers, List.getLast?_cons]
      split
      · rename_i hmem
        rw [ih]
        cases rest with
        | nil => cases hmem
        | cons q tail => rw [List.getLast?_cons, Option.getD_some]
      · rw [List.getLast?_cons, ih]

/-- An item that no later item shares its key with is a last bearer. -/
theorem mem_lastBearers_of_last {before after : List (String × α)} {p : String × α}
    (h : p.1 ∉ after.map Prod.fst) : p ∈ lastBearers (before ++ p :: after) := by
  induction before with
  | nil =>
      rw [List.nil_append, lastBearers, if_neg h]
      exact List.mem_cons_self
  | cons q rest ih =>
      rw [List.cons_append, lastBearers]
      split
      · exact ih
      · exact List.mem_cons_of_mem q ih

/-! ## Declarations without repetition -/

/-- The keys of a list are the keys of its things. -/
theorem identities_eq_ok {identity : α → Except Failure String} {xs : List α}
    {keys : List String} : identities identity xs = .ok keys ↔
      List.Forall₂ (fun x key => identity x = .ok key) xs keys :=
  Failure.traverse_eq_ok (g := identities identity) rfl
    (fun _ _ _ h => by rw [identities, h]) (fun _ _ _ h => by rw [identities, h])

/-- Keys that are found are paired with the things that they are the keys of. -/
theorem zip_of_identities {identity : α → Except Failure String} {xs : List α}
    {keys : List String} (h : identities identity xs = .ok keys) :
    (keys.zip xs).map Prod.snd = xs ∧ ∀ p ∈ keys.zip xs, identity p.2 = .ok p.1 := by
  have hrelated := identities_eq_ok.mp h
  have hflip : List.Forall₂ (fun key x => identity x = .ok key) keys xs := hrelated.flip
  exact ⟨List.map_snd_zip (Nat.le_of_eq hrelated.length_eq), fun p hp => List.forall₂_zip hflip hp⟩

namespace Decl

/-- Without type parameters the identity of a declaration is its name. -/
theorem identity?_eq_ok {decl : Decl} (h : decl.parameters = []) {key : String} :
    decl.identity? = .ok key ↔ decl.name = .string key := by
  unfold identity?
  rw [h]
  cases decl.name <;> simp

/-- A list of declarations after repetitions have been dropped. -/
structure Kept (kept decls : List Decl) : Prop where
  /-- The declarations that are kept stand in the old order. -/
  sublist : kept.Sublist decls
  /-- Every declaration has an identity. -/
  identified : ∀ decl ∈ decls, ∃ key, decl.identity? = .ok key
  /-- Every identity still has a bearer. -/
  bearer : ∀ decl ∈ decls, ∃ other ∈ kept, other.identity? = decl.identity?
  /-- No two bearers of an identity are kept. -/
  distinct : kept.Pairwise fun decl other => decl.identity? ≠ other.identity?
  /-- The last declaration is kept as the last one. -/
  last : kept.getLast? = decls.getLast?

/-- The last bearers of the identities of declarations. -/
theorem kept_lastBearers {pairs : List (String × Decl)}
    (h : ∀ p ∈ pairs, p.2.identity? = .ok p.1) :
    Kept ((lastBearers pairs).map Prod.snd) (pairs.map Prod.snd) := by
  have hsub := lastBearers_sublist pairs
  refine ⟨hsub.map Prod.snd, ?_, ?_, ?_, ?_⟩
  · intro decl hdecl
    obtain ⟨p, hp, rfl⟩ := List.mem_map.mp hdecl
    exact ⟨p.1, h p hp⟩
  · intro decl hdecl
    obtain ⟨p, hp, rfl⟩ := List.mem_map.mp hdecl
    have hkey := mem_keys_lastBearers.mpr (List.mem_map_of_mem (f := Prod.fst) hp)
    obtain ⟨q, hq, hqp⟩ := List.mem_map.mp hkey
    refine ⟨q.2, List.mem_map_of_mem hq, ?_⟩
    rw [h q (hsub.subset hq), h p hp, hqp]
  · rw [List.pairwise_map]
    refine (List.pairwise_map.mp (nodup_keys_lastBearers pairs)).imp_of_mem ?_
    intro p q hp hq hne heq
    rw [h p (hsub.subset hp), h q (hsub.subset hq)] at heq
    exact hne (Except.ok.inj heq)
  · rw [List.getLast?_map, List.getLast?_map, getLast?_lastBearers]

/-- What is kept are the last bearers of the identities that the declarations have. -/
theorem exists_pairs_of_unique {decls kept : List Decl} {dropped : List String}
    (h : unique decls = .ok (kept, dropped)) :
    ∃ pairs : List (String × Decl), pairs.map Prod.snd = decls ∧
      (∀ p ∈ pairs, p.2.identity? = .ok p.1) ∧ kept = (lastBearers pairs).map Prod.snd := by
  obtain ⟨keys, hkeys, hlast⟩ := Failure.map_eq_ok.mp h
  obtain ⟨hsnd, hpairs⟩ := zip_of_identities hkeys
  refine ⟨keys.zip decls, hsnd, hpairs, ?_⟩
  rw [← fst_lastOfEach, hlast]

/-- Dropping repetitions keeps one bearer of every identity, and the last declaration. -/
theorem kept_of_unique {decls kept : List Decl} {dropped : List String}
    (h : unique decls = .ok (kept, dropped)) : Kept kept decls := by
  obtain ⟨pairs, rfl, hpairs, rfl⟩ := exists_pairs_of_unique h
  exact kept_lastBearers hpairs

/-- A declaration that no later declaration shares its identity with is kept. -/
theorem mem_kept_of_last {before after kept : List Decl} {dropped : List String} {decl : Decl}
    (h : unique (before ++ decl :: after) = .ok (kept, dropped))
    (hlast : ∀ other ∈ after, other.identity? ≠ decl.identity?) : decl ∈ kept := by
  obtain ⟨pairs, hsnd, hpairs, rfl⟩ := exists_pairs_of_unique h
  obtain ⟨front, rest, rfl, -, hrest⟩ := List.map_eq_append_iff.mp hsnd
  obtain ⟨p, others, rfl, rfl, rfl⟩ := List.map_eq_cons_iff.mp hrest
  refine List.mem_map_of_mem (mem_lastBearers_of_last fun hmem => ?_)
  obtain ⟨q, hq, hqp⟩ := List.mem_map.mp hmem
  have hqmem := List.mem_append_right front (List.mem_cons_of_mem p hq)
  have hpmem : p ∈ front ++ p :: others := List.mem_append_right front List.mem_cons_self
  apply hlast q.2 (List.mem_map_of_mem hq)
  rw [hpairs q hqmem, hpairs p hpmem, hqp]

/-- Repetitions can be dropped from declarations that are named by texts. -/
theorem exists_unique_of_text {decls : List Decl} (h : ∀ decl ∈ decls, ∃ s, decl.name = .string s) :
    ∃ kept dropped, unique decls = .ok (kept, dropped) := by
  have hidentified : ∀ decl ∈ decls, ∃ key, decl.identity? = .ok key := by
    intro decl hdecl
    obtain ⟨s, hs⟩ := h decl hdecl
    unfold identity?
    rw [hs]
    exact ⟨_, rfl⟩
  obtain ⟨keys, hkeys⟩ := List.exists_forall₂ hidentified
  unfold unique
  rw [identities_eq_ok.mpr hkeys]
  exact ⟨_, _, rfl⟩

/-! ### Names -/

namespace Kept

variable {kept decls : List Decl}

/-- Every declaration is named by a text. -/
theorem exists_name (h : Kept kept decls) (hparameters : ∀ decl ∈ decls, decl.parameters = []) :
    ∀ decl ∈ decls, ∃ s, decl.name = .string s := by
  intro decl hdecl
  obtain ⟨key, hkey⟩ := h.identified decl hdecl
  exact ⟨key, (identity?_eq_ok (hparameters decl hdecl)).mp hkey⟩

/-- No name is lost. -/
theorem mem_names (h : Kept kept decls) (hparameters : ∀ decl ∈ decls, decl.parameters = [])
    {name : Value} : name ∈ kept.map Decl.name ↔ name ∈ decls.map Decl.name := by
  refine ⟨fun hname => (h.sublist.map Decl.name).subset hname, fun hname => ?_⟩
  obtain ⟨decl, hdecl, rfl⟩ := List.mem_map.mp hname
  obtain ⟨key, hkey⟩ := h.identified decl hdecl
  obtain ⟨other, hother, heq⟩ := h.bearer decl hdecl
  rw [hkey, identity?_eq_ok (hparameters other (h.sublist.subset hother))] at heq
  rw [(identity?_eq_ok (hparameters decl hdecl)).mp hkey, ← heq]
  exact List.mem_map_of_mem hother

/-- The names of the declarations that are kept are distinct. -/
theorem nodup_names (h : Kept kept decls) (hparameters : ∀ decl ∈ decls, decl.parameters = []) :
    (kept.map Decl.name).Nodup := by
  refine List.pairwise_map.mpr (h.distinct.imp_of_mem ?_)
  intro decl other hdecl hother hne heq
  apply hne
  unfold identity?
  rw [heq, hparameters decl (h.sublist.subset hdecl), hparameters other (h.sublist.subset hother)]

/-- A closed list is still closed after repetitions have been dropped. -/
theorem closed (h : Kept kept decls) (hparameters : ∀ decl ∈ decls, decl.parameters = [])
    (hclosed : Closed decls) : Closed kept := by
  intro decl hdecl name hname
  rw [h.mem_names hparameters]
  exact hclosed decl (h.sublist.subset hdecl) name hname

end Kept

end Decl

end ShapeTypes
