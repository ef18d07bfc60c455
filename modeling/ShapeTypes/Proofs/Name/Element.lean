import Mathlib.Logic.Function.Iterate
import ShapeTypes.Name.Derived
import ShapeTypes.Proofs.Name.Singular
import ShapeTypes.Proofs.Text.UpperCase

/-!
# When nothing is left of a name

The singular of a word is nothing for one word only, the single letter s. No rule of the table but
the last one cuts a word down that far, and the last one, which drops an s, never sees a double s.

* `Name.spellsS`: the single letter s, in any of its spellings; `Name.IsAtMostS`: that or nothing.
* `Name.singularRules_leaveMore`: every rule but the last leaves more than an s.
* `Name.spellsS_of_singularChars`: **a word of which its singular leaves at most an s is an s**.
* `Name.elementName_eq_empty_iff`, `Name.elementName_not_mem`: the elements of a collection have no
  name if the collection is named s, and are never named s themselves.
* `Name.iterate_elementName_eq_empty_iff`: **when nothing is left over several collections**.
* `Name.capitalized_eq_empty_iff`: a capital letter leaves no name empty.
-/

namespace ShapeTypes

namespace Name

/-! ## The letter s -/

/-- The word is the single letter s, in one of its spellings. -/
def spellsS (word : List Char) : Bool := fitsAll (spelled "s") word

/-- The word is the single letter s or nothing. -/
def IsAtMostS (word : List Char) : Prop := word.length ≤ 1 ∧ ∀ c ∈ word, foldLetter c = 's'

/-- The letters whose small letter is an s. -/
theorem toLower_eq_s_iff {c : Char} : c.toLower = 's' ↔ c = 's' ∨ c = 'S' := by
  unfold Char.toLower
  split
  · rename_i hcapital
    simp only [Char.ext_iff, ← UInt32.toNat_inj, ge_iff_le, UInt32.le_iff_toNat_le,
      UInt32.toNat_add, UInt32.reduceToNat, Char.reduceVal, UInt32.reduceSub] at hcapital ⊢
    omega
  · rename_i hother
    simp only [Char.ext_iff, ← UInt32.toNat_inj, ge_iff_le, UInt32.le_iff_toNat_le,
      UInt32.reduceToNat, Char.reduceVal] at hother ⊢
    omega

/-- The spellings of the letter s. -/
theorem foldLetter_eq_s_iff {c : Char} : foldLetter c = 's' ↔ c ∈ ['s', 'S', 'ſ'] := by
  unfold foldLetter
  by_cases hlong : c = 'ſ'
  · simp [hlong]
  · rw [if_neg hlong]
    split
    · simp_all
    · split
      · rename_i hdot
        rcases hdot with rfl | rfl <;> decide
      · simp [toLower_eq_s_iff, hlong]

/-- The single letter s is one character. -/
theorem spellsS_iff {word : List Char} :
    spellsS word = true ↔ ∃ c, word = [c] ∧ foldLetter c = 's' := by
  show fitsAll [.any 's'] word = true ↔ _
  cases word with
  | nil => simp [fitsAll]
  | cons c rest => cases rest <;> simp [fitsAll, Letter.fits]

/-- The words that spell the letter. -/
theorem spellsS_toList_iff {name : String} :
    spellsS name.toList = true ↔ name ∈ ["s", "S", "ſ"] := by
  simp only [spellsS_iff, foldLetter_eq_s_iff, List.mem_cons, List.not_mem_nil, or_false]
  constructor
  · rintro ⟨c, hname, rfl | rfl | rfl⟩ <;> simp [← String.toList_inj, hname]
  · rintro (rfl | rfl | rfl) <;> simp

/-- At most an s is nothing or an s. -/
theorem isAtMostS_iff {word : List Char} : IsAtMostS word ↔ word = [] ∨ spellsS word = true := by
  rw [spellsS_iff]
  cases word with
  | nil => simp [IsAtMostS]
  | cons c rest => cases rest <;> simp [IsAtMostS]

/-! ## Rules -/

/-- The place fits one letter, and that is not the s. -/
def Letter.isOther : Letter → Bool
  | any letter => letter != 's'
  | _ => false

/-- What the rule keeps and adds has two characters, or is another letter than s. -/
def SingularRule.leavesMore (rule : SingularRule) : Bool :=
  rule.kept.all fun kept =>
    decide (2 ≤ kept.length + rule.added.toList.length) || kept.any Letter.isOther

/-- Every rule but the last leaves more than an s. -/
theorem singularRules_leaveMore : ∀ rule ∈ singularRules.dropLast, rule.leavesMore = true := by
  decide +kernel

/-- What fits a pattern with another letter than s in it has a character that is no s. -/
theorem exists_ne_s_of_fitsAll {pattern : List Letter} {word : List Char}
    (hother : pattern.any Letter.isOther = true) (h : fitsAll pattern word = true) :
    ∃ c ∈ word, foldLetter c ≠ 's' := by
  induction pattern generalizing word with
  | nil => cases hother
  | cons letter more ih =>
      cases word with
      | nil => cases h
      | cons c rest =>
          rw [fitsAll, Bool.and_eq_true] at h
          rw [List.any_cons, Bool.or_eq_true] at hother
          rcases hother with hletter | hmore
          · refine ⟨c, List.mem_cons_self, ?_⟩
            cases letter with
            | any small =>
                have hfold : foldLetter c = small := by simpa [Letter.fits] using h.1
                simpa [Letter.isOther, hfold] using hletter
            | _ => cases hletter
          · obtain ⟨d, hd, hne⟩ := ih hmore h.2
            exact ⟨d, List.mem_cons_of_mem c hd, hne⟩

/-- A rule that leaves more than an s does so. -/
theorem not_isAtMostS_result? {rule : SingularRule} (hrule : rule.leavesMore = true)
    {word result : List Char} (h : rule.result? word = some result) : ¬ IsAtMostS result := by
  obtain ⟨kept, hkept, before, part, after, hpart, -, -, rfl⟩ := exists_of_result? h
  rintro ⟨hlength, hall⟩
  rw [SingularRule.leavesMore, List.all_eq_true] at hrule
  rcases Bool.or_eq_true_iff.mp (hrule kept hkept) with htwo | hother
  · have hkeptLength := length_of_fitsAll hpart
    simp only [List.length_append] at hlength
    rw [decide_eq_true_eq] at htwo
    omega
  · obtain ⟨c, hc, hne⟩ := exists_ne_s_of_fitsAll hother hpart
    exact hne (hall c (by simp [hc]))

/-- The last rule drops an s. -/
theorem eq_append_of_lastRule {word result : List Char}
    (h : (atEnd [""] ["s"] "").result? word = some result) :
    ∃ c, word = result ++ [c] ∧ foldLetter c = 's' := by
  have hpair : SingularRule.pairResult? .atEnd [] (spelled "s") [] word = some result := by
    simpa [SingularRule.result?, atEnd, spelled] using h
  obtain ⟨⟨stem, ending⟩, hcut, hresult⟩ := Option.map_eq_some_iff.mp hpair
  obtain rfl : stem = result := by simpa using hresult
  unfold cutAtEnd? at hcut
  dsimp only at hcut
  split at hcut
  · rename_i hfits
    cases hcut
    obtain ⟨c, hlast, hc⟩ := spellsS_iff.mp hfits
    refine ⟨c, ?_, hc⟩
    rw [← hlast]
    exact (List.take_append_drop _ word).symm
  · contradiction

/-- The rule for a double s fits it. -/
theorem isSome_doubleS {c d : Char} (hc : foldLetter c = 's') (hd : foldLetter d = 's') :
    ((atEnd ["ss"] [""] "").result? [c, d]).isSome = true := by
  simp [SingularRule.result?, atEnd, spelled, SingularRule.pairResult?, cutAtEnd?, fitsAll,
    Letter.fits, hc, hd]

/-! ## Singulars -/

/-- The rules are tried up to the last one, which comes after the one for a double s. -/
theorem singularRules_eq : singularRules = singularRules.dropLast ++ [atEnd [""] ["s"] ""] := rfl

/-- The rule for a double s comes before the last one. -/
theorem doubleS_mem : atEnd ["ss"] [""] "" ∈ singularRules.dropLast :=
  List.mem_of_getLast? (rfl : singularRules.dropLast.getLast? = some (atEnd ["ss"] [""] ""))

/-- A word of which the rules leave at most an s is an s. -/
theorem spellsS_of_singularRules {word result : List Char}
    (h : singularRules.findSome? (SingularRule.result? · word) = some result)
    (hleft : IsAtMostS result) : spellsS word = true := by
  rw [singularRules_eq, List.findSome?_append, Option.or_eq_some_iff] at h
  rcases h with hearlier | ⟨hnone, hlast⟩
  · obtain ⟨rule, hrule, hresult⟩ := List.exists_of_findSome?_eq_some hearlier
    exact absurd hleft (not_isAtMostS_result? (singularRules_leaveMore rule hrule) hresult)
  · obtain ⟨c, rfl, hc⟩ := eq_append_of_lastRule (by simpa using hlast)
    rcases isAtMostS_iff.mp hleft with rfl | hs
    · exact spellsS_iff.mpr ⟨c, rfl, hc⟩
    · -- an s before the last one: the rule for a double s would have come first
      obtain ⟨d, rfl, hd⟩ := spellsS_iff.mp hs
      have hdouble := List.findSome?_eq_none_iff.mp hnone _ doubleS_mem
      have hfits := isSome_doubleS hd hc
      rw [List.singleton_append] at hdouble
      rw [hdouble] at hfits
      contradiction

/-- **A word of which its singular, if that is another one, leaves at most an s is an s.** -/
theorem spellsS_of_singularChars {word : List Char} (hplural : singularChars word ≠ word)
    (hleft : IsAtMostS (singularChars word)) : spellsS word = true := by
  rcases singularChars_cases word with hsame | ⟨result, hresult, hsingular⟩
  · exact absurd hsame hplural
  · rw [hsingular] at hleft
    rcases splitFinalNewline_cases word with hsplit | ⟨-, hsplit⟩
    · rw [hsplit] at hresult hleft
      exact spellsS_of_singularRules hresult (by simpa using hleft)
    · -- the line feed is kept, and is no s
      have hfold := hleft.2 '\n' (by simp [hsplit])
      exact absurd hfold (by decide)

/-! ## Elements -/

/-- A text with the ending of an element is more than an s. -/
theorem not_isAtMostS_item (stem : List Char) : ¬ IsAtMostS (stem ++ itemEnding.toList) := by
  rintro ⟨hlength, -⟩
  rw [List.length_append] at hlength
  have hitem : itemEnding.toList.length = 4 := rfl
  omega

/-- A collection whose elements are named with at most an s is named s. -/
theorem spellsS_of_elementName {name : String} (hleft : IsAtMostS (elementName name).toList) :
    spellsS name.toList = true := by
  unfold elementName at hleft
  split at hleft
  · exact absurd hleft (not_isAtMostS_item [])
  · split at hleft
    · rename_i hplural
      rw [singular, String.toList_ofList] at hleft
      refine spellsS_of_singularChars (fun hsame => ?_) hleft
      simp [isPlural, singular, hsame] at hplural
    · cases hfind : collectionEndings.findSome? (replaceEnding? name) with
      | none =>
          rw [hfind, Option.getD_none, String.toList_append] at hleft
          exact absurd hleft (not_isAtMostS_item _)
      | some replaced =>
          obtain ⟨ending, -, hreplaced⟩ := List.exists_of_findSome?_eq_some hfind
          unfold replaceEnding? at hreplaced
          dsimp only at hreplaced
          split at hreplaced
          · cases hreplaced
            rw [hfind, Option.getD_some, String.toList_append] at hleft
            exact absurd hleft (not_isAtMostS_item _)
          · contradiction

/-- The elements of a collection have no name if and only if the collection is named s. -/
theorem elementName_eq_empty_iff {name : String} :
    elementName name = "" ↔ name ∈ ["s", "S", "ſ"] := by
  constructor
  · intro hempty
    refine spellsS_toList_iff.mp (spellsS_of_elementName ?_)
    rw [hempty]
    exact isAtMostS_iff.mpr (Or.inl rfl)
  · have hspellings : ∀ word ∈ ["s", "S", "ſ"], elementName word = "" := by decide +kernel
    exact hspellings name

/-- The elements of no collection are named s. -/
theorem elementName_not_mem (name : String) : elementName name ∉ ["s", "S", "ſ"] := by
  intro hmem
  have hs := spellsS_toList_iff.mpr hmem
  have hcollection := spellsS_of_elementName (isAtMostS_iff.mpr (Or.inr hs))
  rw [elementName_eq_empty_iff.mpr (spellsS_toList_iff.mp hcollection)] at hmem
  simp at hmem

/-- **Over several collections, the elements have no name if and only if there is no collection and
no name, or a single collection that is named s.** -/
theorem iterate_elementName_eq_empty_iff {collections : Nat} {name : String} :
    elementName^[collections] name = "" ↔
      collections = 0 ∧ name = "" ∨ collections = 1 ∧ name ∈ ["s", "S", "ſ"] := by
  match collections with
  | 0 => simp
  | 1 => simpa using elementName_eq_empty_iff
  | more + 2 =>
      rw [Function.iterate_succ_apply', elementName_eq_empty_iff, Function.iterate_succ_apply']
      exact iff_of_false (elementName_not_mem _) (by omega)

/-! ## Capitals -/

/-- A capital letter leaves no name empty. -/
theorem capitalized_eq_empty_iff {name : String} : capitalized name = "" ↔ name = "" := by
  rw [capitalized, ← String.toList_inj, String.toList_ofList, ← String.toList_inj]
  cases name.toList with
  | nil => rfl
  | cons c rest => simp [capitalizedChars, Text.upperCase_ne_nil]

end Name

end ShapeTypes
