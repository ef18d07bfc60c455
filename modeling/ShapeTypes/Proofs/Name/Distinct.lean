import ShapeTypes.Proofs.Name.Element

/-!
# Names that differ from their source

The element of a collection is never named like the collection. Deriving its name always changes the
name, and a capital letter at the start cannot undo that: it would have to bring back the first
character of the name, but that one is kept by every rule that keeps anything.

* `Name.splitFinalNewline_append`: what is split off a word is the end of it.
* `Name.head?_result?`: a singular starts like its word, or it is one of a few
  fixed words.
* `Name.capitalizedChars_singularChars_ne`: **a singular that differs from its word still does so
  with a capital letter**.
* `Name.elementName_ne`, `Name.capitalized_elementName_ne`: the names of elements.
-/

namespace ShapeTypes

namespace Name

/-! ## Capitals -/

/-- Capitals do not shorten a text. -/
theorem length_le_capitalizedChars (cs : List Char) : cs.length ≤ (capitalizedChars cs).length := by
  cases cs with
  | nil => exact Nat.le_refl _
  | cons c rest =>
      have hupper := List.length_pos_iff.mpr (Text.upperCase_ne_nil c)
      rw [capitalizedChars, List.length_append, List.length_cons]
      omega

/-- What follows the first character is kept. -/
theorem capitalizedChars_append {cs : List Char} (h : cs ≠ []) (ds : List Char) :
    capitalizedChars (cs ++ ds) = capitalizedChars cs ++ ds := by
  cases cs with
  | nil => contradiction
  | cons c rest => simp [capitalizedChars]

/-- A text that starts like another one and differs from it still does with a capital letter. -/
theorem capitalizedChars_ne {word cs : List Char} (hhead : cs.head? = word.head?)
    (hne : cs ≠ word) : capitalizedChars cs ≠ word := by
  intro h
  cases cs with
  | nil => exact hne h
  | cons c rest =>
      have hupper : (Text.upperCase c).head? = some c := by
        rw [← h, capitalizedChars, List.head?_append, List.head?_cons] at hhead
        rcases Option.or_eq_some_iff.mp hhead.symm with hfirst | ⟨hnone, -⟩
        · exact hfirst
        · exact absurd (List.head?_eq_none_iff.mp hnone) (Text.upperCase_ne_nil c)
      rw [capitalizedChars, Text.upperCase_eq_self hupper] at h
      exact hne h

/-! ## Singulars -/

/-- The line feed that is split off a word is the end of it. -/
theorem splitFinalNewline_append (word : List Char) :
    (splitFinalNewline word).1 ++ (splitFinalNewline word).2 = word := by
  unfold splitFinalNewline
  split
  · rename_i hlast
    obtain ⟨line, rfl⟩ := List.getLast?_eq_some_iff.mp hlast
    rw [List.dropLast_concat]
  · exact List.append_nil word

/-- The rule may keep nothing of a word. -/
def SingularRule.keepsNothing (rule : SingularRule) : Bool := rule.kept.any List.isEmpty

/-- The words that take the place of a whole word. -/
def fixedWords : List (List Char) := [['c', 'o', 'w'], ['C', 'o', 'w'], []]

/-- The rule puts a fixed word in the place of the end of a word. -/
def SingularRule.isFixed : SingularRule → Bool
  | ⟨.atEnd, _, _, added⟩ => fixedWords.contains added.toList
  | _ => false

/-- The rules that may keep nothing put a fixed word in the place of what they replace. -/
theorem singularRules_keepNothing : ∀ rule ∈ singularRules,
    rule.keepsNothing = true → rule.isFixed = true := by
  decide +kernel

/-- What a rule makes of a word starts like the word, or is a fixed word. -/
theorem head?_result? {rule : SingularRule} (hrule : rule ∈ singularRules)
    {word result : List Char} (h : rule.result? word = some result) :
    result.head? = word.head? ∨ result ∈ fixedWords := by
  obtain ⟨kept, hkept, before, part, after, hpart, hfirst, hafter, rfl⟩ := exists_of_result? h
  by_cases hnil : before ++ part = []
  · -- nothing of the word is kept
    right
    obtain ⟨rfl, rfl⟩ := List.append_eq_nil_iff.mp hnil
    have hkeeps : rule.keepsNothing = true := by
      refine List.any_eq_true.mpr ⟨kept, hkept, ?_⟩
      rw [List.isEmpty_iff, ← List.length_eq_zero_iff, ← length_of_fitsAll hpart]
      rfl
    have hfixed := singularRules_keepNothing rule hrule hkeeps
    obtain ⟨place, alternatives, endings, added⟩ := rule
    cases place with
    | atEnd =>
        obtain rfl : after = [] := hafter.resolve_right fun hstart => by cases hstart.1
        rw [List.append_nil]
        exact List.contains_iff_mem.mp hfixed
    | whole => cases hfixed
    | atStart => cases hfixed
  · left
    obtain ⟨c, rest, hstart⟩ := List.exists_cons_of_ne_nil hnil
    obtain ⟨tail, rfl⟩ := hfirst
    rw [hstart]
    rfl

/-- With a capital letter, a fixed word is its own singular, also in front of a line feed. -/
theorem singularChars_fixed : ∀ fixed ∈ fixedWords, ∀ feed ∈ [[], ['\n']],
    singularChars (capitalizedChars (fixed ++ feed)) = capitalizedChars (fixed ++ feed) := by
  decide +kernel

/-- **A singular that differs from its word still does so with a capital letter.** -/
theorem capitalizedChars_singularChars_ne {word : List Char} (h : singularChars word ≠ word) :
    capitalizedChars (singularChars word) ≠ word := by
  rcases singularChars_cases word with hsame | ⟨result, hresult, hsingular⟩
  · exact absurd hsame h
  · obtain ⟨rule, hrule, hresult⟩ := List.exists_of_findSome?_eq_some hresult
    rcases head?_result? hrule hresult with hhead | hfixed
    · have hword := splitFinalNewline_append word
      refine capitalizedChars_ne ?_ h
      rw [hsingular, List.head?_append, hhead, ← List.head?_append, hword]
    · intro hsame
      have hfeed : (splitFinalNewline word).2 ∈ [[], ['\n']] := by
        rcases splitFinalNewline_cases word with hsplit | ⟨-, hsplit⟩ <;> simp [hsplit]
      rw [hsingular] at hsame
      have hown := singularChars_fixed result hfixed _ hfeed
      rw [hsame] at hown
      exact h hown

/-! ## Elements -/

/-- A word that is too short for the ending of an element, or ends otherwise, does not have it. -/
theorem item_ne {stem word : List Char}
    (hword : word.length < stem.length + itemEnding.length ∨ word.getLast? ≠ some 'm') :
    stem ++ itemEnding.toList ≠ word := by
  rintro rfl
  rcases hword with hlength | hlast
  · rw [List.length_append, String.length_toList] at hlength
    exact Nat.lt_irrefl _ hlength
  · exact hlast (by rw [List.getLast?_append]; rfl)

/-- Neither does it with a capital letter. -/
theorem capitalizedChars_item_ne {stem word : List Char} (hstem : stem ≠ [])
    (hword : word.length < stem.length + itemEnding.length ∨ word.getLast? ≠ some 'm') :
    capitalizedChars (stem ++ itemEnding.toList) ≠ word := by
  rw [capitalizedChars_append hstem]
  refine item_ne (hword.imp_left fun hlength => ?_)
  have hle := length_le_capitalizedChars stem
  omega

/-- The name of an element is the singular of a plural, or a stem with the ending of an element. The
stem is the name, or what an ending of collections leaves of it. -/
theorem elementName_cases {name : String} (hname : name ≠ "") :
    (singularChars name.toList ≠ name.toList ∧
      (elementName name).toList = singularChars name.toList) ∨
    ∃ stem, stem ≠ [] ∧ (elementName name).toList = stem ++ itemEnding.toList ∧
      (name.toList.length < stem.length + itemEnding.length ∨
        name.toList.getLast? ≠ some 'm') := by
  unfold elementName
  rw [if_neg hname]
  split
  · rename_i hplural
    left
    rw [isPlural, Bool.and_eq_true] at hplural
    refine ⟨fun hsame => ?_, by rw [singular, String.toList_ofList]⟩
    simp [singular, hsame] at hplural
  · right
    cases hfind : collectionEndings.findSome? (replaceEnding? name) with
    | none =>
        refine ⟨name.toList, by simpa using hname, ?_, Or.inl ?_⟩
        · rw [Option.getD_none, String.toList_append]
        · show _ < _ + 4
          omega
    | some replaced =>
        obtain ⟨ending, hending, hreplaced⟩ := List.exists_of_findSome?_eq_some hfind
        unfold replaceEnding? at hreplaced
        dsimp only at hreplaced
        split at hreplaced
        · rename_i hends
          obtain ⟨hlonger, hends⟩ := hends
          cases hreplaced
          refine ⟨name.toList.take (name.length - ending.length), ?_, ?_, Or.inr ?_⟩
          · rw [ne_eq, List.take_eq_nil_iff, not_or]
            exact ⟨by omega, by simpa using hname⟩
          · rw [Option.getD_some, String.toList_append, String.toList_ofList]
          · -- the name ends like the ending of collections that it has
            rw [← List.take_append_drop (name.length - ending.length) name.toList, hends,
              List.getLast?_append]
            have hlast : ∀ ending ∈ collectionEndings, ending.toList ≠ [] ∧
                ending.toList.getLast? ≠ some 'm' := by decide
            obtain ⟨hne, hother⟩ := hlast ending hending
            rwa [List.getLast?_eq_some_getLast hne, Option.some_or,
              ← List.getLast?_eq_some_getLast hne]
        · contradiction

/-- The name of an element with a capital letter is not the name of the collection. -/
theorem capitalized_elementName_ne {name : String} (hname : name ≠ "") :
    capitalized (elementName name) ≠ name := by
  rw [capitalized, ne_eq, ← String.toList_inj, String.toList_ofList]
  rcases elementName_cases hname with ⟨hplural, helement⟩ | ⟨stem, hstem, helement, hother⟩
  · rw [helement]
    exact capitalizedChars_singularChars_ne hplural
  · rw [helement]
    exact capitalizedChars_item_ne hstem hother

/-- The name of an element is not the name of the collection. -/
theorem elementName_ne {name : String} (hname : name ≠ "") : elementName name ≠ name := by
  rw [ne_eq, ← String.toList_inj]
  rcases elementName_cases hname with ⟨hplural, helement⟩ | ⟨stem, -, helement, hother⟩
  · rw [helement]
    exact hplural
  · rw [helement]
    exact item_ne hother

end Name

end ShapeTypes
