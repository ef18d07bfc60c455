import ShapeTypes.Name.Singular

/-!
# What the rules make of a word

* `Name.length_of_fitsAll`, `Name.fitsAll_take`: what fits the places of a pattern, and what fits
  the first of them.
* `Name.exists_of_result?`: **what a rule makes of a word**: a first part of the word that ends in
  what fits the kept places, the letters that the rule adds, and behind them what follows a pattern
  at the start of the word.
* `Name.singularChars_cases`: a word is its own singular, or the first rule that fits decides.
-/

namespace ShapeTypes

namespace Name

/-! ## Patterns -/

/-- What fits a pattern is as long as the pattern. -/
theorem length_of_fitsAll {pattern : List Letter} {word : List Char}
    (h : fitsAll pattern word = true) : word.length = pattern.length := by
  induction pattern generalizing word with
  | nil =>
      cases word with
      | nil => rfl
      | cons c rest => cases h
  | cons letter more ih =>
      cases word with
      | nil => cases h
      | cons c rest =>
          rw [fitsAll, Bool.and_eq_true] at h
          rw [List.length_cons, List.length_cons, ih h.2]

/-- A first part of what fits a pattern fits the first part of the pattern. -/
theorem fitsAll_take {kept replaced : List Letter} {word : List Char}
    (h : fitsAll (kept ++ replaced) word = true) :
    fitsAll kept (word.take kept.length) = true := by
  induction kept generalizing word with
  | nil => simp [fitsAll]
  | cons letter more ih =>
      cases word with
      | nil => cases h
      | cons c rest =>
          rw [List.cons_append, fitsAll, Bool.and_eq_true] at h
          rw [List.length_cons, List.take_succ_cons, fitsAll, Bool.and_eq_true]
          exact ⟨h.1, ih h.2⟩

/-! ## Rules -/

/-- What one pair of alternatives makes of a word. -/
theorem exists_of_pairResult? {place : Place} {kept replaced : List Letter}
    {added word result : List Char}
    (h : SingularRule.pairResult? place kept replaced added word = some result) :
    ∃ before part after, fitsAll kept part = true ∧ before ++ part <+: word ∧
      (after = [] ∨ place = .atStart ∧ after <:+ word) ∧
      result = before ++ part ++ added ++ after := by
  cases place with
  | atEnd =>
      obtain ⟨⟨stem, ending⟩, hcut, rfl⟩ := Option.map_eq_some_iff.mp h
      unfold cutAtEnd? at hcut
      dsimp only at hcut
      split at hcut
      · rename_i hfits
        cases hcut
        refine ⟨_, _, [], fitsAll_take hfits, ?_, Or.inl rfl, (List.append_nil _).symm⟩
        rw [← List.take_add]
        exact List.take_prefix _ word
      · contradiction
  | whole =>
      unfold SingularRule.pairResult? at h
      dsimp only at h
      split at h
      · rename_i hfits
        cases h
        exact ⟨[], _, [], fitsAll_take hfits, List.take_prefix _ word, Or.inl rfl,
          (List.append_nil _).symm⟩
      · contradiction
  | atStart =>
      unfold SingularRule.pairResult? at h
      dsimp only at h
      split at h
      · rename_i hfits
        cases h
        have hpart := fitsAll_take hfits
        rw [List.take_take, List.length_append, Nat.min_eq_left (Nat.le_add_right ..)] at hpart
        exact ⟨[], _, _, hpart, List.take_prefix _ word,
          Or.inr ⟨rfl, List.drop_suffix _ word⟩, rfl⟩
      · contradiction

/-- **What a rule makes of a word**: it keeps a first part of the word that ends in what fits the
kept places, and puts its letters behind that. Only a pattern at the start of the word has something
left to follow. -/
theorem exists_of_result? {rule : SingularRule} {word result : List Char}
    (h : rule.result? word = some result) :
    ∃ kept ∈ rule.kept, ∃ before part after, fitsAll kept part = true ∧ before ++ part <+: word ∧
      (after = [] ∨ rule.place = .atStart ∧ after <:+ word) ∧
      result = before ++ part ++ rule.added.toList ++ after := by
  obtain ⟨kept, hkept, hpairs⟩ := List.exists_of_findSome?_eq_some h
  obtain ⟨replaced, -, hpair⟩ := List.exists_of_findSome?_eq_some hpairs
  exact ⟨kept, hkept, exists_of_pairResult? hpair⟩

/-! ## Singulars -/

/-- A word is its own singular, or the rules decide, in front of a final line feed. -/
theorem singularChars_cases (word : List Char) :
    singularChars word = word ∨ ∃ result,
      singularRules.findSome? (SingularRule.result? · (splitFinalNewline word).1) = some result ∧
        singularChars word = result ++ (splitFinalNewline word).2 := by
  unfold singularChars
  split
  · exact Or.inl rfl
  · dsimp only
    split
    · rename_i result hresult
      exact Or.inr ⟨result, hresult, rfl⟩
    · exact Or.inl rfl

/-- A word ends in a line feed that is split off, or nothing is split off. -/
theorem splitFinalNewline_cases (word : List Char) :
    splitFinalNewline word = (word, []) ∨
      '\n' ∈ word ∧ splitFinalNewline word = (word.dropLast, ['\n']) := by
  unfold splitFinalNewline
  split
  · rename_i hlast
    exact Or.inr ⟨List.mem_of_getLast? hlast, rfl⟩
  · exact Or.inl rfl

end Name

end ShapeTypes
