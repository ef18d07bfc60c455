import Mathlib.Logic.Function.Iterate
import ShapeTypes.Decl.Source
import ShapeTypes.Name.Derived
import ShapeTypes.Proofs.Name.Singular
import ShapeTypes.Proofs.Text.UpperCase

/-!
# Derived names and identifiers

A name that is derived from an identifier is an identifier again, unless nothing is left of it: the
rules for singulars cut an ending off and put letters in its place.

* `IsStem`: the texts that are an identifier or nothing. A first part of a stem is a stem
  (`IsStem.take`), and so is a stem with letters behind it (`IsStem.append`).
* `Name.singularRules_keepStems`: what makes every rule of the table keep stems.
* `Name.isStem_singular`, `Name.isStem_elementName`: **the singular of an identifier, and the name
  of its elements, are stems**.
* `Name.isStem_capitalized`: the first letter of a stem may be put in upper case.
-/

namespace ShapeTypes

/-- The characters are an identifier or nothing. -/
def IsStem (cs : List Char) : Prop :=
  (∀ c ∈ cs.head?, isIdentifierStart c = true) ∧ ∀ c ∈ cs, isIdentifierPart c = true

/-- What starts an identifier can go on in it. -/
theorem isIdentifierPart_of_isIdentifierStart {c : Char} (h : isIdentifierStart c = true) :
    isIdentifierPart c = true := by
  simp [isIdentifierPart, h]

/-- An identifier is a stem with at least one character. -/
theorem isIdentifierChars_iff {cs : List Char} :
    isIdentifierChars cs = true ↔ cs ≠ [] ∧ IsStem cs := by
  cases cs with
  | nil => simp [isIdentifierChars]
  | cons c rest =>
      simp only [isIdentifierChars, IsStem, Bool.and_eq_true, List.all_eq_true, List.head?_cons,
        Option.mem_some_iff, forall_eq', List.forall_mem_cons, ne_eq, reduceCtorEq,
        not_false_eq_true, true_and]
      constructor
      · rintro ⟨hstart, hrest⟩
        exact ⟨hstart, isIdentifierPart_of_isIdentifierStart hstart, hrest⟩
      · rintro ⟨hstart, -, hrest⟩
        exact ⟨hstart, hrest⟩

/-- Nothing is a stem. -/
theorem isStem_nil : IsStem [] := by
  simp [IsStem]

/-- A first part of a stem is a stem. -/
theorem IsStem.take {cs : List Char} (h : IsStem cs) (n : Nat) : IsStem (cs.take n) := by
  refine ⟨fun c hc => h.1 c ?_, fun c hc => h.2 c (List.mem_of_mem_take hc)⟩
  rw [List.head?_take] at hc
  split at hc
  · contradiction
  · exact hc

/-- A stem may be followed by letters. -/
theorem IsStem.append {cs ds : List Char} (h : IsStem cs)
    (hletters : ∀ d ∈ ds, isIdentifierStart d = true) : IsStem (cs ++ ds) := by
  constructor
  · intro c hc
    rw [List.head?_append] at hc
    rcases Option.or_eq_some_iff.mp hc with hfirst | ⟨-, hsecond⟩
    · exact h.1 c hfirst
    · exact hletters c (List.mem_of_mem_head? hsecond)
  · intro c hc
    rcases List.mem_append.mp hc with hfirst | hsecond
    · exact h.2 c hfirst
    · exact isIdentifierPart_of_isIdentifierStart (hletters c hsecond)

/-- A stem that is not empty may be followed by whatever can go on in an identifier. -/
theorem IsStem.append_parts {cs ds : List Char} (h : IsStem cs) (hne : cs ≠ [])
    (hparts : ∀ d ∈ ds, isIdentifierPart d = true) : IsStem (cs ++ ds) := by
  constructor
  · intro c hc
    rw [List.head?_append] at hc
    rcases Option.or_eq_some_iff.mp hc with hfirst | ⟨hnone, -⟩
    · exact h.1 c hfirst
    · exact absurd (List.head?_eq_none_iff.mp hnone) hne
  · intro c hc
    rcases List.mem_append.mp hc with hfirst | hsecond
    · exact h.2 c hfirst
    · exact hparts c hsecond

namespace Name

/-! ## Singulars -/

/-- A pattern at the start of a word keeps at least one character. -/
def SingularRule.keepsStart : SingularRule → Bool
  | ⟨.atStart, kept, _, _⟩ => kept.all fun letters => !letters.isEmpty
  | _ => true

/-- Every rule puts letters in the place of what it replaces, and keeps the start of a word. -/
theorem singularRules_keepStems : ∀ rule ∈ singularRules,
    rule.added.toList.all isIdentifierStart = true ∧ rule.keepsStart = true := by
  decide +kernel

/-- What a rule of the table makes of a stem is a stem. -/
theorem isStem_result? {rule : SingularRule} (hrule : rule ∈ singularRules)
    {word result : List Char} (hword : IsStem word) (h : rule.result? word = some result) :
    IsStem result := by
  obtain ⟨hadded, hstart⟩ := singularRules_keepStems rule hrule
  obtain ⟨kept, hkept, before, part, after, hpart, hfirst, hafter, rfl⟩ := exists_of_result? h
  have hletters : IsStem (before ++ part ++ rule.added.toList) := by
    rw [List.prefix_iff_eq_take.mp hfirst]
    exact (hword.take _).append (List.all_eq_true.mp hadded)
  rcases hafter with rfl | ⟨hplace, hrest⟩
  · rwa [List.append_nil]
  · -- the rest of the word may go on after what is kept, which is not nothing
    refine hletters.append_parts ?_ fun c hc => hword.2 c (hrest.mem hc)
    have hlength := length_of_fitsAll hpart
    obtain ⟨place, alternatives, endings, added⟩ := rule
    obtain rfl : place = .atStart := hplace
    have hne := List.all_eq_true.mp hstart kept hkept
    cases kept with
    | nil => contradiction
    | cons letter more => cases part <;> simp at hlength ⊢

/-- A stem does not end in a line feed. -/
theorem splitFinalNewline_of_isStem {word : List Char} (hword : IsStem word) :
    splitFinalNewline word = (word, []) := by
  rcases splitFinalNewline_cases word with hsplit | ⟨hnewline, -⟩
  · exact hsplit
  · exact absurd (hword.2 '\n' hnewline) (by decide)

/-- **The singular of a stem is a stem.** -/
theorem isStem_singular {noun : String} (h : IsStem noun.toList) :
    IsStem (singular noun).toList := by
  rw [singular, String.toList_ofList]
  rcases singularChars_cases noun.toList with hsame | ⟨result, hresult, hsingular⟩
  · rwa [hsame]
  · rw [splitFinalNewline_of_isStem h] at hresult hsingular
    obtain ⟨rule, hrule, hresult⟩ := List.exists_of_findSome?_eq_some hresult
    rw [hsingular, List.append_nil]
    exact isStem_result? hrule h hresult

/-! ## Elements -/

/-- The ending of an element consists of letters. -/
theorem isIdentifierStart_of_mem_itemEnding : ∀ c ∈ itemEnding.toList,
    isIdentifierStart c = true := by
  apply List.all_eq_true.mp
  decide

/-- **The name of an element of a stem is a stem.** -/
theorem isStem_elementName {name : String} (h : IsStem name.toList) :
    IsStem (elementName name).toList := by
  unfold elementName
  split
  · exact isStem_nil.append isIdentifierStart_of_mem_itemEnding
  · split
    · exact isStem_singular h
    · cases hfind : collectionEndings.findSome? (replaceEnding? name) with
      | none =>
          rw [Option.getD_none, String.toList_append]
          exact h.append isIdentifierStart_of_mem_itemEnding
      | some replaced =>
          rw [Option.getD_some]
          obtain ⟨ending, -, hreplaced⟩ := List.exists_of_findSome?_eq_some hfind
          unfold replaceEnding? at hreplaced
          dsimp only at hreplaced
          split at hreplaced
          · cases hreplaced
            rw [String.toList_append, String.toList_ofList]
            exact (h.take _).append isIdentifierStart_of_mem_itemEnding
          · contradiction

/-- The names of the elements of nested collections are stems. -/
theorem isStem_iterate_elementName {name : String} (h : IsStem name.toList) (arrays : Nat) :
    IsStem (elementName^[arrays] name).toList := by
  induction arrays generalizing name with
  | zero => exact h
  | succ arrays ih => exact ih (isStem_elementName h)

/-! ## Capitals -/

/-- The upper case of what starts an identifier starts one. -/
theorem upperCase_of_isIdentifierStart {c : Char} (h : isIdentifierStart c = true) :
    Text.upperCase c ≠ [] ∧ ∀ d ∈ Text.upperCase c, isIdentifierStart d = true := by
  have hcode : c.toNat < 0x80 := by
    simp only [isIdentifierStart, Bool.or_eq_true, Bool.and_eq_true, decide_eq_true_eq,
      beq_iff_eq, Char.le_def, UInt32.le_iff_toNat_le] at h
    rcases h with ((⟨-, h⟩ | ⟨-, h⟩) | rfl) | rfl
    · exact Nat.lt_of_le_of_lt h (by decide)
    · exact Nat.lt_of_le_of_lt h (by decide)
    · decide
    · decide
  have hupper : isIdentifierStart c.toUpper = true :=
    Text.forall_ascii
      (p := fun c => isIdentifierStart c = true → isIdentifierStart c.toUpper = true)
      (by decide +kernel) hcode h
  simpa [Text.upperCase_ascii hcode] using hupper

/-- The first letter of a stem may be put in upper case. -/
theorem isStem_capitalized {name : String} (h : IsStem name.toList) :
    IsStem (capitalized name).toList := by
  rw [capitalized, String.toList_ofList]
  cases hname : name.toList with
  | nil => exact isStem_nil
  | cons c rest =>
      rw [hname] at h
      obtain ⟨hne, hupper⟩ := upperCase_of_isIdentifierStart (h.1 c rfl)
      refine (isStem_nil.append hupper).append_parts hne fun d hd => ?_
      exact h.2 d (List.mem_cons_of_mem c hd)

end Name

end ShapeTypes
