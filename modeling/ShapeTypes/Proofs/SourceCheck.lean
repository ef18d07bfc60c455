import Mathlib.Tactic.SplitIfs
import ShapeTypes.SourceCheck

/-!
# Texts that the check lets pass

The check of generated source reads a document from left to right, so what it makes of a part could
depend on what stands before it: a lone quote would turn code into a literal.

* `skipLiteral?_body`: the reader of literals stops at the end of a quoted text, whatever characters
  are escaped in it.
* `Blanks`: the part of a document that is emptied on its own, whatever follows it.
* `Balanced`: the code in which every pair of brackets occurs equally often.
* `Neutral`: **the texts that do not change the verdict of the check**. They are closed under
  appending, joining and enclosing in brackets, and every quoted text is one.
* `Declares`, `checkSource_of_declares`: what the check counts in a document that declares
  something.
* `checkSource_of_neutral`: a neutral document passes if it declares something.
-/

namespace ShapeTypes

open Text

/-! ## Literals -/

/-- A character that is neither a quote nor a backslash stays in the literal. -/
theorem skipLiteral?_cons_of_ne {c : Char} {rest : List Char} (hquote : c ≠ '"')
    (hbackslash : c ≠ '\\') : skipLiteral? (c :: rest) = skipLiteral? rest := by
  refine skipLiteral?.eq_5 c rest (fun h => hquote h) ?_ ?_
  · exact fun _ _ h _ => hbackslash h
  · exact fun h _ => hbackslash h

/-- A text without quotes and backslashes stays in the literal. -/
theorem skipLiteral?_append_of_not_mem {cs rest : List Char} (hquote : '"' ∉ cs)
    (hbackslash : '\\' ∉ cs) : skipLiteral? (cs ++ rest) = skipLiteral? rest := by
  induction cs with
  | nil => rfl
  | cons c cs ih =>
      obtain ⟨hc, hcs⟩ := not_or.mp (mt List.mem_cons.mpr hquote)
      obtain ⟨hc', hcs'⟩ := not_or.mp (mt List.mem_cons.mpr hbackslash)
      rw [List.cons_append, skipLiteral?_cons_of_ne (Ne.symm hc) (Ne.symm hc')]
      exact ih hcs hcs'

/-- An escaped character other than a line feed stays in the literal. -/
theorem skipLiteral?_escaped {c : Char} {rest : List Char} (h : c ≠ '\n') :
    skipLiteral? ('\\' :: c :: rest) = skipLiteral? rest := by
  rw [skipLiteral?.eq_3, if_neg h]

/-- The hexadecimal digits of a control character are neither quotes nor backslashes. -/
theorem not_mem_hex : ∀ code < 0x20, '"' ∉ hex 4 code ∧ '\\' ∉ hex 4 code := by
  decide

/-- The written form of a character stays in the literal. -/
theorem skipLiteral?_escape (c : Char) (rest : List Char) :
    skipLiteral? (Quoted.escape c ++ rest) = skipLiteral? rest := by
  unfold Quoted.escape
  split_ifs with hquote hbackslash hfeed hreturn htab hback hform hcontrol
  · exact skipLiteral?_escaped (by decide)
  · exact skipLiteral?_escaped (by decide)
  · exact skipLiteral?_escaped (by decide)
  · exact skipLiteral?_escaped (by decide)
  · exact skipLiteral?_escaped (by decide)
  · exact skipLiteral?_escaped (by decide)
  · exact skipLiteral?_escaped (by decide)
  · rw [List.cons_append, List.cons_append, skipLiteral?_escaped (by decide)]
    obtain ⟨hhex, hhex'⟩ := not_mem_hex c.toNat hcontrol
    exact skipLiteral?_append_of_not_mem hhex hhex'
  · exact skipLiteral?_cons_of_ne hquote hbackslash

/-- The literal that starts at the opening quote of a quoted text ends at its closing quote. -/
theorem skipLiteral?_body (cs rest : List Char) :
    skipLiteral? (Quoted.body cs ++ '"' :: rest) = some rest := by
  induction cs with
  | nil => rfl
  | cons c cs ih =>
      rw [Quoted.body_cons, List.append_assoc, skipLiteral?_escape]
      exact ih

/-! ## Emptied texts -/

/-- A document that starts with `text` is emptied to `code`, followed by the emptied rest. -/
def Blanks (text code : List Char) : Prop :=
  ∀ rest, blankLiterals (text ++ rest) = code ++ blankLiterals rest

/-- A character that is no quote stays. -/
theorem blankLiterals_cons_of_ne {c : Char} (h : c ≠ '"') (rest : List Char) :
    blankLiterals (c :: rest) = c :: blankLiterals rest := by
  rw [blankLiterals, if_neg h]

/-- A literal is emptied. -/
theorem blankLiterals_quote {rest after : List Char} (h : skipLiteral? rest = some after) :
    blankLiterals ('"' :: rest) = '"' :: '"' :: blankLiterals after := by
  rw [blankLiterals, if_pos rfl]
  split
  · rename_i found hfound
    rw [h] at hfound
    rw [Option.some.inj hfound]
  · rename_i hnone
    rw [h] at hnone
    cases hnone

/-- What is emptied on its own can be the whole document. -/
theorem Blanks.eq {text code : List Char} (h : Blanks text code) : blankLiterals text = code := by
  have hnil := h []
  rwa [blankLiterals, List.append_nil, List.append_nil] at hnil

/-- Two parts that are emptied on their own make one. -/
theorem Blanks.append {text text' code code' : List Char} (h : Blanks text code)
    (h' : Blanks text' code') : Blanks (text ++ text') (code ++ code') := by
  intro rest
  rw [List.append_assoc, h, h', List.append_assoc]

/-- A text without quotes stays as it is. -/
theorem blanks_self {text : List Char} (h : '"' ∉ text) : Blanks text text := by
  induction text with
  | nil => exact fun rest => rfl
  | cons c cs ih =>
      obtain ⟨hc, hcs⟩ := not_or.mp (mt List.mem_cons.mpr h)
      intro rest
      rw [List.cons_append, blankLiterals_cons_of_ne (Ne.symm hc), ih hcs, List.cons_append]

/-- A quoted text is emptied, whatever stands in it. -/
theorem blanks_quote (s : String) : Blanks (Quoted.quote s).toList ['"', '"'] := by
  intro rest
  rw [Quoted.toList_quote, List.cons_append, List.append_assoc, List.singleton_append]
  exact blankLiterals_quote (skipLiteral?_body s.toList rest)

/-! ## Balanced code -/

/-- Every pair of brackets occurs equally often. -/
def Balanced (code : List Char) : Prop :=
  ∀ pair ∈ bracketPairs, code.count pair.1 = code.count pair.2

instance (code : List Char) : Decidable (Balanced code) :=
  inferInstanceAs (Decidable (∀ pair ∈ bracketPairs, code.count pair.1 = code.count pair.2))

/-- The brackets are found to be balanced if every pair that is looked at is. -/
theorem checkBalance_eq_ok {code : List Char} {pairs : List (Char × Char)} :
    checkBalance code pairs = .ok () ↔
      ∀ pair ∈ pairs, code.count pair.1 = code.count pair.2 := by
  induction pairs with
  | nil => simp [checkBalance]
  | cons pair rest ih =>
      rw [List.forall_mem_cons, checkBalance]
      by_cases h : code.count pair.1 = code.count pair.2
      · rw [if_pos h, ih]
        exact (and_iff_right h).symm
      · rw [if_neg h]
        constructor
        · intro herror
          cases herror
        · intro hall
          exact absurd hall.1 h

/-- The check of the balance looks at the numbers of the brackets only. -/
theorem checkBalance_congr {code other : List Char} {pairs : List (Char × Char)}
    (h : ∀ pair ∈ pairs, code.count pair.1 = other.count pair.1 ∧
      code.count pair.2 = other.count pair.2) :
    checkBalance code pairs = checkBalance other pairs := by
  induction pairs with
  | nil => rfl
  | cons pair rest ih =>
      obtain ⟨⟨hopening, hclosing⟩, hrest⟩ := List.forall_mem_cons.mp h
      rw [checkBalance, checkBalance, hopening, hclosing, ih hrest]

/-- Two balanced codes make one. -/
theorem Balanced.append {code code' : List Char} (h : Balanced code) (h' : Balanced code') :
    Balanced (code ++ code') := by
  intro pair hpair
  rw [List.count_append, List.count_append, h pair hpair, h' pair hpair]

/-- Balanced code may be enclosed in two parts that are balanced together. -/
theorem Balanced.enclose {before code after : List Char} (h : Balanced code)
    (hends : Balanced (before ++ after)) : Balanced (before ++ code ++ after) := by
  intro pair hpair
  have hcode := h pair hpair
  have hpair := hends pair hpair
  rw [List.count_append, List.count_append] at hpair
  rw [List.count_append, List.count_append, List.count_append, List.count_append]
  omega

/-! ## Neutral texts -/

/-- The characters that the check looks at: the quote and the brackets. -/
def checkedChars : List Char := ['"', '\x7b', '\x7d', '[', ']', '(', ')']

/-- None of the characters that the check looks at stands in the text. -/
def Plain (cs : List Char) : Prop := ∀ c ∈ cs, c ∉ checkedChars

instance (cs : List Char) : Decidable (Plain cs) :=
  List.decidableBAll (p := fun c => c ∉ checkedChars) cs

/-- Characters of a kind to which no checked character belongs make a plain text. -/
theorem plain_of_forall {kind : Char → Bool} (hkind : checkedChars.any kind = false)
    {cs : List Char} (h : ∀ c ∈ cs, kind c = true) : Plain cs := by
  intro c hc hmem
  have hany : checkedChars.any kind = true := List.any_eq_true.mpr ⟨c, hmem, h c hc⟩
  rw [hkind] at hany
  cases hany

/-- Every bracket is looked at. -/
theorem mem_checkedChars_of_mem_bracketPairs :
    ∀ pair ∈ bracketPairs, pair.1 ∈ checkedChars ∧ pair.2 ∈ checkedChars := by
  decide

/-- The text is emptied on its own, and balanced then. -/
def Neutral (s : String) : Prop := ∃ code, Blanks s.toList code ∧ Balanced code

/-- A text without checked characters is neutral. -/
theorem neutral_of_plain {s : String} (h : Plain s.toList) : Neutral s := by
  refine ⟨s.toList, blanks_self ?_, ?_⟩
  · intro hquote
    exact h _ hquote (by decide)
  · intro pair hpair
    obtain ⟨hopening, hclosing⟩ := mem_checkedChars_of_mem_bracketPairs pair hpair
    rw [List.count_eq_zero_of_not_mem fun hmem => h pair.1 hmem hopening,
      List.count_eq_zero_of_not_mem fun hmem => h pair.2 hmem hclosing]

/-- A quoted text is neutral, whatever stands in it. -/
theorem neutral_quote (s : String) : Neutral (Quoted.quote s) :=
  ⟨['"', '"'], blanks_quote s, by decide⟩

/-- Two neutral texts make one. -/
theorem Neutral.append {s t : String} (hs : Neutral s) (ht : Neutral t) : Neutral (s ++ t) := by
  obtain ⟨code, hblanks, hbalanced⟩ := hs
  obtain ⟨code', hblanks', hbalanced'⟩ := ht
  refine ⟨code ++ code', ?_, hbalanced.append hbalanced'⟩
  rw [String.toList_append]
  exact hblanks.append hblanks'

/-- A neutral text may be enclosed in two texts without quotes that are balanced together. -/
theorem Neutral.enclose {before s after : String} (hs : Neutral s)
    (hquotes : '"' ∉ before.toList ++ after.toList)
    (hends : Balanced (before.toList ++ after.toList)) : Neutral (before ++ s ++ after) := by
  obtain ⟨code, hblanks, hbalanced⟩ := hs
  obtain ⟨hbefore, hafter⟩ := not_or.mp (mt List.mem_append.mpr hquotes)
  refine ⟨before.toList ++ code ++ after.toList, ?_, hbalanced.enclose hends⟩
  rw [String.toList_append, String.toList_append]
  exact ((blanks_self hbefore).append hblanks).append (blanks_self hafter)

/-- Neutral texts may be put one after the other. -/
theorem neutral_join {texts : List String} (h : ∀ s ∈ texts, Neutral s) :
    Neutral (String.join texts) := by
  induction texts with
  | nil => exact neutral_of_plain (by decide)
  | cons s rest ih =>
      obtain ⟨hs, hrest⟩ := List.forall_mem_cons.mp h
      rw [String.join_cons]
      exact hs.append (ih hrest)

/-- Neutral texts may be joined by a neutral text. -/
theorem neutral_intercalate {separator : String} (hseparator : Neutral separator)
    {texts : List String} (h : ∀ s ∈ texts, Neutral s) :
    Neutral (separator.intercalate texts) := by
  induction texts with
  | nil =>
      rw [String.intercalate_nil]
      exact neutral_of_plain (by decide)
  | cons s rest ih =>
      obtain ⟨hs, hrest⟩ := List.forall_mem_cons.mp h
      cases rest with
      | nil =>
          rw [String.intercalate_singleton]
          exact hs
      | cons t rest =>
          rw [String.intercalate_cons_cons]
          exact (hs.append hseparator).append (ih hrest)

/-! ## The check -/

/-- Characters stand somewhere in a text if the text has them in a row. -/
theorem Text.occursIn_iff {needle cs : List Char} :
    Text.occursIn needle cs = true ↔ needle <:+: cs := by
  induction cs with
  | nil => simp [Text.occursIn]
  | cons c cs ih =>
      rw [Text.occursIn, Bool.or_eq_true, List.isPrefixOf_iff_prefix, ih]
      exact List.infix_cons_iff.symm

/-- A word that starts a declaration stands in the source. -/
def Declares (source : String) : Prop := ∃ word ∈ declarationWords, word.toList <:+: source.toList

/-- In a source that declares something the brackets outside of literals are counted. -/
theorem checkSource_of_declares {source : String} (h : Declares source) :
    checkSource source = checkBalance (blankLiterals source.toList) bracketPairs := by
  obtain ⟨word, hword, hstands⟩ := h
  exact if_pos (List.any_eq_true.mpr ⟨word, hword, Text.occursIn_iff.mpr hstands⟩)

/-- A neutral source in which a declaration starts passes the check. -/
theorem checkSource_of_neutral {source word : String} (h : Neutral source)
    (hword : word ∈ declarationWords) (hstands : word.toList <:+: source.toList) :
    checkSource source = .ok () := by
  obtain ⟨code, hblanks, hbalanced⟩ := h
  rw [checkSource_of_declares ⟨word, hword, hstands⟩, hblanks.eq]
  exact checkBalance_eq_ok.mpr hbalanced

end ShapeTypes
