import ShapeTypes.Proofs.SourceCheck

/-!
# What the check makes of string literals

The check reads source text from left to right, and a quote may open a literal as well as close one.
In code without quotes, with quoted texts in between, every literal is found where it was put: the
verdict hangs on the code alone.

* `QuotedCode`: code with string literals in it, as it is put together; `QuotedCode.source`,
  `QuotedCode.code`: its text, and the code without the literals.
* `QuotedCode.blanks_source`: the literals are emptied one by one, and nothing else changes.
* `QuotedCode.checkSource_source`: **the check counts the brackets of the code**.
* `QuotedCode.checkSource_source_iff`: so it passes if they are balanced, and its verdict stays the
  same for other texts in the literals.
-/

namespace ShapeTypes

/-! ## Code with literals -/

/-- Code with string literals in it: the code before the first literal, then the text of every
literal with the code that follows it. No quote stands in the code. -/
structure QuotedCode where
  /-- The code before the first literal. -/
  start : String
  /-- The texts of the literals, each with the code that follows it. -/
  parts : List (String × String)
  /-- No quote stands in the code before the first literal. -/
  quote_not_mem_start : '"' ∉ start.toList
  /-- No quote stands in the code that follows a literal. -/
  quote_not_mem_parts : ∀ part ∈ parts, '"' ∉ part.2.toList

namespace QuotedCode

/-- The text, with the literals between quotes. -/
def source (quoted : QuotedCode) : String :=
  quoted.start ++ String.join (quoted.parts.map fun part => Text.Quoted.quote part.1 ++ part.2)

/-- The code without the literals. -/
def code (quoted : QuotedCode) : String :=
  quoted.start ++ String.join (quoted.parts.map Prod.snd)

/-- The code with the literals emptied. -/
def blanked (quoted : QuotedCode) : List Char :=
  quoted.start.toList ++ quoted.parts.flatMap fun part => '"' :: '"' :: part.2.toList

/-- The two have the same code around their literals. -/
def SameCode (quoted other : QuotedCode) : Prop :=
  quoted.start = other.start ∧ quoted.parts.map Prod.snd = other.parts.map Prod.snd

variable {quoted other : QuotedCode}

/-- The literals are emptied one by one, and nothing else changes. -/
theorem blanks_source (quoted : QuotedCode) : Blanks quoted.source.toList quoted.blanked := by
  obtain ⟨start, parts, hstart, hparts⟩ := quoted
  rw [source, String.toList_append]
  refine (blanks_self hstart).append ?_
  induction parts with
  | nil => exact blanks_self List.not_mem_nil
  | cons part rest ih =>
      obtain ⟨hpart, hrest⟩ := List.forall_mem_cons.mp hparts
      rw [List.map_cons, String.join_cons, String.toList_append, String.toList_append,
        List.flatMap_cons]
      exact ((blanks_quote part.1).append (blanks_self hpart)).append (ih hrest)

/-- The emptied literals hold no bracket. -/
theorem count_blanked {c : Char} (h : c ≠ '"') (quoted : QuotedCode) :
    quoted.blanked.count c = quoted.code.toList.count c := by
  rw [blanked, code, String.toList_append, List.count_append, List.count_append]
  congr 1
  induction quoted.parts with
  | nil => rfl
  | cons part rest ih =>
      rw [List.flatMap_cons, List.map_cons, String.join_cons, String.toList_append,
        List.count_append, List.count_append, ih, List.count_cons_of_ne (Ne.symm h),
        List.count_cons_of_ne (Ne.symm h)]

/-- No bracket is a quote. -/
theorem bracketPairs_ne_quote : ∀ pair ∈ bracketPairs, pair.1 ≠ '"' ∧ pair.2 ≠ '"' := by
  decide

/-- **The check counts the brackets of the code.** -/
theorem checkSource_source (h : Declares quoted.source) :
    checkSource quoted.source = checkBalance quoted.code.toList bracketPairs := by
  rw [checkSource_of_declares h, quoted.blanks_source.eq]
  refine checkBalance_congr fun pair hpair => ?_
  obtain ⟨hopening, hclosing⟩ := bracketPairs_ne_quote pair hpair
  exact ⟨count_blanked hopening quoted, count_blanked hclosing quoted⟩

/-- The code does not depend on the texts of the literals. -/
theorem SameCode.code_eq (h : SameCode quoted other) : quoted.code = other.code := by
  rw [code, code, h.1, h.2]

/-- **Code with literals in it passes the check exactly if the brackets of the code are balanced**,
and with other texts in the literals the check comes to the same verdict. -/
theorem checkSource_source_iff (h : Declares quoted.source) :
    (checkSource quoted.source = .ok () ↔ Balanced quoted.code.toList) ∧
      ∀ other : QuotedCode, SameCode other quoted → Declares other.source →
        checkSource other.source = checkSource quoted.source := by
  constructor
  · rw [checkSource_source h]
    exact checkBalance_eq_ok
  · intro other hsame hother
    rw [checkSource_source h, checkSource_source hother, hsame.code_eq]

/-- An interface whose literals hold brackets, quotes and backslashes. -/
def bracketInterface : QuotedCode where
  start := "interface Bracket \x7b\n    "
  parts := [("[", ": ("), ("]\\", " | "), ("\"\x7b", ")[];\n\x7d")]
  quote_not_mem_start := by decide
  quote_not_mem_parts := by decide

/-- The same interface with letters in its literals. -/
def letterInterface : QuotedCode :=
  { bracketInterface with
    parts := [("a", ": ("), ("b", " | "), ("c", ")[];\n\x7d")]
    quote_not_mem_parts := by decide }

/-- The interface passes the check with brackets in its literals, and with letters. -/
theorem checkSource_bracketInterface : Declares bracketInterface.source ∧
    Declares letterInterface.source ∧ Balanced bracketInterface.code.toList ∧
    checkSource bracketInterface.source = .ok () ∧ checkSource letterInterface.source = .ok () := by
  have hbrackets : Declares bracketInterface.source := ⟨"interface ", by decide, by decide +kernel⟩
  have hletters : Declares letterInterface.source := ⟨"interface ", by decide, by decide +kernel⟩
  have hbalanced : Balanced bracketInterface.code.toList := by decide +kernel
  obtain ⟨hpasses, hother⟩ := checkSource_source_iff hbrackets
  have hok := hpasses.mpr hbalanced
  have hsame := hother letterInterface ⟨rfl, rfl⟩ hletters
  exact ⟨hbrackets, hletters, hbalanced, hok, hsame.trans hok⟩

end QuotedCode

end ShapeTypes
