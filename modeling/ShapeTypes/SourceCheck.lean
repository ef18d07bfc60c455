import ShapeTypes.Shape.Ignored
import ShapeTypes.Text.CodePoint

/-!
# The check of generated source

Before source is written it is checked superficially: it declares something, and outside of string
literals its brackets are balanced in number.

* `skipLiteral?`: the end of the string literal that starts at a quote.
* `blankLiterals`: the source with every string literal emptied.
* `checkSource`: the check; `checkText`: the same for a text that may hold surrogates.
-/

namespace ShapeTypes

/-- What follows the string literal whose opening quote stands before `cs`. A literal may hold any
character but a lone quote, and a backslash takes the next character with it, which must not be a
line feed. -/
def skipLiteral? : List Char → Option (List Char)
  | [] => none
  | '"' :: rest => some rest
  | '\\' :: c :: rest => if c = '\n' then none else skipLiteral? rest
  | ['\\'] => none
  | _ :: rest => skipLiteral? rest

/-- What follows a literal is shorter than what starts inside it. -/
theorem length_of_skipLiteral? {cs rest : List Char} (h : skipLiteral? cs = some rest) :
    rest.length < cs.length := by
  fun_induction skipLiteral? cs with
  | case1 => cases h
  | case2 => cases h; simp
  | case3 => cases h
  | case4 c tail hc ih => have := ih h; simp only [List.length_cons]; omega
  | case5 => cases h
  | case6 => rename_i ih; have := ih h; simp only [List.length_cons]; omega

/-- The source with every string literal emptied; a quote that opens none stands for itself. -/
def blankLiterals (cs : List Char) : List Char :=
  match cs with
  | [] => []
  | c :: rest =>
    if c = '"' then
      match _h : skipLiteral? rest with
      | some after => '"' :: '"' :: blankLiterals after
      | none => c :: blankLiterals rest
    else c :: blankLiterals rest
termination_by cs.length
decreasing_by
  · have := length_of_skipLiteral? _h; simp only [List.length_cons]; omega
  · simp
  · simp

/-- The pairs of brackets that are counted. -/
def bracketPairs : List (Char × Char) := [('\x7b', '\x7d'), ('[', ']'), ('(', ')')]

/-- The words that start a declaration. -/
def declarationWords : List String := ["interface ", "type "]

/-- Every pair of brackets occurs equally often; the first pair that does not is reported. -/
def checkBalance (code : List Char) : List (Char × Char) → Except Failure Unit
  | [] => .ok ()
  | (opening, closing) :: rest =>
    if code.count opening = code.count closing then checkBalance code rest
    else .error (.unbalanced opening closing (code.count opening) (code.count closing))

/-- The source declares something and its brackets are balanced outside of string literals. -/
def checkSource (source : String) : Except Failure Unit :=
  if declarationWords.any fun word => Text.occursIn word.toList source.toList then
    checkBalance (blankLiterals source.toList) bracketPairs
  else .error .noDeclarations

/-- The check of a text. A surrogate is no quote, no bracket and no letter of a word. -/
def checkText (text : List Text.CodePoint) : Except Failure Unit := checkSource (Text.marked text)

@[simp] theorem checkText_points (source : String) :
    checkText (Text.points source) = checkSource source := by
  rw [checkText, Text.marked_points]

end ShapeTypes
