import ShapeTypes.Name.Derived

/-!
# Names from file stems

* `words`: the words of a text: runs of small letters, capital letters with the small letters that
  follow them, and runs of digits.
* `pascalCase`: the words, capitalised and joined.
-/

namespace ShapeTypes.Name

/-- A small letter of the Latin alphabet. -/
def isSmall (c : Char) : Bool := 'a' ≤ c && c ≤ 'z'

/-- A capital letter of the Latin alphabet. -/
def isCapital (c : Char) : Bool := 'A' ≤ c && c ≤ 'Z'

/-- A decimal digit. -/
def isNumeric (c : Char) : Bool := '0' ≤ c && c ≤ '9'

/-- The words of a text, from left to right; what belongs to no word is dropped. -/
def words (cs : List Char) : List (List Char) :=
  match cs with
  | [] => []
  | c :: rest =>
    if isSmall c || isCapital c then
      (c :: rest.takeWhile isSmall) :: words (rest.dropWhile isSmall)
    else if isNumeric c then
      (c :: rest.takeWhile isNumeric) :: words (rest.dropWhile isNumeric)
    else words rest
termination_by cs.length
decreasing_by
  all_goals simp only [List.length_cons]
  · exact Nat.lt_succ_of_le (List.dropWhile_sublist _).length_le
  · exact Nat.lt_succ_of_le (List.dropWhile_sublist _).length_le
  · exact Nat.lt_succ_self _

/-- The words of a text, capitalised and joined. -/
def pascalCase (text : String) : String :=
  String.ofList ((words text.toList).flatMap capitalizedChars)

end ShapeTypes.Name
