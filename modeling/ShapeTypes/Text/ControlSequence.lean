/-!
# Control sequences

A terminal takes some sequences of characters for commands, such as a change of colour: the escape
character and an opening bracket, parameters, intermediate characters, and a final character. A text
that goes elsewhere is written without them.

* `afterControl?`: what follows the rest of such a sequence, once its escape character is read.
* `plain`: the text without such sequences.
-/

namespace ShapeTypes.Text

/-- The character that starts a control sequence. -/
def escapeCharacter : Char := '\x1b'

/-- A parameter of a control sequence: a digit, or a mark from the colon to the question mark. -/
def isParameter (c : Char) : Bool := '\x30' ≤ c && c ≤ '\x3f'

/-- An intermediate character of a control sequence: the space, or a mark up to the slash. -/
def isIntermediate (c : Char) : Bool := '\x20' ≤ c && c ≤ '\x2f'

/-- A final character of a control sequence: a letter, or a mark from the at sign to the tilde. -/
def isFinal (c : Char) : Bool := '\x40' ≤ c && c ≤ '\x7e'

/-- What follows a control sequence whose escape character stands before the text. -/
def afterControl? : List Char → Option (List Char)
  | '[' :: rest =>
    match (rest.dropWhile isParameter).dropWhile isIntermediate with
    | c :: after => if isFinal c then some after else none
    | [] => none
  | _ => none

/-- What follows a control sequence is shorter than what starts inside it. -/
theorem length_of_afterControl? {cs after : List Char} (h : afterControl? cs = some after) :
    after.length < cs.length := by
  unfold afterControl? at h
  split at h
  next rest =>
    split at h
    next c tail hc =>
      split at h
      · cases h
        have outer : (c :: after).length ≤ (rest.dropWhile isParameter).length :=
          hc ▸ (List.dropWhile_sublist isIntermediate).length_le
        have inner : (rest.dropWhile isParameter).length ≤ rest.length :=
          (List.dropWhile_sublist isParameter).length_le
        rw [List.length_cons] at outer ⊢
        omega
      · cases h
    next => cases h
  next => cases h

/-- The characters outside of control sequences. -/
def plainChars (cs : List Char) : List Char :=
  match cs with
  | [] => []
  | c :: rest =>
    if c = escapeCharacter then
      match _h : afterControl? rest with
      | some after => plainChars after
      | none => c :: plainChars rest
    else c :: plainChars rest
termination_by cs.length
decreasing_by
  · exact Nat.lt_succ_of_lt (length_of_afterControl? _h)
  · exact Nat.lt_succ_self _
  · exact Nat.lt_succ_self _

/-- The text without control sequences. -/
def plain (s : String) : String := String.ofList (plainChars s.toList)

end ShapeTypes.Text
