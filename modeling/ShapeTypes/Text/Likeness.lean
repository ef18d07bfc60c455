/-!
# Likeness of words

Two words are compared by what they share: their longest common block, and then, on either side of
it, what the parts before it and the parts after it share.

* `longestBlock`: the longest common block; of several, the first one in the first word and then
  the first one in the second.
* `shared`: the number of characters shared in all.
* `isLike`: at least three fifths of the characters of both words together are shared.
* `closest`: those words of a list that are most like a word, in alphabetical order.
-/

namespace ShapeTypes.Text

/-- The length of the longest common beginning of two words. -/
def commonStart : List Char → List Char → Nat
  | x :: xs, y :: ys => if x = y then commonStart xs ys + 1 else 0
  | _, _ => 0

/-- A part of one word that is a part of another one, too. -/
structure CommonBlock where
  /-- The place in the first word. -/
  first : Nat
  /-- The place in the second word. -/
  second : Nat
  /-- The number of characters. -/
  size : Nat

/-- The longest of some blocks, the first one of several. -/
def CommonBlock.longest (blocks : List CommonBlock) : CommonBlock :=
  blocks.foldl (fun best block => if best.size < block.size then block else best) ⟨0, 0, 0⟩

/-- The longest common block of two words. -/
def longestBlock (xs ys : List Char) : CommonBlock :=
  CommonBlock.longest <|
    (List.range xs.length).flatMap fun i =>
      (List.range ys.length).map fun j => ⟨i, j, commonStart (xs.drop i) (ys.drop j)⟩

/-- The number of characters that two words share in blocks. -/
def shared (xs ys : List Char) : Nat :=
  match longestBlock xs ys with
  | ⟨first, second, size⟩ =>
    if _h : 0 < size ∧ first < xs.length then
      shared (xs.take first) (ys.take second) + size +
        shared (xs.drop (first + size)) (ys.drop (second + size))
    else 0
termination_by xs.length
decreasing_by
  · rw [List.length_take]; omega
  · rw [List.length_drop]; omega

/-- At least three fifths of the characters of two words together are shared. Words of too
different a length cannot share as many. -/
def isLike (x y : String) : Bool :=
  let total := x.length + y.length
  decide (3 * total ≤ 10 * min x.length y.length) &&
    decide (3 * total ≤ 10 * shared x.toList y.toList)

/-- The first word shares a greater part with `word` than the second one, or as great a part and
comes later in the alphabet. -/
def isCloser (word x y : String) : Bool :=
  let left := shared x.toList word.toList * (y.length + word.length)
  let right := shared y.toList word.toList * (x.length + word.length)
  decide (right < left) || (left == right && decide (y < x))

/-- The words that are like `word`, those `count` of them that are closest to it if there are more,
in alphabetical order. -/
def closest (count : Nat) (words : List String) (word : String) : List String :=
  let alike := words.filter (isLike · word)
  let kept := alike.filter fun x => (alike.filter (isCloser word · x)).length < count
  kept.mergeSort fun x y => decide (x ≤ y)

end ShapeTypes.Text
