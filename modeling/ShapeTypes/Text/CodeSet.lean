/-!
# Sets of code points

A property of characters is a set of code points, written by its boundaries in increasing order: the
first code point inside, the first one outside again, and so on.

* `CodeSet.contains`: membership, by counting boundaries. The count rests on the order of the
  boundaries, which a set carries along.
* `CodeSet.contains_iff`: membership is to lie in one of the intervals between the boundaries.
-/

namespace ShapeTypes.Text

/-- Every number is less than the next one. -/
def isIncreasing : List Nat → Bool
  | m :: n :: rest => decide (m < n) && isIncreasing (n :: rest)
  | _ => true

/-- A set of code points, given by its boundaries. -/
structure CodeSet where
  /-- First code point inside, first one outside again, first one inside again, … -/
  bounds : List Nat
  /-- The boundaries increase. -/
  increasing : isIncreasing bounds = true

namespace CodeSet

/-- An odd number of boundaries is at most `code`. -/
def inBounds (code : Nat) : List Nat → Bool
  | [] => false
  | b :: bs => decide (b ≤ code) && !inBounds code bs

/-- The character belongs to the set. -/
def contains (set : CodeSet) (c : Char) : Bool := inBounds c.toNat set.bounds

/-- The intervals between boundaries: the first code point inside and the first one outside again; a
last boundary without a partner starts an interval without an end. -/
def intervals : List Nat → List (Nat × Option Nat)
  | [] => []
  | [first] => [(first, none)]
  | first :: next :: rest => (first, some next) :: intervals rest

/-- What lies before the first boundary is outside. -/
theorem inBounds_of_lt {code b : Nat} (bs : List Nat) (h : code < b) :
    inBounds code (b :: bs) = false := by
  simp [inBounds, Nat.not_le.mpr h]

/-- What lies before the first of increasing boundaries is before all of them. -/
theorem inBounds_rest_of_lt {code b : Nat} {bs : List Nat}
    (hincreasing : isIncreasing (b :: bs) = true) (h : code < b) : inBounds code bs = false := by
  cases bs with
  | nil => rfl
  | cons b' bs =>
      simp only [isIncreasing, Bool.and_eq_true, decide_eq_true_eq] at hincreasing
      exact inBounds_of_lt bs (Nat.lt_trans h hincreasing.1)

/-- Within increasing boundaries an odd number is at most `code` if it lies in an interval. -/
theorem inBounds_iff {code : Nat} {bounds : List Nat} (h : isIncreasing bounds = true) :
    inBounds code bounds = true ↔
      ∃ interval ∈ intervals bounds, interval.1 ≤ code ∧ ∀ next ∈ interval.2, code < next := by
  fun_induction intervals bounds with
  | case1 => simp [inBounds]
  | case2 first => simp [inBounds]
  | case3 first next rest ih =>
      have htail : isIncreasing (next :: rest) = true := (Bool.and_eq_true_iff.mp h).2
      have hrest : isIncreasing rest = true := by
        cases rest with
        | nil => rfl
        | cons _ _ => exact (Bool.and_eq_true_iff.mp htail).2
      simp only [List.mem_cons, or_and_right, exists_or, exists_eq_left, ← ih hrest]
      -- before the second boundary the rest holds nothing, behind it the first pair cancels out
      by_cases hnext : code < next
      · simp [inBounds, inBounds_rest_of_lt htail hnext, hnext]
      · have hfirst : first ≤ code := by
          simp only [isIncreasing, Bool.and_eq_true, decide_eq_true_eq] at h
          omega
        simp [inBounds, hfirst, Nat.not_lt.mp hnext, hnext]

/-- **A character belongs to a set if it lies in one of the intervals between the boundaries.** -/
theorem contains_iff {set : CodeSet} {c : Char} :
    set.contains c = true ↔ ∃ interval ∈ intervals set.bounds,
      interval.1 ≤ c.toNat ∧ ∀ next ∈ interval.2, c.toNat < next :=
  inBounds_iff set.increasing

end CodeSet

end ShapeTypes.Text
