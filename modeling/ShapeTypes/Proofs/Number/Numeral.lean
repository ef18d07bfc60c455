import ShapeTypes.Number.Numeral

/-!
# The characters of numerals

* `isNumeralChar`: the characters that numerals are written with.
* `isNumeralChar_of_mem_integerText`, `isNumeralChar_of_mem_numeral`: **the text of an integer, and
  that of a finite double in any style, are written with them**.
* `isNumeralStart`: the characters that numerals start with; `isNumeralStart_of_head_integerText`,
  `isNumeralStart_of_head_numeral`: no numeral starts with a letter.
-/

namespace ShapeTypes

/-- A decimal digit, a sign, the decimal point, or the mark of an exponent. -/
def isNumeralChar (c : Char) : Bool := c.isDigit || c == '-' || c == '+' || c == '.' || c == 'e'

/-- A decimal digit stands in numerals. -/
theorem isNumeralChar_of_isDigit {c : Char} (h : c.isDigit = true) : isNumeralChar c = true := by
  simp [isNumeralChar, h]

/-- The digits of a natural number stand in numerals. -/
theorem all_decimal (n : Nat) : (decimal n).all isNumeralChar = true := by
  refine List.all_eq_true.mpr fun c hc => ?_
  exact isNumeralChar_of_isDigit (Nat.isDigit_of_mem_toDigits (by decide) (by decide) hc)

/-- Zeros stand in numerals. -/
theorem all_replicate_zero (n : Nat) : (List.replicate n '0').all isNumeralChar = true := by
  refine List.all_eq_true.mpr fun c hc => ?_
  rw [List.eq_of_mem_replicate hc]
  decide

/-- An integer is written with the characters of numerals. -/
theorem isNumeralChar_of_mem_integerText {n : Int} {c : Char} (h : c ∈ (integerText n).toList) :
    isNumeralChar c = true := by
  have hdigits := List.all_eq_true.mp (all_decimal n.natAbs)
  unfold integerText at h
  rw [String.toList_ofList] at h
  split at h
  · rcases List.mem_cons.mp h with rfl | hc
    · decide
    · exact hdigits c hc
  · exact hdigits c h

namespace NumeralStyle

variable (style : NumeralStyle)

/-- An exponent is written with the characters of numerals. -/
theorem all_exponentText (exponent : Int) :
    (style.exponentText exponent).all isNumeralChar = true := by
  have hsign : isNumeralChar (if exponent < 0 then '-' else '+') = true := by
    split <;> decide
  simp only [exponentText, List.all_cons, List.all_append, hsign, all_replicate_zero, all_decimal,
    Bool.and_self]

/-- A decimal is written with the characters of numerals if its digits are. -/
theorem all_layout {digits : List Char} (h : digits.all isNumeralChar = true) (point : Int) :
    (style.layout digits point).all isNumeralChar = true := by
  have htake (n : Nat) : (digits.take n).all isNumeralChar = true :=
    List.all_eq_true.mpr fun c hc => List.all_eq_true.mp h c (List.mem_of_mem_take hc)
  have hdrop (n : Nat) : (digits.drop n).all isNumeralChar = true :=
    List.all_eq_true.mpr fun c hc => List.all_eq_true.mp h c (List.mem_of_mem_drop hc)
  have hzero : isNumeralChar '0' = true := by decide
  have hpoint : isNumeralChar '.' = true := by decide
  have hmark : isNumeralChar 'e' = true := by decide
  unfold layout
  split
  · split
    · simp only [List.all_cons, List.all_append, hzero, hpoint, all_replicate_zero, h,
        Bool.and_self]
    · simp only [List.all_cons, List.all_append, hpoint, all_replicate_zero, htake, Bool.true_and]
      split
      · decide
      · exact hdrop point.toNat
  · cases digits with
    | nil => rfl
    | cons first rest =>
        obtain ⟨hfirst, hrest⟩ := Bool.and_eq_true_iff.mp h
        simp only [List.all_cons, List.all_append, hfirst, hmark, all_exponentText, Bool.and_true,
          Bool.true_and]
        split
        · rfl
        · rw [List.all_cons, hpoint, hrest, Bool.and_self]

end NumeralStyle

namespace Double

/-- A finite double without its sign is written with the characters of numerals. -/
theorem all_magnitude (style : NumeralStyle) (mantissa : Nat) (exponent : Int) :
    (magnitude style mantissa exponent).all isNumeralChar = true := by
  unfold magnitude
  split
  · exact style.all_layout (by decide) 1
  · refine style.all_layout ?_ _
    refine List.all_eq_true.mpr fun c hc => ?_
    -- dropping zeros at the end leaves digits only
    have hmem := List.dropWhile_subset _ (List.mem_reverse.mp hc)
    exact List.all_eq_true.mp (all_decimal _) c (List.mem_reverse.mp hmem)

/-- A finite double is written with the characters of numerals. -/
theorem isNumeralChar_of_mem_numeral {style : NumeralStyle} {x : Double} (hx : x.isFinite = true)
    {c : Char} (h : c ∈ (x.numeral style).toList) : isNumeralChar c = true := by
  cases x with
  | nan payload => cases hx
  | infinity negative => cases hx
  | finite negative mantissa exponent =>
      rw [numeral, String.toList_append, String.toList_ofList] at h
      rcases List.mem_append.mp h with hsign | hdigits
      · cases negative with
        | false => cases hsign
        | true =>
            rw [List.mem_singleton.mp hsign]
            decide
      · exact List.all_eq_true.mp (all_magnitude style mantissa exponent) c hdigits

end Double

/-! ## First characters -/

/-- A decimal digit or a minus sign. -/
def isNumeralStart (c : Char) : Bool := c.isDigit || c == '-'

/-- A decimal digit may be the first character. -/
theorem isNumeralStart_of_isDigit {c : Char} (h : c.isDigit = true) : isNumeralStart c = true := by
  simp [isNumeralStart, h]

/-- The characters of a natural number are digits. -/
theorem isDigit_of_mem_decimal {n : Nat} {c : Char} (h : c ∈ decimal n) : c.isDigit = true :=
  Nat.isDigit_of_mem_toDigits (by decide) (by decide) h

/-- An integer starts with a digit or its sign. -/
theorem isNumeralStart_of_head_integerText {n : Int} {c : Char}
    (h : c ∈ (integerText n).toList.head?) : isNumeralStart c = true := by
  unfold integerText at h
  rw [String.toList_ofList] at h
  split at h
  · cases h
    rfl
  · exact isNumeralStart_of_isDigit (isDigit_of_mem_decimal (List.mem_of_mem_head? h))

/-- A decimal starts with a digit if its digits are digits. -/
theorem NumeralStyle.isDigit_of_head_layout (style : NumeralStyle) {digits : List Char}
    (h : ∀ c ∈ digits, c.isDigit = true) (point : Int) {c : Char}
    (hc : c ∈ (style.layout digits point).head?) : c.isDigit = true := by
  unfold layout at hc
  split at hc
  · split at hc
    · cases hc
      rfl
    · -- before the decimal point stand as many digits and zeros as its position says
      rename_i hpoint
      dsimp only at hc
      have hne : digits.take point.toNat ++
          List.replicate (point.toNat - (digits.take point.toNat).length) '0' ≠ [] := by
        intro hnil
        have hlength := congrArg List.length hnil
        simp only [List.length_append, List.length_replicate, List.length_nil] at hlength
        omega
      rw [List.head?_append, List.head?_eq_some_head hne, Option.some_or,
        ← List.head?_eq_some_head hne] at hc
      rcases List.mem_append.mp (List.mem_of_mem_head? hc) with hdigit | hzero
      · exact h c (List.mem_of_mem_take hdigit)
      · rw [List.eq_of_mem_replicate hzero]
        rfl
  · cases digits with
    | nil => cases hc
    | cons first rest =>
        cases hc
        exact h _ List.mem_cons_self

namespace Double

/-- A finite double without its sign starts with a digit. -/
theorem isDigit_of_head_magnitude {style : NumeralStyle} {mantissa : Nat} {exponent : Int}
    {c : Char} (h : c ∈ (magnitude style mantissa exponent).head?) : c.isDigit = true := by
  unfold magnitude at h
  split at h
  · exact style.isDigit_of_head_layout (List.forall_mem_singleton.mpr rfl) 1 h
  · refine style.isDigit_of_head_layout (fun d hd => ?_) _ h
    have hmem := List.dropWhile_subset _ (List.mem_reverse.mp hd)
    exact isDigit_of_mem_decimal (List.mem_reverse.mp hmem)

/-- A finite double starts with a digit or its sign. -/
theorem isNumeralStart_of_head_numeral {style : NumeralStyle} {x : Double}
    (hx : x.isFinite = true) {c : Char} (h : c ∈ (x.numeral style).toList.head?) :
    isNumeralStart c = true := by
  cases x with
  | nan payload => cases hx
  | infinity negative => cases hx
  | finite negative mantissa exponent =>
      rw [numeral, String.toList_append, String.toList_ofList] at h
      cases negative with
      | true =>
          cases h
          rfl
      | false => exact isNumeralStart_of_isDigit (isDigit_of_head_magnitude h)

end Double

end ShapeTypes
