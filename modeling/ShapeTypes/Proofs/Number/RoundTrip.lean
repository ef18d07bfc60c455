import Mathlib.Data.List.TakeWhile
import ShapeTypes.Proofs.Number.Reading
import ShapeTypes.Proofs.Number.Shortest

/-!
# Numbers are read back

* `readNumeral_integerText`: **an integer that is not too long is read back from its text**.
* `Double.readNumeral_numeral`: **a finite double is read back from its text** in every style. The
  text has the shortest digits of the double, and they round to it.
* `integerText_inj`, `Double.numeral_inj`, `integerText_ne_numeral`: so numbers are told apart by
  their texts.
-/

namespace ShapeTypes

open Json

/-! ## Integers -/

/-- The text of an integer is its sign and its digits. -/
theorem toList_integerText (n : Int) :
    (integerText n).toList = signText (decide (n < 0)) ++ decimal n.natAbs := by
  rw [integerText, String.toList_ofList]
  by_cases h : n < 0
  · simp only [signText, h, decide_true, if_true, List.singleton_append]
  · simp only [signText, h, decide_false, Bool.false_eq_true, if_false, List.nil_append]

/-- **An integer is read back** if its digits are not too many. -/
theorem readNumeral_integerText (n : Int) : readNumeral (integerText n).toList =
    if maxIntegerDigits < (decimal n.natAbs).length then
      misread .longInteger (integerText n).toList
    else .ok (.int n, []) := by
  rw [toList_integerText, readNumeral_whole (isWhole_decimal n.natAbs), digitsValue_decimal]
  congr 3
  by_cases h : n < 0
  · simp only [h, decide_true, if_true]
    congr 1
    omega
  · simp only [h, decide_false, Bool.false_eq_true, if_false]
    congr 1
    omega

/-- Integers of any length are told apart by their texts. -/
theorem integerText_inj {m n : Int} (h : integerText m = integerText n) : m = n := by
  have htext := congrArg String.toList h
  rw [toList_integerText, toList_integerText] at htext
  have hminus (m n : Int) (heq : '-' :: decimal m.natAbs = decimal n.natAbs) : False :=
    (isWhole_decimal n.natAbs).head_ne_minus [] '-' (by rw [List.append_nil, ← heq]; rfl) rfl
  have hdigits (heq : decimal m.natAbs = decimal n.natAbs) : m.natAbs = n.natAbs := by
    rw [← digitsValue_decimal m.natAbs, heq, digitsValue_decimal]
  by_cases hm : m < 0
  · by_cases hn : n < 0
    · simp only [signText, hm, hn, decide_true, if_true] at htext
      have habs := hdigits (List.append_cancel_left htext)
      omega
    · simp only [signText, hm, hn, decide_true, decide_false, if_true] at htext
      exact (hminus m n htext).elim
  · by_cases hn : n < 0
    · simp only [signText, hm, hn, decide_true, decide_false, if_true] at htext
      exact (hminus n m htext.symm).elim
    · simp only [signText, hm, hn, decide_false] at htext
      have habs := hdigits (List.append_cancel_left htext)
      omega

/-! ## Doubles -/

/-- The digits of a natural number without the zeros at their end. -/
def significant (n : Nat) : List Char := ((decimal n).reverse.dropWhile (· == '0')).reverse

/-- The digits of a natural number are the significant ones and zeros. -/
theorem exists_decimal_eq (n : Nat) : ∃ zeros : Nat,
    decimal n = significant n ++ List.replicate zeros '0' := by
  have hzeros : ∀ c ∈ (decimal n).reverse.takeWhile (· == '0'), c = '0' :=
    fun c hc => beq_iff_eq.mp (List.mem_takeWhile_imp (p := (· == '0')) hc)
  refine ⟨((decimal n).reverse.takeWhile (· == '0')).length, ?_⟩
  rw [significant, ← List.reverse_replicate, ← List.eq_replicate_of_mem hzeros,
    ← List.reverse_append, List.takeWhile_append_dropWhile, List.reverse_reverse]

/-- The zeros are a power of ten. -/
theorem exists_eq_significant_mul (n : Nat) : ∃ zeros : Nat,
    n = digitsValue (significant n) * Nat.pow 10 zeros ∧
      (decimal n).length = (significant n).length + zeros := by
  obtain ⟨zeros, htext⟩ := exists_decimal_eq n
  refine ⟨zeros, ?_, ?_⟩
  · have hvalue := digitsValue_decimal n
    rw [htext, digitsValue_append, digitsValue_replicate_zero, List.length_replicate,
      Nat.add_zero] at hvalue
    exact hvalue.symm
  · rw [htext, List.length_append, List.length_replicate]

/-- The significant digits are digits. -/
theorem isDigit_of_mem_significant {n : Nat} {c : Char} (h : c ∈ significant n) :
    isDigit c = true := by
  obtain ⟨zeros, htext⟩ := exists_decimal_eq n
  have hmem : c ∈ decimal n := by
    rw [htext]
    exact List.mem_append_left _ h
  exact isDigit_of_mem_decimal hmem

/-- A positive number has a significant digit other than zero in front. -/
theorem head_significant {n : Nat} (h : 0 < n) : (significant n).head? ≠ some '0' := by
  intro hhead
  obtain ⟨zeros, htext⟩ := exists_decimal_eq n
  have hzero : (decimal n).head? = some '0' := by
    rw [htext, List.head?_append, hhead]
    rfl
  exact h.ne' (eq_zero_of_head_decimal hzero)

namespace Double

section

variable {mantissa : Nat} {exponent : Int} (style : NumeralStyle) (negative : Bool)

/-- The layout of digits that round to a double is read as the double. -/
theorem readNumeral_layout (hnormal : IsNormal mantissa exponent) (hpos : 0 < mantissa)
    {digits : List Char} (hdigits : ∀ c ∈ digits, isDigit c = true)
    (hhead : digits.head? ≠ some '0') {point : Int}
    (h : RoundsTo (digitsValue digits * 10 ^ (point - digits.length)) mantissa exponent) :
    readNumeral (signText negative ++ style.layout digits point) =
      .ok (.double (.finite negative mantissa exponent), []) := by
  have hne : digits ≠ [] := by
    rintro rfl
    exact absurd (h.digits_pos hnormal hpos) (Nat.lt_irrefl 0)
  obtain ⟨numeral, htext, zeros, hdecimal, hpower⟩ : ∃ numeral, style.IsNumeralFor _ _ numeral :=
    NumeralStyle.exists_numeral hne hdigits fun hzero => absurd hzero hhead
  rw [htext, readNumeral_text, ofDecimal_eq hnormal hpos]
  rw [hdecimal, hpower]
  convert h using 1
  rw [Nat.pow_eq]
  push_cast
  rw [zpow_sub₀ (by norm_num), zpow_natCast, mul_assoc, mul_div_cancel₀ _ (by positivity)]

/-- The layout of the number zero is read as the zero of its sign. -/
theorem readNumeral_layout_zero : readNumeral (signText negative ++ style.layout ['0'] 1) =
    .ok (.double (.zero negative), []) := by
  obtain ⟨numeral, htext, zeros, hdecimal, -⟩ : ∃ numeral, style.IsNumeralFor ['0'] 1 numeral :=
    NumeralStyle.exists_numeral isWhole_zero.nonempty isWhole_zero.digits fun _ => ⟨rfl, rfl⟩
  have hvalue : digitsValue ['0'] * Nat.pow 10 zeros = 0 := Nat.zero_mul _
  rw [htext, readNumeral_text, hdecimal, hvalue]
  rfl

/-- A finite double is read back without its sign. -/
theorem readNumeral_magnitude (hnormal : IsNormal mantissa exponent) :
    readNumeral (signText negative ++ magnitude style mantissa exponent) =
      .ok (.double (.finite negative mantissa exponent), []) := by
  unfold magnitude
  split
  · rename_i hzero
    have hexponent : exponent = minExponent := hnormal.full.resolve_right (by rw [hzero]; decide)
    rw [readNumeral_layout_zero, hzero, hexponent]
    rfl
  · rename_i hzero
    have hpos := Nat.pos_of_ne_zero hzero
    have hrounds := roundsTo_shortest hnormal hpos
    generalize shortest mantissa exponent = found at *
    obtain ⟨digits, power⟩ := found
    dsimp only at *
    have hdigits := hrounds.digits_pos hnormal hpos
    obtain ⟨zeros, hvalue, hlength⟩ := exists_eq_significant_mul digits
    refine readNumeral_layout style negative hnormal hpos
      (fun _ => isDigit_of_mem_significant) (head_significant hdigits) ?_
    have hcast : (digits : ℚ) = digitsValue (significant digits) * 10 ^ zeros := by
      exact_mod_cast hvalue
    convert hrounds using 1
    -- the zeros at the end are digits here and a power of ten there
    calc (digitsValue (significant digits) : ℚ) *
          10 ^ (power + ((decimal digits).length : ℤ) - ((significant digits).length : ℤ))
        = digitsValue (significant digits) * 10 ^ (power + (zeros : ℤ)) := by
          rw [hlength, Nat.cast_add, add_sub_assoc, add_sub_cancel_left]
      _ = digitsValue (significant digits) * 10 ^ zeros * 10 ^ power := by
          rw [zpow_add₀ (by norm_num), zpow_natCast]
          ring
      _ = digits * 10 ^ power := by rw [← hcast]

end

variable {x y : Double} {style : NumeralStyle}

/-- **A finite double is read back** from its text. -/
theorem readNumeral_numeral (h : x.IsProper) (style : NumeralStyle) :
    readNumeral (x.numeral style).toList = .ok (.double x, []) := by
  cases x with
  | nan payload => exact h.elim
  | infinity negative => exact h.elim
  | finite negative mantissa exponent =>
      have hread := readNumeral_magnitude style negative h
      rw [numeral, String.toList_append, String.toList_ofList]
      cases negative with
      | true => exact hread
      | false => exact hread

/-- Finite doubles are told apart by their texts. -/
theorem numeral_inj (hx : x.IsProper) (hy : y.IsProper) (h : x.numeral style = y.numeral style) :
    x = y := by
  have hread := readNumeral_numeral hx style
  rw [h, readNumeral_numeral hy style] at hread
  cases hread
  rfl

end Double

/-- An integer and a finite double are told apart by their texts. -/
theorem integerText_ne_numeral {x : Double} (h : x.IsProper) (n : Int) (style : NumeralStyle) :
    integerText n ≠ x.numeral style := by
  intro heq
  have hread := readNumeral_integerText n
  rw [heq, Double.readNumeral_numeral h style] at hread
  split at hread
  · cases hread
  · cases hread

end ShapeTypes
