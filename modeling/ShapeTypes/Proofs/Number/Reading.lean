import ShapeTypes.Proofs.Number.Numeral
import ShapeTypes.Value.Json

/-!
# Reading numerals

* `Json.digitsValue_decimal`: the digits of a natural number mean it.
* `Json.IsWhole`: what may stand in front of a decimal point.
* `Json.readNumeral_whole`: an integer is read as such, unless it is too long.
* `Json.Numeral`: a numeral with a fraction or an exponent, part by part.
* `Json.readNumeral_text`: **such a numeral is read as the double nearest to what it means**.
* `NumeralStyle.exists_numeral`: **what the layout of digits is written as is such a numeral**,
  whether zeros stand behind the point, zeros stand in front of it, or an exponent is written.
-/

namespace ShapeTypes

namespace Json

/-! ## Digits -/

/-- The value of digits, as the library computes it. -/
theorem digitsValue_eq (cs : List Char) : digitsValue cs = Nat.ofDigitChars 10 cs 0 := by
  unfold digitsValue Nat.ofDigitChars
  congr 1
  funext n c
  rw [Nat.mul_comm]

/-- Digits behind others shift them. -/
theorem digitsValue_append (cs ds : List Char) :
    digitsValue (cs ++ ds) = digitsValue cs * Nat.pow 10 ds.length + digitsValue ds := by
  rw [digitsValue_eq, digitsValue_eq, digitsValue_eq, Nat.ofDigitChars_append,
    Nat.ofDigitChars_eq_ofDigitChars_zero, Nat.mul_comm]
  rfl

/-- Zeros mean nothing. -/
@[simp] theorem digitsValue_replicate_zero (n : Nat) :
    digitsValue (List.replicate n '0') = 0 := by
  rw [digitsValue_eq, Nat.ofDigitChars_replicate_zero, Nat.mul_zero]

/-- The digits of a natural number mean it. -/
@[simp] theorem digitsValue_decimal (n : Nat) : digitsValue (decimal n) = n := by
  rw [digitsValue_eq, decimal, Nat.ofDigitChars_ten_toDigits]

/-- A digit means less than ten. -/
theorem digitsValue_singleton_lt {c : Char} (h : isDigit c = true) : digitsValue [c] < 10 := by
  have hnine : c.toNat ≤ '9'.toNat := of_decide_eq_true (Bool.and_eq_true_iff.mp h).2
  have hvalue : digitsValue [c] = c.toNat - '0'.toNat := Nat.zero_add _
  have hzero : '0'.toNat = 48 := rfl
  have hnine' : '9'.toNat = 57 := rfl
  omega

/-- Digits mean less than the power of ten with as many zeros. -/
theorem digitsValue_lt {cs : List Char} (h : ∀ c ∈ cs, isDigit c = true) :
    digitsValue cs < Nat.pow 10 cs.length := by
  induction cs with
  | nil => exact Nat.one_pos
  | cons c cs ih =>
      obtain ⟨hc, hcs⟩ := List.forall_mem_cons.mp h
      have hrest := ih hcs
      have hfirst := digitsValue_singleton_lt hc
      calc digitsValue (c :: cs)
          = digitsValue [c] * Nat.pow 10 cs.length + digitsValue cs := digitsValue_append [c] cs
        _ < digitsValue [c] * Nat.pow 10 cs.length + Nat.pow 10 cs.length :=
          Nat.add_lt_add_left hrest _
        _ = (digitsValue [c] + 1) * Nat.pow 10 cs.length := (Nat.succ_mul _ _).symm
        _ ≤ 10 * Nat.pow 10 cs.length := Nat.mul_le_mul_right _ hfirst
        _ = Nat.pow 10 (c :: cs).length := Nat.mul_comm _ _

/-- Only the number zero starts with a zero. -/
theorem eq_zero_of_head_decimal {n : Nat} (h : (decimal n).head? = some '0') : n = 0 := by
  obtain ⟨cs, hcs⟩ := List.head?_eq_some_iff.mp h
  have hn : n = digitsValue cs := by
    have hvalue := digitsValue_append ['0'] cs
    rwa [List.singleton_append, ← hcs, digitsValue_decimal, ← List.replicate_one,
      digitsValue_replicate_zero, Nat.zero_mul, Nat.zero_add] at hvalue
  have hdigits : ∀ c ∈ cs, isDigit c = true := by
    intro c hc
    have hmem : c ∈ decimal n := by rw [hcs]; exact List.mem_cons_of_mem _ hc
    exact isDigit_of_mem_decimal hmem
  cases cs with
  | nil => exact hn
  | cons c cs =>
      -- one digit fewer would be enough for the number
      have hlt := digitsValue_lt hdigits
      rw [← hn] at hlt
      have hlength := (Nat.length_toDigits_le_iff (by decide) (Nat.succ_pos _)).mpr hlt
      rw [← decimal, hcs] at hlength
      exact absurd hlength (Nat.not_succ_le_self _)

/-- Zeros are digits. -/
theorem forall_isDigit_replicate (n : Nat) : ∀ c ∈ List.replicate n '0', isDigit c = true := by
  intro c hc
  rw [List.eq_of_mem_replicate hc]
  rfl

/-- Digits behind digits are digits. -/
theorem forall_isDigit_append {cs ds : List Char} (hcs : ∀ c ∈ cs, isDigit c = true)
    (hds : ∀ c ∈ ds, isDigit c = true) : ∀ c ∈ cs ++ ds, isDigit c = true :=
  fun c hc => (List.mem_append.mp hc).elim (hcs c) (hds c)

/-! ## Parts of numerals -/

section

variable {digits whole rest : List Char}

/-- What follows digits does not go on with them. -/
def EndsDigits (rest : List Char) : Prop := ∀ c ∈ rest.head?, isDigit c = false

/-- Nothing follows. -/
theorem endsDigits_nil : EndsDigits [] := by
  rintro c ⟨⟩

/-- Digits are taken up to their end. -/
theorem takeWhile_isDigit (h : ∀ c ∈ digits, isDigit c = true) (hrest : EndsDigits rest) :
    (digits ++ rest).takeWhile isDigit = digits := by
  rw [List.takeWhile_append_of_pos h]
  cases rest with
  | nil => exact List.append_nil _
  | cons c rest => rw [List.takeWhile_cons_of_neg (by simp [hrest c rfl]), List.append_nil]

/-- What follows digits is left. -/
theorem dropWhile_isDigit (h : ∀ c ∈ digits, isDigit c = true) (hrest : EndsDigits rest) :
    (digits ++ rest).dropWhile isDigit = rest := by
  rw [List.dropWhile_append_of_pos h]
  cases rest with
  | nil => rfl
  | cons c rest => rw [List.dropWhile_cons_of_neg (by simp [hrest c rfl])]

/-- The digits may stand in front of a decimal point. -/
structure IsWhole (cs : List Char) : Prop where
  /-- There is a digit. -/
  nonempty : cs ≠ []
  /-- There are digits only. -/
  digits : ∀ c ∈ cs, isDigit c = true
  /-- A zero at the start is the only digit. -/
  single : cs.head? = some '0' → cs = ['0']

/-- A single zero may. -/
theorem isWhole_zero : IsWhole ['0'] :=
  ⟨List.cons_ne_nil _ _, List.forall_mem_singleton.mpr rfl, fun _ => rfl⟩

/-- So may the digits of a natural number. -/
theorem isWhole_decimal (n : Nat) : IsWhole (decimal n) := by
  refine ⟨Nat.toDigits_ne_nil, fun c hc => isDigit_of_mem_decimal hc, fun h => ?_⟩
  rw [eq_zero_of_head_decimal h]
  rfl

/-- The whole part is read up to its end. -/
theorem wholePart?_append (h : IsWhole whole) (hrest : EndsDigits rest) :
    wholePart? (whole ++ rest) = some (whole, rest) := by
  have htake := takeWhile_isDigit h.digits hrest
  have hdrop := dropWhile_isDigit h.digits hrest
  obtain ⟨c, cs, rfl⟩ := List.exists_cons_of_ne_nil h.nonempty
  by_cases hc : c = '0'
  · subst hc
    cases h.single rfl
    rfl
  · have hdigit : isDigit c = true := h.digits c List.mem_cons_self
    rw [List.cons_append] at *
    unfold wholePart?
    split
    · rename_i heq
      exact absurd (List.cons.inj heq).1 hc
    · rename_i heq
      cases heq
      rw [if_pos hdigit, htake, hdrop]
    · rename_i heq
      cases heq

/-- The fraction is read up to its end. -/
theorem fraction?_append (hne : digits ≠ []) (h : ∀ c ∈ digits, isDigit c = true)
    (hrest : EndsDigits rest) : fraction? ('.' :: (digits ++ rest)) = some (digits, rest) := by
  have hempty : digits.isEmpty = false := by simpa using hne
  simp only [fraction?, takeWhile_isDigit h hrest, dropWhile_isDigit h hrest, hempty,
    Bool.false_eq_true, if_false]

/-- The exponent is read with its sign, whatever zeros it is padded with. -/
theorem exponent?_exponentText (style : NumeralStyle) (exponent : Int) :
    exponent? ('e' :: style.exponentText exponent) = some (exponent, []) := by
  unfold NumeralStyle.exponentText
  dsimp only
  have hdecimal := isWhole_decimal exponent.natAbs
  have hdigits := forall_isDigit_append
    (forall_isDigit_replicate (style.exponentDigits - (decimal exponent.natAbs).length))
    hdecimal.digits
  have hne := List.append_ne_nil_of_right_ne_nil
    (List.replicate (style.exponentDigits - (decimal exponent.natAbs).length) '0')
    hdecimal.nonempty
  have hvalue := digitsValue_append
    (List.replicate (style.exponentDigits - (decimal exponent.natAbs).length) '0')
    (decimal exponent.natAbs)
  rw [digitsValue_replicate_zero, digitsValue_decimal, Nat.zero_mul, Nat.zero_add] at hvalue
  generalize List.replicate (style.exponentDigits - (decimal exponent.natAbs).length) '0' ++
    decimal exponent.natAbs = padded at *
  have htake := takeWhile_isDigit hdigits endsDigits_nil
  have hdrop := dropWhile_isDigit hdigits endsDigits_nil
  rw [List.append_nil] at htake hdrop
  have hempty : padded.isEmpty = false := by simpa using hne
  unfold exponent?
  dsimp only
  rw [if_pos (Or.inl rfl)]
  by_cases h : exponent < 0
  · simp only [if_pos h, htake, hdrop, hvalue, hempty, Bool.false_eq_true, if_false, if_true]
    congr 2
    omega
  · simp only [if_neg h, htake, hdrop, hvalue, hempty, Bool.false_eq_true, if_false]
    congr 2
    omega

/-! ## Signs -/

/-- The sign of a numeral. -/
def signText (negative : Bool) : List Char := if negative then ['-'] else []

/-- The sign is taken off what starts with no other one. -/
theorem match_signText {cs : List Char} (hcs : ∀ c ∈ cs.head?, c ≠ '-') (negative : Bool) :
    (match signText negative ++ cs with
      | '-' :: rest => (true, rest)
      | _ => (false, signText negative ++ cs)) = (negative, cs) := by
  cases negative with
  | true => rfl
  | false =>
      rw [signText, if_neg Bool.false_ne_true, List.nil_append]
      split
      · exact absurd rfl (hcs '-' rfl)
      · rfl

/-- Digits start with no sign. -/
theorem IsWhole.head_ne_minus (h : IsWhole whole) (rest : List Char) :
    ∀ c ∈ (whole ++ rest).head?, c ≠ '-' := by
  obtain ⟨c, cs, rfl⟩ := List.exists_cons_of_ne_nil h.nonempty
  rintro d ⟨⟩ rfl
  have hdigit := h.digits '-' List.mem_cons_self
  cases hdigit

/-! ## Numerals -/

/-- An integer is read as such, unless it is too long. -/
theorem readNumeral_whole (h : IsWhole whole) (negative : Bool) :
    readNumeral (signText negative ++ whole) =
      if maxIntegerDigits < whole.length then misread .longInteger (signText negative ++ whole)
      else .ok (.int (if negative then -digitsValue whole else digitsValue whole), []) := by
  have hread := wholePart?_append h endsDigits_nil
  have hminus := h.head_ne_minus []
  rw [List.append_nil] at hread hminus
  unfold readNumeral
  split
  rename_i heq
  cases heq.symm.trans (match_signText hminus negative)
  simp only [hread]
  rfl

/-- What has a fraction or an exponent is read as a double, part by part. -/
theorem readNumeral_marked {cs fraction rest' rest'' : List Char} {power : Int}
    (hcs : ∀ c ∈ cs.head?, c ≠ '-') (hwhole : wholePart? cs = some (whole, rest))
    (hfraction : (fraction? rest).getD ([], rest) = (fraction, rest'))
    (hexponent : (exponent? rest').getD (0, rest') = (power, rest''))
    (hmarked : ((fraction? rest).isSome || (exponent? rest').isSome) = true) (negative : Bool) :
    readNumeral (signText negative ++ cs) =
      .ok (.double (.ofDecimal negative (digitsValue (whole ++ fraction))
        (power - fraction.length)), rest'') := by
  unfold readNumeral
  split
  rename_i heq
  cases heq.symm.trans (match_signText hcs negative)
  simp only [hwhole, hfraction, hexponent, hmarked, if_true]

end

/-- A numeral with a fraction or an exponent, without its sign. -/
structure Numeral where
  /-- The digits in front of the point. -/
  whole : List Char
  /-- The digits behind the point, which is written if there are any. -/
  fraction : List Char
  /-- The exponent, if there is one. -/
  exponent : Option Int
  /-- The first digits may stand in front of a point. -/
  isWhole : IsWhole whole
  /-- Digits stand behind the point. -/
  isDigit_fraction : ∀ c ∈ fraction, isDigit c = true
  /-- There is a fraction or an exponent. -/
  marked : fraction ≠ [] ∨ exponent.isSome = true

namespace Numeral

variable (numeral : Numeral) (style : NumeralStyle)

/-- The point and the digits behind it. -/
def fractionText : List Char :=
  if numeral.fraction.isEmpty then [] else '.' :: numeral.fraction

/-- The exponent behind its letter. -/
def exponentText : List Char :=
  match numeral.exponent with
  | none => []
  | some exponent => 'e' :: style.exponentText exponent

/-- The text of the numeral. -/
def text : List Char :=
  numeral.whole ++ (numeral.fractionText ++ numeral.exponentText style)

/-- The digits as one number. -/
def digits : Nat := digitsValue (numeral.whole ++ numeral.fraction)

/-- The power of ten with which that number is multiplied. -/
def power : Int := numeral.exponent.getD 0 - numeral.fraction.length

/-- An exponent does not go on with digits. -/
theorem endsDigits_exponentText : EndsDigits (numeral.exponentText style) := by
  intro c hc
  unfold exponentText at hc
  split at hc
  · cases hc
  · cases hc
    rfl

/-- The point of a fraction does not either. -/
theorem endsDigits_fractionText :
    EndsDigits (numeral.fractionText ++ numeral.exponentText style) := by
  unfold fractionText
  split
  · exact numeral.endsDigits_exponentText style
  · rintro c ⟨⟩
    rfl

/-- The fraction is read, if there is one. -/
theorem fraction?_fractionText :
    fraction? (numeral.fractionText ++ numeral.exponentText style) =
      if numeral.fraction.isEmpty then none
      else some (numeral.fraction, numeral.exponentText style) := by
  unfold fractionText
  split
  · unfold exponentText
    split <;> rfl
  · rename_i hne
    exact fraction?_append (by simpa using hne) numeral.isDigit_fraction
      (numeral.endsDigits_exponentText style)

/-- The exponent is read, if there is one. -/
theorem exponent?_exponentText : exponent? (numeral.exponentText style) =
    numeral.exponent.map fun exponent => (exponent, []) := by
  unfold exponentText
  split
  · rename_i h
    rw [h]
    rfl
  · rename_i h
    rw [h, Json.exponent?_exponentText]
    rfl

/-- The text of a numeral without an exponent. -/
theorem text_of_exponent_eq_none (h : numeral.exponent = none) :
    numeral.text style = numeral.whole ++ '.' :: numeral.fraction := by
  have hne : numeral.fraction ≠ [] := by
    rcases numeral.marked with hne | hsome
    · exact hne
    · rw [h] at hsome
      cases hsome
  rw [text, fractionText, exponentText, h, if_neg (by simpa using hne), List.append_nil]

end Numeral

/-- **A numeral with a fraction or an exponent is read as the nearest double.** -/
theorem readNumeral_text (numeral : Numeral) (style : NumeralStyle) (negative : Bool) :
    readNumeral (signText negative ++ numeral.text style) =
      .ok (.double (.ofDecimal negative numeral.digits numeral.power), []) := by
  have hfraction := numeral.fraction?_fractionText style
  have hexponent := numeral.exponent?_exponentText style
  have hgetFraction :
      (fraction? (numeral.fractionText ++ numeral.exponentText style)).getD
        ([], numeral.fractionText ++ numeral.exponentText style) =
      (numeral.fraction, numeral.exponentText style) := by
    rw [hfraction]
    split
    · rename_i hempty
      rw [Numeral.fractionText, if_pos hempty, List.isEmpty_iff.mp hempty]
      rfl
    · rfl
  have hgetExponent : (exponent? (numeral.exponentText style)).getD
      (0, numeral.exponentText style) = (numeral.exponent.getD 0, []) := by
    rw [hexponent]
    cases h : numeral.exponent with
    | none =>
        rw [Numeral.exponentText, h]
        rfl
    | some exponent => rfl
  refine readNumeral_marked (numeral.isWhole.head_ne_minus _)
    (wholePart?_append numeral.isWhole (numeral.endsDigits_fractionText style)) hgetFraction
    hgetExponent ?_ negative
  rw [hfraction, hexponent]
  rcases numeral.marked with hne | hsome
  · rw [if_neg (by simpa using hne)]
    rfl
  · rw [Option.isSome_map, hsome, Bool.or_true]

end Json

/-! ## Layouts -/

namespace NumeralStyle

open Json

/-- The layout of digits is written as a numeral that means what they do, the point standing so far
behind the left edge of the first one. Zeros may stand behind the digits. -/
def IsNumeralFor (style : NumeralStyle) (digits : List Char) (point : Int) (numeral : Numeral) :
    Prop :=
  style.layout digits point = numeral.text style ∧ ∃ zeros : Nat,
    numeral.digits = digitsValue digits * Nat.pow 10 zeros ∧
      numeral.power = point - digits.length - zeros

variable {style : NumeralStyle} {digits : List Char} {point : Int}

/-- Without an exponent, a decimal below one has zeros behind the point. -/
theorem exists_numeral_of_below (hne : digits ≠ []) (hdigits : ∀ c ∈ digits, isDigit c = true)
    (hplain : style.leastPoint ≤ point ∧ point ≤ style.greatestPoint) (hpoint : point ≤ 0) :
    ∃ numeral, style.IsNumeralFor digits point numeral := by
  refine ⟨{ whole := ['0'], fraction := List.replicate (-point).toNat '0' ++ digits
            exponent := none, isWhole := isWhole_zero
            isDigit_fraction := forall_isDigit_append (forall_isDigit_replicate _) hdigits
            marked := Or.inl (List.append_ne_nil_of_right_ne_nil _ hne) }, ?_, 0, ?_, ?_⟩
  · rw [Numeral.text_of_exponent_eq_none _ _ rfl]
    unfold layout
    rw [if_pos hplain, if_pos hpoint]
    rfl
  · unfold Numeral.digits
    dsimp only
    rw [← List.append_assoc, digitsValue_append, ← List.replicate_one,
      List.replicate_append_replicate, digitsValue_replicate_zero, Nat.zero_mul, Nat.zero_add]
    exact (Nat.mul_one _).symm
  · simp only [Numeral.power, Option.getD_none, List.length_append, List.length_replicate]
    omega

/-- Without an exponent, a decimal with all its digits in front of the point has zeros up to the
point and a zero behind it. -/
theorem exists_numeral_of_long (hne : digits ≠ []) (hdigits : ∀ c ∈ digits, isDigit c = true)
    (hzero : digits.head? = some '0' → digits = ['0'] ∧ point = 1)
    (hplain : style.leastPoint ≤ point ∧ point ≤ style.greatestPoint) (hpoint : 0 < point)
    (hlength : digits.length ≤ point.toNat) :
    ∃ numeral, style.IsNumeralFor digits point numeral := by
  have hwhole : IsWhole (digits ++ List.replicate (point.toNat - digits.length) '0') := by
    refine ⟨List.append_ne_nil_of_left_ne_nil hne _,
      forall_isDigit_append hdigits (forall_isDigit_replicate _), fun hhead => ?_⟩
    rw [List.head?_append, List.head?_eq_some_head hne, Option.some_or,
      ← List.head?_eq_some_head hne] at hhead
    obtain ⟨rfl, rfl⟩ := hzero hhead
    rfl
  refine ⟨{ whole := digits ++ List.replicate (point.toNat - digits.length) '0', fraction := ['0']
            exponent := none, isWhole := hwhole, isDigit_fraction := isWhole_zero.digits
            marked := Or.inl (List.cons_ne_nil _ _) }, ?_, point.toNat - digits.length + 1, ?_, ?_⟩
  · rw [Numeral.text_of_exponent_eq_none _ _ rfl]
    unfold layout
    rw [if_pos hplain, if_neg (by omega), List.take_of_length_le hlength,
      List.drop_of_length_le hlength]
    rfl
  · unfold Numeral.digits
    dsimp only
    rw [List.append_assoc, ← List.replicate_one, List.replicate_append_replicate,
      digitsValue_append, digitsValue_replicate_zero, List.length_replicate, Nat.add_zero]
  · simp only [Numeral.power, Option.getD_none, List.length_singleton]
    omega

/-- Without an exponent, the point stands between the digits of any other decimal. -/
theorem exists_numeral_of_between (hdigits : ∀ c ∈ digits, isDigit c = true)
    (hzero : digits.head? = some '0' → digits = ['0'] ∧ point = 1)
    (hplain : style.leastPoint ≤ point ∧ point ≤ style.greatestPoint) (hpoint : 0 < point)
    (hlength : point.toNat < digits.length) :
    ∃ numeral, style.IsNumeralFor digits point numeral := by
  have hpos : 0 < point.toNat := Int.pos_iff_toNat_pos.mp hpoint
  have htake : (digits.take point.toNat).length = point.toNat :=
    List.length_take_of_le (Nat.le_of_lt hlength)
  have hdrop : digits.drop point.toNat ≠ [] :=
    mt List.drop_eq_nil_iff.mp (Nat.not_le_of_lt hlength)
  have hwhole : IsWhole (digits.take point.toNat) := by
    refine ⟨List.ne_nil_of_length_pos (Nat.lt_of_lt_of_eq hpos htake.symm),
      fun c hc => hdigits c (List.mem_of_mem_take hc), fun hhead => ?_⟩
    rw [List.head?_take, if_neg (Nat.pos_iff_ne_zero.mp hpos)] at hhead
    obtain ⟨rfl, rfl⟩ := hzero hhead
    rfl
  refine ⟨{ whole := digits.take point.toNat, fraction := digits.drop point.toNat
            exponent := none, isWhole := hwhole
            isDigit_fraction := fun c hc => hdigits c (List.mem_of_mem_drop hc)
            marked := Or.inl hdrop }, ?_, 0, ?_, ?_⟩
  · rw [Numeral.text_of_exponent_eq_none _ _ rfl]
    unfold layout
    rw [if_pos hplain, if_neg (by omega)]
    dsimp only
    rw [htake, Nat.sub_self, List.replicate_zero, List.append_nil, if_neg (by simpa using hdrop)]
  · unfold Numeral.digits
    rw [List.take_append_drop]
    exact (Nat.mul_one _).symm
  · simp only [Numeral.power, Option.getD_none, List.length_drop]
    omega

/-- With an exponent, the point is behind the first digit. -/
theorem exists_numeral_of_exponent (hne : digits ≠ []) (hdigits : ∀ c ∈ digits, isDigit c = true)
    (hplain : ¬ (style.leastPoint ≤ point ∧ point ≤ style.greatestPoint)) :
    ∃ numeral, style.IsNumeralFor digits point numeral := by
  obtain ⟨first, rest, rfl⟩ := List.exists_cons_of_ne_nil hne
  obtain ⟨hfirst, hrest⟩ := List.forall_mem_cons.mp hdigits
  have hwhole : IsWhole [first] := by
    refine ⟨List.cons_ne_nil _ _, List.forall_mem_singleton.mpr hfirst, ?_⟩
    rintro ⟨⟩
    rfl
  refine ⟨{ whole := [first], fraction := rest, exponent := some (point - 1), isWhole := hwhole
            isDigit_fraction := hrest, marked := Or.inr rfl }, ?_, 0, (Nat.mul_one _).symm, ?_⟩
  · unfold layout
    rw [if_neg hplain]
    rfl
  · simp only [Numeral.power, Option.getD_some, List.length_cons]
    omega

/-- **Every layout is a numeral for the decimal** whose digits it shows. -/
theorem exists_numeral (hne : digits ≠ []) (hdigits : ∀ c ∈ digits, isDigit c = true)
    (hzero : digits.head? = some '0' → digits = ['0'] ∧ point = 1) :
    ∃ numeral, style.IsNumeralFor digits point numeral := by
  by_cases hplain : style.leastPoint ≤ point ∧ point ≤ style.greatestPoint
  · rcases Int.lt_or_le 0 point with hpoint | hpoint
    · rcases Nat.lt_or_ge point.toNat digits.length with hlength | hlength
      · exact exists_numeral_of_between hdigits hzero hplain hpoint hlength
      · exact exists_numeral_of_long hne hdigits hzero hplain hpoint hlength
    · exact exists_numeral_of_below hne hdigits hplain hpoint
  · exact exists_numeral_of_exponent hne hdigits hplain

end NumeralStyle

end ShapeTypes
