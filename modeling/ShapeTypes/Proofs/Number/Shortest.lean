import ShapeTypes.Number.Numeral
import ShapeTypes.Proofs.Number.Rounding

/-!
# The shortest digits of a double

* `Double.zpow_decimalPoint_le`: the decimal point of a double does not stand too far to the right.
* `Double.Neighbourhood.IsAround`, `Double.isAround_neighbourhood`: a neighbourhood as an interval
  of rational numbers.
* `Double.Neighbourhood.IsAround.fits_iff`: the numbers in it are those that round to the double.
* `Double.roundsTo_shortest`: **the shortest digits of a double round to it**. Seventeen digits
  are enough, since their grid is finer than the neighbourhood is wide.
-/

namespace ShapeTypes

namespace Double

/-! ## Powers of ten -/

section

variable {numerator denominator : Nat}

/-- Scaling divides a quotient by a power of ten. -/
theorem scaledByTen_div (numerator denominator : Nat) (exponent : Int) :
    ((scaledByTen numerator denominator exponent).1 : ℚ) /
        (scaledByTen numerator denominator exponent).2 =
      numerator / denominator / 10 ^ exponent :=
  scaledBy_div 10 numerator denominator exponent

/-- A quotient scaled by a power of ten has a denominator. -/
theorem scaledByTen_pos (numerator : Nat) (h : 0 < denominator) (exponent : Int) :
    0 < (scaledByTen numerator denominator exponent).2 :=
  scaledBy_pos (by decide) numerator h exponent

/-- The denominator does not depend on the numerator. -/
theorem scaledByTen_snd (numerator numerator' denominator : Nat) (exponent : Int) :
    (scaledByTen numerator denominator exponent).2 =
      (scaledByTen numerator' denominator exponent).2 := by
  unfold scaledByTen
  split <;> rfl

/-- A scaled quotient is compared like the quotient with multiples of the power of ten. -/
theorem scaledByTen_le_iff (numerator : Nat) (h : 0 < denominator) (exponent : Int)
    (multiplier : Nat) :
    (scaledByTen numerator denominator exponent).1 ≤
        multiplier * (scaledByTen numerator denominator exponent).2 ↔
      (numerator / denominator : ℚ) ≤ multiplier * 10 ^ exponent := by
  have hd : (0 : ℚ) < (scaledByTen numerator denominator exponent).2 := by
    exact_mod_cast scaledByTen_pos numerator h exponent
  have hpower : (0 : ℚ) < 10 ^ exponent := by positivity
  rw [← div_le_iff₀ hpower, ← scaledByTen_div, div_le_iff₀ hd]
  exact_mod_cast Iff.rfl

/-- Multiples of the power of ten are compared alike. -/
theorem le_scaledByTen_iff (numerator : Nat) (h : 0 < denominator) (exponent : Int)
    (multiplier : Nat) :
    multiplier * (scaledByTen numerator denominator exponent).2 ≤
        (scaledByTen numerator denominator exponent).1 ↔
      multiplier * 10 ^ exponent ≤ (numerator / denominator : ℚ) := by
  have hd : (0 : ℚ) < (scaledByTen numerator denominator exponent).2 := by
    exact_mod_cast scaledByTen_pos numerator h exponent
  have hpower : (0 : ℚ) < 10 ^ exponent := by positivity
  rw [← le_div_iff₀ hpower, ← scaledByTen_div, le_div_iff₀ hd]
  exact_mod_cast Iff.rfl

end

/-! ## The decimal point -/

/-- The estimate of a number of digits from a binary logarithm is not too large. -/
theorem zpow_estimate_le {s : Int} (hlow : -1074 ≤ s) (hhigh : s ≤ 1023) :
    (10 : ℚ) ^ (s * 30103 / 100000 - 1) ≤ 2 ^ s := by
  have hnonneg : ∀ k < 1024, Nat.pow 10 (k * 30103 / 100000 - 1) ≤ Nat.pow 2 k := by
    decide +kernel
  have hnegative : ∀ k < 1075, Nat.pow 2 k ≤ Nat.pow 10 (k * 30103 / 100000 + 1) := by
    decide +kernel
  rcases Int.le_total 0 s with hs | hs
  · lift s to ℕ using hs
    calc (10 : ℚ) ^ ((s : ℤ) * 30103 / 100000 - 1)
        ≤ 10 ^ ((s * 30103 / 100000 - 1 : ℕ) : ℤ) :=
          zpow_le_zpow_right₀ (by norm_num) (by omega)
      _ ≤ 2 ^ (s : ℤ) := by exact_mod_cast hnonneg s (by omega)
  · obtain ⟨k, rfl⟩ : ∃ k : ℕ, s = -k := ⟨(-s).toNat, by omega⟩
    calc (10 : ℚ) ^ (-(k : ℤ) * 30103 / 100000 - 1)
        ≤ 10 ^ (-((k * 30103 / 100000 + 1 : ℕ) : ℤ)) :=
          zpow_le_zpow_right₀ (by norm_num) (by omega)
      _ ≤ 2 ^ (-(k : ℤ)) := by
          rw [zpow_neg, zpow_neg]
          gcongr
          exact_mod_cast hnegative k (by omega)

/-- The decimal point of a double does not stand too far to the right. -/
theorem zpow_decimalPoint_le {mantissa : Nat} {exponent : Int}
    (hnormal : IsNormal mantissa exponent) (hpos : 0 < mantissa) :
    (10 : ℚ) ^ (decimalPoint mantissa exponent - 1) ≤ mantissa * 2 ^ exponent := by
  have hlog : (2 : ℚ) ^ ((mantissa.log2 : ℤ) + exponent) ≤ mantissa * 2 ^ exponent := by
    rw [zpow_add₀ two_ne_zero]
    gcongr
    exact_mod_cast Nat.log2_self_le hpos.ne'
  have hlog2 : mantissa.log2 < 53 := (Nat.log2_lt hpos.ne').mpr hnormal.lt
  have hmin := hnormal.minExponent_le
  have hmax := hnormal.le_maxExponent
  unfold minExponent at hmin
  unfold maxExponent at hmax
  have hestimate := (zpow_estimate_le (by omega) (by omega)).trans hlog
  have hvalue := scaled_div mantissa 1 (-exponent)
  rw [zpow_neg, Nat.cast_one, div_one, div_inv_eq_mul] at hvalue
  have hscaled := scaled_pos mantissa one_pos (-exponent)
  unfold decimalPoint
  generalize scaled mantissa 1 (-exponent) = p at *
  have hbelow (k : Int) (h : ¬ (scaledByTen p.1 p.2 k).1 < (scaledByTen p.1 p.2 k).2) :
      (10 : ℚ) ^ k ≤ mantissa * 2 ^ exponent := by
    have hone := (le_scaledByTen_iff p.1 hscaled k 1).mp (by rwa [one_mul, ← not_lt])
    rwa [hvalue, Nat.cast_one, one_mul] at hone
  simp only [decide_eq_true_eq]
  split
  · exact hestimate
  · rename_i h
    split
    · rw [add_sub_cancel_right]
      exact hbelow _ h
    · rename_i h'
      rw [add_sub_assoc]
      exact hbelow _ h'

/-! ## The neighbourhood of a double -/

/-- The factor of a neighbourhood. -/
theorem neighbourhood_factor (exponent : Int) :
    ((if 0 ≤ exponent - 2 then Nat.pow 2 (exponent - 2).toNat else 1 : ℕ) : ℚ) /
      (if 0 ≤ exponent - 2 then 1 else Nat.pow 2 (-(exponent - 2)).toNat : ℕ) =
      2 ^ exponent / 4 := by
  have hquarter : (2 : ℚ) ^ exponent / 4 = 2 ^ (exponent - 2) := by
    rw [zpow_sub₀ two_ne_zero]
    norm_num
  rw [hquarter]
  split
  · rename_i h
    obtain ⟨n, hn⟩ : ∃ n : ℕ, exponent - 2 = n := ⟨(exponent - 2).toNat, by omega⟩
    simp [hn]
  · rename_i h
    obtain ⟨n, hn⟩ : ∃ n : ℕ, exponent - 2 = -n := ⟨(-(exponent - 2)).toNat, by omega⟩
    simp [hn]

/-- The neighbourhood is an interval around a positive double. -/
structure Neighbourhood.IsAround (hood : Neighbourhood) (mantissa : Nat) (exponent : Int) :
    Prop where
  /-- There is a common denominator. -/
  denominator_pos : 0 < hood.denominator
  /-- The lower end. -/
  low : (hood.low / hood.denominator : ℚ) = (mantissa - lowerGap mantissa exponent) * 2 ^ exponent
  /-- The double itself. -/
  middle : (hood.middle / hood.denominator : ℚ) = mantissa * 2 ^ exponent
  /-- The upper end. -/
  high : (hood.high / hood.denominator : ℚ) = (mantissa + 1 / 2) * 2 ^ exponent
  /-- The ends belong to it if the mantissa is even. -/
  closed_iff : hood.closed = true ↔ mantissa % 2 = 0

/-- The neighbourhood of a double is around it. -/
theorem isAround_neighbourhood {mantissa : Nat} (hpos : 0 < mantissa) (exponent : Int) :
    (neighbourhood mantissa exponent).IsAround mantissa exponent := by
  have hfactor := neighbourhood_factor exponent
  unfold neighbourhood
  constructor
  · dsimp only
    split
    · decide
    · exact Nat.pow_pos (by decide)
  · unfold lowerGap
    dsimp only
    rw [Nat.cast_mul, mul_div_assoc, hfactor]
    split
    · rw [Nat.cast_sub (by omega)]
      push_cast
      ring
    · rw [Nat.cast_sub (by omega)]
      push_cast
      ring
  · dsimp only
    rw [Nat.cast_mul, mul_div_assoc, hfactor]
    push_cast
    ring
  · dsimp only
    rw [Nat.cast_mul, mul_div_assoc, hfactor]
    push_cast
    ring
  · exact decide_eq_true_iff

/-- The multiple of a power of ten lies in the neighbourhood. -/
def Neighbourhood.fits (hood : Neighbourhood) (exponent : Int) (multiplier : Nat) : Bool :=
  let d := (scaledByTen hood.middle hood.denominator exponent).2
  let low := (scaledByTen hood.low hood.denominator exponent).1
  let high := (scaledByTen hood.high hood.denominator exponent).1
  if hood.closed then decide (low ≤ multiplier * d) && decide (multiplier * d ≤ high)
  else decide (low < multiplier * d) && decide (multiplier * d < high)

/-- What is found on the grid is one of the two neighbours of the middle. -/
theorem Neighbourhood.onGrid?_eq (hood : Neighbourhood) (exponent : Int) :
    hood.onGrid? exponent =
      let n := (scaledByTen hood.middle hood.denominator exponent).1
      let d := (scaledByTen hood.middle hood.denominator exponent).2
      match hood.fits exponent (n / d), hood.fits exponent (n / d + 1) with
      | true, true => some (roundHalfEven n d)
      | true, false => some (n / d)
      | false, true => some (n / d + 1)
      | false, false => none := rfl

/-- What is found on the grid lies in the neighbourhood. -/
theorem Neighbourhood.fits_of_onGrid? {hood : Neighbourhood} {exponent : Int} {multiplier : Nat}
    (h : hood.onGrid? exponent = some multiplier) : hood.fits exponent multiplier = true := by
  rw [onGrid?_eq] at h
  dsimp only at h
  split at h
  · rename_i hbelow habove
    cases h
    rcases roundHalfEven_cases (scaledByTen hood.middle hood.denominator exponent).1
      (scaledByTen hood.middle hood.denominator exponent).2 with heq | heq
    · rw [heq]
      exact hbelow
    · rw [heq]
      exact habove
  · rename_i hbelow habove
    cases h
    exact hbelow
  · rename_i hbelow habove
    cases h
    exact habove
  · cases h

section

variable {mantissa : Nat} {exponent : Int}

/-- What lies between the ends of the neighbourhood rounds to the double. -/
theorem RoundsTo.of_lt {q : ℚ} (hlow : (mantissa - lowerGap mantissa exponent) * 2 ^ exponent < q)
    (hhigh : q < (mantissa + 1 / 2) * 2 ^ exponent) : RoundsTo q mantissa exponent := by
  refine ⟨hlow.le, hhigh.le, ?_⟩
  rintro (heq | heq)
  · exact absurd heq.symm hlow.ne
  · exact absurd heq hhigh.ne

/-- If the mantissa is odd, only what lies between the ends rounds to the double. -/
theorem RoundsTo.lt_of_odd {q : ℚ} (h : RoundsTo q mantissa exponent) (hodd : ¬ mantissa % 2 = 0) :
    (mantissa - lowerGap mantissa exponent) * 2 ^ exponent < q ∧
      q < (mantissa + 1 / 2) * 2 ^ exponent :=
  ⟨lt_of_le_of_ne h.low fun heq => hodd (h.tie (Or.inl heq.symm)),
    lt_of_le_of_ne h.high fun heq => hodd (h.tie (Or.inr heq))⟩

/-- The neighbourhood holds the numbers that round to the double. -/
theorem Neighbourhood.IsAround.fits_iff {hood : Neighbourhood} (h : hood.IsAround mantissa exponent)
    (power : Int) (multiplier : Nat) : hood.fits power multiplier = true ↔
      RoundsTo (multiplier * 10 ^ power) mantissa exponent := by
  have hlowLe := scaledByTen_le_iff hood.low h.denominator_pos power multiplier
  have hleLow := le_scaledByTen_iff hood.low h.denominator_pos power multiplier
  have hleHigh := le_scaledByTen_iff hood.high h.denominator_pos power multiplier
  have hhighLe := scaledByTen_le_iff hood.high h.denominator_pos power multiplier
  rw [scaledByTen_snd _ hood.middle, h.low] at hlowLe hleLow
  rw [scaledByTen_snd _ hood.middle, h.high] at hleHigh hhighLe
  unfold fits
  dsimp only
  split
  · rename_i hclosed
    rw [Bool.and_eq_true, decide_eq_true_eq, decide_eq_true_eq, hlowLe, hleHigh]
    exact ⟨fun ⟨hlow, hhigh⟩ => ⟨hlow, hhigh, fun _ => h.closed_iff.mp hclosed⟩,
      fun hrounds => ⟨hrounds.low, hrounds.high⟩⟩
  · rename_i hopen
    rw [Bool.and_eq_true, decide_eq_true_eq, decide_eq_true_eq, ← not_le, hleLow, ← not_le,
      hhighLe, not_le, not_le]
    exact ⟨fun ⟨hlow, hhigh⟩ => .of_lt hlow hhigh,
      fun hrounds => hrounds.lt_of_odd (mt h.closed_iff.mpr hopen)⟩

/-- The neighbours of a double on a grid: the double lies between them. -/
theorem Neighbourhood.IsAround.between {hood : Neighbourhood} (h : hood.IsAround mantissa exponent)
    (power : Int) {below : Nat}
    (hbelow : (scaledByTen hood.middle hood.denominator power).1 /
      (scaledByTen hood.middle hood.denominator power).2 = below) :
    below * 10 ^ power ≤ (mantissa * 2 ^ exponent : ℚ) ∧
      (mantissa * 2 ^ exponent : ℚ) < (below + 1 : ℕ) * 10 ^ power := by
  have hle := le_scaledByTen_iff hood.middle h.denominator_pos power
  have hpos := scaledByTen_pos hood.middle h.denominator_pos power
  rw [h.middle] at hle
  subst hbelow
  refine ⟨(hle _).mp (Nat.div_mul_le_self _ _), ?_⟩
  rw [← not_le, ← hle, not_le, Nat.succ_mul]
  exact Nat.lt_div_mul_add hpos

/-- On a grid that is finer than the neighbourhood is wide, one of the neighbours of the double
rounds to it. -/
theorem roundsTo_or_roundsTo {grid q : ℚ}
    (hfine : grid < (lowerGap mantissa exponent + 1 / 2) * 2 ^ exponent)
    (hbelow : q ≤ mantissa * 2 ^ exponent) (habove : mantissa * 2 ^ exponent < q + grid) :
    RoundsTo q mantissa exponent ∨ RoundsTo (q + grid) mantissa exponent := by
  have hgap := lowerGap_pos mantissa exponent
  have hpower : (0 : ℚ) < 2 ^ exponent := by positivity
  by_cases hlow : (mantissa - lowerGap mantissa exponent) * 2 ^ exponent < q
  · exact Or.inl (.of_lt hlow (by linarith))
  · refine Or.inr (.of_lt ?_ (by linarith))
    calc (mantissa - lowerGap mantissa exponent) * 2 ^ exponent
        < mantissa * 2 ^ exponent := by
          gcongr
          linarith
      _ < q + grid := habove

/-- A grid that is finer than the neighbourhood is wide has a point in it. -/
theorem exists_onGrid? (hpos : 0 < mantissa) {power : Int}
    (hfine : (10 : ℚ) ^ power < (lowerGap mantissa exponent + 1 / 2) * 2 ^ exponent) :
    ∃ multiplier, (neighbourhood mantissa exponent).onGrid? power = some multiplier := by
  have haround := isAround_neighbourhood hpos exponent
  generalize neighbourhood mantissa exponent = hood at *
  obtain ⟨hbelow, habove⟩ := haround.between power rfl
  rw [Nat.cast_add, Nat.cast_one, add_mul, one_mul] at habove
  have hrounds := roundsTo_or_roundsTo hfine hbelow habove
  rw [← add_one_mul, ← Nat.cast_add_one, ← haround.fits_iff, ← haround.fits_iff] at hrounds
  rw [Neighbourhood.onGrid?_eq]
  dsimp only
  split
  · exact ⟨_, rfl⟩
  · exact ⟨_, rfl⟩
  · exact ⟨_, rfl⟩
  · rename_i hfitsBelow hfitsAbove
    rw [hfitsBelow, hfitsAbove] at hrounds
    rcases hrounds with h | h
    · cases h
    · cases h

/-- The digits that are found with a count of digits. -/
def attempt (mantissa : Nat) (exponent : Int) (count : Nat) : Option (Nat × Int) :=
  let power := decimalPoint mantissa exponent - count
  ((neighbourhood mantissa exponent).onGrid? power).map fun digits => (digits, power)

/-- The shortest digits are those of the least count with which any are found. -/
theorem shortest_eq (mantissa : Nat) (exponent : Int) : shortest mantissa exponent =
    ((List.range' 1 17).findSome? (attempt mantissa exponent)).getD (0, 0) := rfl

/-- Digits that are found round to the double. -/
theorem roundsTo_of_attempt (hpos : 0 < mantissa) {count : Nat} {found : Nat × Int}
    (h : attempt mantissa exponent count = some found) :
    RoundsTo (found.1 * 10 ^ found.2) mantissa exponent := by
  obtain ⟨digits, hdigits, rfl⟩ := Option.map_eq_some_iff.mp h
  exact ((isAround_neighbourhood hpos exponent).fits_iff _ _).mp
    (Neighbourhood.fits_of_onGrid? hdigits)

/-- Seventeen digits are always found: the grid is finer than the neighbourhood is wide. -/
theorem exists_attempt (hnormal : IsNormal mantissa exponent) (hpos : 0 < mantissa) :
    ∃ found, attempt mantissa exponent 17 = some found := by
  have hpoint := zpow_decimalPoint_le hnormal hpos
  have hpower : (0 : ℚ) < 2 ^ exponent := by positivity
  have hmantissa := hnormal.add_one_le
  have hgrid : (10 : ℚ) ^ (decimalPoint mantissa exponent - (17 : ℕ)) ≤
      mantissa * 2 ^ exponent / 10 ^ 16 := by
    rw [le_div_iff₀ (by norm_num)]
    calc (10 : ℚ) ^ (decimalPoint mantissa exponent - (17 : ℕ)) * 10 ^ 16
        = 10 ^ (decimalPoint mantissa exponent - 1) := by
          rw [← zpow_natCast, ← zpow_add₀ (by norm_num)]
          congr 1
          push_cast
          ring
      _ ≤ mantissa * 2 ^ exponent := hpoint
  have hwide : mantissa * 2 ^ exponent / 10 ^ 16 <
      (lowerGap mantissa exponent + 1 / 2) * 2 ^ exponent := by
    rw [div_lt_iff₀ (by norm_num)]
    unfold lowerGap
    split
    · rename_i hfull
      have hcast : (mantissa : ℚ) = 2 ^ 52 := by exact_mod_cast hfull.1
      rw [hcast]
      linarith
    · nlinarith
  obtain ⟨digits, hdigits⟩ := exists_onGrid? hpos (lt_of_le_of_lt hgrid hwide)
  exact ⟨_, by rw [attempt, hdigits]; rfl⟩

/-- **The shortest digits of a positive double round to it.** -/
theorem roundsTo_shortest (hnormal : IsNormal mantissa exponent) (hpos : 0 < mantissa) :
    RoundsTo ((shortest mantissa exponent).1 * 10 ^ (shortest mantissa exponent).2) mantissa
      exponent := by
  rw [shortest_eq]
  cases hfound : (List.range' 1 17).findSome? (attempt mantissa exponent) with
  | some found =>
      obtain ⟨count, -, hcount⟩ := List.exists_of_findSome?_eq_some hfound
      exact roundsTo_of_attempt hpos hcount
  | none =>
      obtain ⟨found, hattempt⟩ := exists_attempt hnormal hpos
      rw [List.findSome?_eq_none_iff] at hfound
      rw [hfound 17 (by decide)] at hattempt
      cases hattempt

end

end Double

end ShapeTypes
