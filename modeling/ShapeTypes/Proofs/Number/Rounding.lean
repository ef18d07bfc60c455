import Mathlib.Algebra.Order.Field.Power
import Mathlib.Tactic.Linarith
import Mathlib.Tactic.Positivity
import Mathlib.Tactic.Ring
import Mathlib.Tactic.SplitIfs
import ShapeTypes.Number.Double

/-!
# Rounding to doubles

* `Double.scaled_div`, `Double.log2Ratio_spec`, `Double.roundHalfEven_eq`: what the steps of
  rounding come to, as rational numbers.
* `Double.IsNormal`: the mantissas and exponents of finite doubles.
* `Double.RoundsTo`: the numbers nearer to a positive double than to its neighbours, and the ones in
  the middle if the mantissa is even.
* `Double.ofRatio_eq`, `Double.ofDecimal_eq`: **a number that rounds to a double is read as that
  double**.
* `Double.isProper_ofRatio`, `Double.isProper_ofDecimal`: every finite double that is read is in its
  normal form.
-/

namespace ShapeTypes

namespace Double

/-! ## Quotients -/

section

variable {numerator denominator : Nat}

/-- Numerator and denominator of a quotient divided by a power. -/
def scaledBy (base numerator denominator : Nat) (exponent : Int) : Nat × Nat :=
  if 0 ≤ exponent then (numerator, denominator * Nat.pow base exponent.toNat)
  else (numerator * Nat.pow base (-exponent).toNat, denominator)

/-- Scaling divides a quotient by the power. -/
theorem scaledBy_div (base numerator denominator : Nat) (exponent : Int) :
    ((scaledBy base numerator denominator exponent).1 : ℚ) /
        (scaledBy base numerator denominator exponent).2 =
      numerator / denominator / (base : ℚ) ^ exponent := by
  unfold scaledBy
  split
  · rename_i h
    lift exponent to ℕ using h
    simp only [Int.toNat_natCast, Nat.pow_eq, Nat.cast_mul, Nat.cast_pow, zpow_natCast, div_div]
  · obtain ⟨n, rfl⟩ : ∃ n : ℕ, exponent = -n := ⟨(-exponent).toNat, by omega⟩
    simp only [neg_neg, Int.toNat_natCast, Nat.pow_eq, Nat.cast_mul, Nat.cast_pow, zpow_neg,
      zpow_natCast, div_inv_eq_mul]
    exact mul_div_right_comm _ _ _

/-- What a quotient is scaled to has a denominator. -/
theorem scaledBy_pos {base : Nat} (hbase : 0 < base) (numerator : Nat) (h : 0 < denominator)
    (exponent : Int) : 0 < (scaledBy base numerator denominator exponent).2 := by
  unfold scaledBy
  split
  · exact Nat.mul_pos h (Nat.pow_pos hbase)
  · exact h

/-- Scaling divides a quotient by a power of two. -/
theorem scaled_div (numerator denominator : Nat) (exponent : Int) :
    ((scaled numerator denominator exponent).1 : ℚ) / (scaled numerator denominator exponent).2 =
      numerator / denominator / 2 ^ exponent :=
  scaledBy_div 2 numerator denominator exponent

/-- A quotient scaled by a power of two has a denominator. -/
theorem scaled_pos (numerator : Nat) (h : 0 < denominator) (exponent : Int) :
    0 < (scaled numerator denominator exponent).2 :=
  scaledBy_pos two_pos numerator h exponent

/-- A quotient is rounded to an integer that is at most half a step away. -/
theorem roundHalfEven_eq (h : 0 < denominator) {m : Nat}
    (hlow : (m : ℚ) - 1 / 2 ≤ numerator / denominator)
    (hhigh : (numerator / denominator : ℚ) ≤ m + 1 / 2)
    (htie : (numerator / denominator : ℚ) = m - 1 / 2 ∨ (numerator / denominator : ℚ) = m + 1 / 2 →
      m % 2 = 0) : roundHalfEven numerator denominator = m := by
  have hd : (0 : ℚ) < denominator := by exact_mod_cast h
  have hlow' : 2 * m * denominator ≤ 2 * numerator + denominator := by
    rw [le_div_iff₀ hd] at hlow
    have hcast : (2 * m * denominator : ℚ) ≤ 2 * numerator + denominator := by linarith
    exact_mod_cast hcast
  have hhigh' : 2 * numerator ≤ 2 * m * denominator + denominator := by
    rw [div_le_iff₀ hd] at hhigh
    have hcast : (2 * numerator : ℚ) ≤ 2 * m * denominator + denominator := by linarith
    exact_mod_cast hcast
  have htieLow (heq : 2 * m * denominator = 2 * numerator + denominator) : m % 2 = 0 := by
    refine htie (Or.inl ?_)
    have hcast : (2 * m * denominator : ℚ) = 2 * numerator + denominator := by exact_mod_cast heq
    rw [div_eq_iff hd.ne']
    linarith
  have htieHigh (heq : 2 * numerator = 2 * m * denominator + denominator) : m % 2 = 0 := by
    refine htie (Or.inr ?_)
    have hcast : (2 * numerator : ℚ) = 2 * m * denominator + denominator := by exact_mod_cast heq
    rw [div_eq_iff hd.ne']
    linarith
  clear htie hlow hhigh
  have hdiv := Nat.div_add_mod numerator denominator
  have hmod := Nat.mod_lt numerator h
  unfold roundHalfEven
  generalize numerator / denominator = quotient at *
  generalize numerator % denominator = remainder at *
  subst hdiv
  -- the integer is the quotient or the next one
  have hge : quotient ≤ m := by
    by_contra hlt
    rw [not_le] at hlt
    nlinarith
  have hle : m ≤ quotient + 1 := by
    by_contra hlt
    rw [not_le] at hlt
    nlinarith
  obtain rfl | rfl : m = quotient ∨ m = quotient + 1 := by omega
  · have htwice : 2 * remainder ≤ denominator := by nlinarith
    have heven (heq : 2 * remainder = denominator) : m % 2 = 0 := htieHigh (by nlinarith)
    dsimp only
    split_ifs <;> omega
  · have htwice : denominator ≤ 2 * remainder := by nlinarith
    have heven (heq : 2 * remainder = denominator) : (quotient + 1) % 2 = 0 :=
      htieLow (by nlinarith)
    dsimp only
    split_ifs <;> omega

/-- The nearest integer is one of the two around a quotient. -/
theorem roundHalfEven_cases (numerator denominator : Nat) :
    roundHalfEven numerator denominator = numerator / denominator ∨
      roundHalfEven numerator denominator = numerator / denominator + 1 := by
  unfold roundHalfEven
  dsimp only
  split
  · exact Or.inl rfl
  · split
    · exact Or.inr rfl
    · omega

/-- A quotient below an integer is rounded to no more than it. -/
theorem roundHalfEven_le {m : Nat} (hd : 0 < denominator) (h : (numerator / denominator : ℚ) < m) :
    roundHalfEven numerator denominator ≤ m := by
  have hd' : (0 : ℚ) < denominator := by exact_mod_cast hd
  have hlt : numerator / denominator < m := by
    rw [div_lt_iff₀ hd'] at h
    rw [Nat.div_lt_iff_lt_mul hd]
    exact_mod_cast h
  rcases roundHalfEven_cases numerator denominator with heq | heq
  · rw [heq]
    exact hlt.le
  · rw [heq]
    exact hlt

/-- A quotient from an integer up is rounded to no less than it. -/
theorem le_roundHalfEven {m : Nat} (hd : 0 < denominator) (h : (m : ℚ) ≤ numerator / denominator) :
    m ≤ roundHalfEven numerator denominator := by
  have hd' : (0 : ℚ) < denominator := by exact_mod_cast hd
  have hle : m ≤ numerator / denominator := by
    rw [le_div_iff₀ hd'] at h
    rw [Nat.le_div_iff_mul_le hd]
    exact_mod_cast h
  rcases roundHalfEven_cases numerator denominator with heq | heq
  · rw [heq]
    exact hle
  · rw [heq]
    exact hle.trans (Nat.le_succ _)

/-- A positive integer lies between two powers of two. -/
theorem zpow_log2_le {n : Nat} (h : 0 < n) :
    (2 : ℚ) ^ (n.log2 : ℤ) ≤ n ∧ (n : ℚ) < 2 ^ ((n.log2 : ℤ) + 1) := by
  constructor
  · exact_mod_cast Nat.log2_self_le h.ne'
  · exact_mod_cast Nat.lt_log2_self

/-- The estimate of the binary logarithm of a quotient is at most one off. -/
theorem log2_sub_log2 (hn : 0 < numerator) (hd : 0 < denominator) :
    (2 : ℚ) ^ ((numerator.log2 : ℤ) - denominator.log2 - 1) < numerator / denominator ∧
      (numerator / denominator : ℚ) < 2 ^ ((numerator.log2 : ℤ) - denominator.log2 + 1) := by
  obtain ⟨hnlow, hnhigh⟩ := zpow_log2_le hn
  obtain ⟨hdlow, hdhigh⟩ := zpow_log2_le hd
  have hdpos : (0 : ℚ) < denominator := by exact_mod_cast hd
  rw [lt_div_iff₀ hdpos, div_lt_iff₀ hdpos]
  constructor
  · calc (2 : ℚ) ^ ((numerator.log2 : ℤ) - denominator.log2 - 1) * denominator
        < 2 ^ ((numerator.log2 : ℤ) - denominator.log2 - 1) * 2 ^ ((denominator.log2 : ℤ) + 1) := by
          gcongr
      _ = 2 ^ (numerator.log2 : ℤ) := by
          rw [← zpow_add₀ two_ne_zero]
          congr 1
          ring
      _ ≤ numerator := hnlow
  · calc (numerator : ℚ) < 2 ^ ((numerator.log2 : ℤ) + 1) := hnhigh
      _ = 2 ^ ((numerator.log2 : ℤ) - denominator.log2 + 1) * 2 ^ (denominator.log2 : ℤ) := by
          rw [← zpow_add₀ two_ne_zero]
          congr 1
          ring
      _ ≤ 2 ^ ((numerator.log2 : ℤ) - denominator.log2 + 1) * denominator := by gcongr

/-- The binary logarithm of a quotient, rounded down. -/
theorem log2Ratio_spec (hn : 0 < numerator) (hd : 0 < denominator) :
    (2 : ℚ) ^ log2Ratio numerator denominator ≤ numerator / denominator ∧
      (numerator / denominator : ℚ) < 2 ^ (log2Ratio numerator denominator + 1) := by
  obtain ⟨hlow, hhigh⟩ := log2_sub_log2 hn hd
  have hscaled := scaled_div numerator denominator ((numerator.log2 : ℤ) - denominator.log2)
  have hpos := scaled_pos numerator hd ((numerator.log2 : ℤ) - denominator.log2)
  have hpower : (0 : ℚ) < 2 ^ ((numerator.log2 : ℤ) - denominator.log2) := by positivity
  unfold log2Ratio
  dsimp only
  generalize scaled numerator denominator ((numerator.log2 : ℤ) - denominator.log2) = p at *
  have hp : (0 : ℚ) < p.2 := by exact_mod_cast hpos
  have hless : p.1 < p.2 ↔
      (numerator / denominator : ℚ) < 2 ^ ((numerator.log2 : ℤ) - denominator.log2) := by
    have hcast : p.1 < p.2 ↔ (p.1 : ℚ) < p.2 := Nat.cast_lt.symm
    rw [hcast, ← div_lt_one hp, ← div_lt_one hpower, ← hscaled]
  split
  · rename_i h
    rw [sub_add_cancel]
    exact ⟨hlow.le, hless.mp h⟩
  · rename_i h
    exact ⟨le_of_not_gt (mt hless.mpr h), hhigh⟩

end

/-! ## Rounding -/

/-- How far below a double the numbers reach that round to it, in steps of its last digit. Below a
power of two the steps are half as long. -/
def lowerGap (mantissa : Nat) (exponent : Int) : ℚ :=
  if mantissa = Nat.pow 2 52 ∧ minExponent < exponent then 1 / 4 else 1 / 2

/-- The number rounds to a positive double. -/
structure RoundsTo (q : ℚ) (mantissa : Nat) (exponent : Int) : Prop where
  /-- The next double below is no nearer. -/
  low : (mantissa - lowerGap mantissa exponent) * 2 ^ exponent ≤ q
  /-- The next double above is no nearer. -/
  high : q ≤ (mantissa + 1 / 2) * 2 ^ exponent
  /-- If one of the two is as near, the mantissa is even. -/
  tie : q = (mantissa - lowerGap mantissa exponent) * 2 ^ exponent ∨
    q = (mantissa + 1 / 2) * 2 ^ exponent → mantissa % 2 = 0

/-- The mantissa and the exponent are those of a finite double. -/
structure IsNormal (mantissa : Nat) (exponent : Int) : Prop where
  /-- The mantissa has at most 53 binary digits. -/
  lt : mantissa < Nat.pow 2 53
  /-- The exponent is not too small. -/
  minExponent_le : minExponent ≤ exponent
  /-- The exponent is not too large. -/
  le_maxExponent : exponent ≤ maxExponent
  /-- The mantissa has fewer than 53 digits only if the exponent cannot be smaller. -/
  full : exponent = minExponent ∨ Nat.pow 2 52 ≤ mantissa

/-- The double is finite: its mantissa and its exponent are those of a finite double. -/
def IsProper : Double → Prop
  | finite _ mantissa exponent => IsNormal mantissa exponent
  | _ => False

/-- A proper double is finite. -/
theorem IsProper.isFinite {x : Double} (h : x.IsProper) : x.isFinite = true := by
  cases x with
  | finite negative mantissa exponent => rfl
  | nan payload => exact h.elim
  | infinity negative => exact h.elim

/-- The zeros are proper. -/
theorem isProper_zero (negative : Bool) : (zero negative).IsProper :=
  ⟨by decide, by decide, by decide, Or.inl rfl⟩

/-- The steps below a double are no longer than the ones above. -/
theorem lowerGap_le (mantissa : Nat) (exponent : Int) : lowerGap mantissa exponent ≤ 1 / 2 := by
  unfold lowerGap
  split <;> norm_num

/-- There is some room below every double. -/
theorem lowerGap_pos (mantissa : Nat) (exponent : Int) : 0 < lowerGap mantissa exponent := by
  unfold lowerGap
  split <;> norm_num

section

variable {numerator denominator mantissa : Nat} {exponent : Int} {negative : Bool}

/-- The next mantissa has at most 53 digits, or is the power of two after them. -/
theorem IsNormal.add_one_le (h : IsNormal mantissa exponent) : (mantissa : ℚ) + 1 ≤ 2 ^ 53 := by
  exact_mod_cast h.lt

/-- A quotient scaled by a power of two rounds to an integer that is near. -/
theorem roundHalfEven_scaled (hd : 0 < denominator) {m : Nat}
    (hlow : ((m : ℚ) - 1 / 2) * 2 ^ exponent ≤ numerator / denominator)
    (hhigh : (numerator / denominator : ℚ) ≤ (m + 1 / 2) * 2 ^ exponent)
    (htie : (numerator / denominator : ℚ) = (m - 1 / 2) * 2 ^ exponent ∨
      (numerator / denominator : ℚ) = (m + 1 / 2) * 2 ^ exponent → m % 2 = 0) :
    roundHalfEven (scaled numerator denominator exponent).1
      (scaled numerator denominator exponent).2 = m := by
  have hpower : (0 : ℚ) < 2 ^ exponent := by positivity
  refine roundHalfEven_eq (scaled_pos numerator hd exponent) ?_ ?_ ?_
  · rwa [scaled_div, le_div_iff₀ hpower]
  · rwa [scaled_div, div_le_iff₀ hpower]
  · rwa [scaled_div, div_eq_iff hpower.ne', div_eq_iff hpower.ne']

/-- Powers of two grow with their exponents. -/
theorem lt_of_zpow_lt {m n : ℤ} (h : (2 : ℚ) ^ m < 2 ^ n) : m < n :=
  (zpow_lt_zpow_iff_right₀ (by norm_num)).mp h

/-- A step of a double, times a power of two. -/
theorem zpow_natCast_add (k : ℕ) (exponent : ℤ) :
    (2 : ℚ) ^ ((k : ℤ) + exponent) = 2 ^ k * 2 ^ exponent := by
  rw [zpow_add₀ two_ne_zero, zpow_natCast]

/-- A quotient is rounded to a mantissa, unless that carries. -/
theorem ofRatio_of_mantissa (hn : 0 < numerator)
    (hexponent : max (log2Ratio numerator denominator - 52) minExponent = exponent)
    (hround : roundHalfEven (scaled numerator denominator exponent).1
      (scaled numerator denominator exponent).2 = mantissa)
    (hcarry : mantissa ≠ Nat.pow 2 53) (hmax : exponent ≤ maxExponent) :
    ofRatio negative numerator denominator = .finite negative mantissa exponent := by
  unfold ofRatio
  rw [if_neg hn.ne']
  dsimp only
  rw [hexponent, hround, if_neg hcarry]
  dsimp only
  rw [if_neg (by omega)]

/-- A mantissa that carries is halved. -/
theorem ofRatio_of_carry (hn : 0 < numerator)
    (hexponent : max (log2Ratio numerator denominator - 52) minExponent = exponent)
    (hround : roundHalfEven (scaled numerator denominator exponent).1
      (scaled numerator denominator exponent).2 = Nat.pow 2 53)
    (hmax : exponent + 1 ≤ maxExponent) :
    ofRatio negative numerator denominator = .finite negative (Nat.pow 2 52) (exponent + 1) := by
  unfold ofRatio
  rw [if_neg hn.ne']
  dsimp only
  rw [hexponent, hround, if_pos rfl]
  dsimp only
  rw [if_neg (by omega)]

/-- What is less than half a step below a power of two is rounded to it: the mantissa carries. -/
theorem ofRatio_of_below (hn : 0 < numerator) (hd : 0 < denominator)
    (hmin : minExponent < exponent) (hmax : exponent ≤ maxExponent)
    (hlow : ((2 : ℚ) ^ 52 - 1 / 4) * 2 ^ exponent ≤ numerator / denominator)
    (hhigh : (numerator / denominator : ℚ) < 2 ^ 52 * 2 ^ exponent) :
    ofRatio negative numerator denominator = .finite negative (Nat.pow 2 52) exponent := by
  obtain ⟨hloglow, hloghigh⟩ := log2Ratio_spec hn hd
  have hpower : (0 : ℚ) < 2 ^ exponent := by positivity
  have hhalf : (2 : ℚ) ^ exponent = 2 * 2 ^ (exponent - 1) := by
    rw [zpow_sub_one₀ (by norm_num)]
    ring
  have hcarry : ((Nat.pow 2 53 : ℕ) : ℚ) = 2 ^ 53 := by norm_num
  have hless : log2Ratio numerator denominator < (52 : ℕ) + exponent := by
    apply lt_of_zpow_lt
    rw [zpow_natCast_add]
    exact lt_of_le_of_lt hloglow hhigh
  have hmore : (51 : ℕ) + exponent < log2Ratio numerator denominator + 1 := by
    apply lt_of_zpow_lt
    rw [zpow_natCast_add]
    refine lt_of_le_of_lt (le_trans ?_ hlow) hloghigh
    gcongr
    norm_num
  rw [← sub_add_cancel exponent 1]
  refine ofRatio_of_carry hn (by omega) (roundHalfEven_scaled hd ?_ ?_ ?_) (by omega)
  · rw [hhalf] at hlow
    rw [hcarry]
    linarith
  · rw [hhalf] at hhigh
    rw [hcarry]
    have hpower' : (0 : ℚ) < 2 ^ (exponent - 1) := by positivity
    linarith
  · intro _
    decide

/-- What is no less than the mantissa with 53 digits at the exponent of a double is rounded at that
exponent. -/
theorem ofRatio_of_exponent (hnormal : IsNormal mantissa exponent) (hn : 0 < numerator)
    (hd : 0 < denominator)
    (hfull : exponent = minExponent ∨ (2 : ℚ) ^ 52 * 2 ^ exponent ≤ numerator / denominator)
    (hlow : ((mantissa : ℚ) - 1 / 2) * 2 ^ exponent ≤ numerator / denominator)
    (hhigh : (numerator / denominator : ℚ) ≤ (mantissa + 1 / 2) * 2 ^ exponent)
    (htie : (numerator / denominator : ℚ) = (mantissa - 1 / 2) * 2 ^ exponent ∨
      (numerator / denominator : ℚ) = (mantissa + 1 / 2) * 2 ^ exponent → mantissa % 2 = 0) :
    ofRatio negative numerator denominator = .finite negative mantissa exponent := by
  obtain ⟨hloglow, hloghigh⟩ := log2Ratio_spec hn hd
  have hpower : (0 : ℚ) < 2 ^ exponent := by positivity
  have hmantissa := hnormal.add_one_le
  have hless : log2Ratio numerator denominator < (53 : ℕ) + exponent := by
    apply lt_of_zpow_lt
    rw [zpow_natCast_add]
    nlinarith
  have hexponent : max (log2Ratio numerator denominator - 52) minExponent = exponent := by
    rcases hfull with rfl | hq
    · exact max_eq_right (by omega)
    · have hmore : (52 : ℕ) + exponent < log2Ratio numerator denominator + 1 := by
        apply lt_of_zpow_lt
        rw [zpow_natCast_add]
        exact lt_of_le_of_lt hq hloghigh
      have hmin := hnormal.minExponent_le
      omega
  exact ofRatio_of_mantissa hn hexponent (roundHalfEven_scaled hd hlow hhigh htie)
    hnormal.lt.ne hnormal.le_maxExponent

/-- **A number that rounds to a double is read as that double.** -/
theorem ofRatio_eq (hnormal : IsNormal mantissa exponent) (hn : 0 < numerator)
    (hd : 0 < denominator) (h : RoundsTo (numerator / denominator) mantissa exponent)
    (negative : Bool) :
    ofRatio negative numerator denominator = .finite negative mantissa exponent := by
  obtain ⟨hlow, hhigh, htie⟩ := h
  have hpower : (0 : ℚ) < 2 ^ exponent := by positivity
  by_cases hgap : mantissa = Nat.pow 2 52 ∧ minExponent < exponent
  · -- the last step before a power of two is half as long
    obtain ⟨rfl, hmin⟩ := hgap
    have hquarter : lowerGap (Nat.pow 2 52) exponent = 1 / 4 := if_pos ⟨rfl, hmin⟩
    rw [hquarter] at hlow htie
    by_cases hbelow : (numerator / denominator : ℚ) < 2 ^ 52 * 2 ^ exponent
    · exact ofRatio_of_below hn hd hmin hnormal.le_maxExponent (by exact_mod_cast hlow) hbelow
    · rw [not_lt] at hbelow
      have hfull : ((Nat.pow 2 52 : ℕ) : ℚ) = 2 ^ 52 := by norm_num
      refine ofRatio_of_exponent hnormal hn hd (Or.inr hbelow) ?_ hhigh fun _ => by decide
      rw [hfull]
      linarith
  · have hhalf : lowerGap mantissa exponent = 1 / 2 := if_neg hgap
    rw [hhalf] at hlow htie
    refine ofRatio_of_exponent hnormal hn hd ?_ hlow hhigh htie
    rcases hnormal.full with hmin | hfull
    · exact Or.inl hmin
    · by_cases hmin : exponent = minExponent
      · exact Or.inl hmin
      · right
        have hless := lt_of_le_of_ne hnormal.minExponent_le (Ne.symm hmin)
        have hmore : Nat.pow 2 52 < mantissa :=
          lt_of_le_of_ne hfull fun heq => hgap ⟨heq.symm, hless⟩
        have hmore' : (2 : ℚ) ^ 52 + 1 ≤ mantissa := by exact_mod_cast hmore
        nlinarith

/-! ## Decimals -/

/-- Three powers of two are less than one of ten. -/
theorem zpow_two_le (n : ℕ) : (2 : ℚ) ^ (3 * n : ℤ) ≤ 10 ^ (n : ℤ) := by
  rw [zpow_mul, zpow_natCast, zpow_natCast]
  gcongr
  norm_num

/-- What rounds to a double is not too large. -/
theorem RoundsTo.lt {q : ℚ} (h : RoundsTo q mantissa exponent)
    (hnormal : IsNormal mantissa exponent) : q < 10 ^ (400 : ℤ) := by
  have hmantissa := hnormal.add_one_le
  have hexponent : exponent ≤ 971 := hnormal.le_maxExponent
  have hpower : (0 : ℚ) < 2 ^ exponent := by positivity
  calc q ≤ (mantissa + 1 / 2) * 2 ^ exponent := h.high
    _ < 2 ^ 53 * 2 ^ exponent := by
        gcongr
        linarith
    _ = 2 ^ ((53 : ℕ) + exponent) := (zpow_natCast_add 53 exponent).symm
    _ ≤ 2 ^ (3 * (400 : ℕ) : ℤ) := zpow_le_zpow_right₀ one_le_two (by omega)
    _ ≤ 10 ^ (400 : ℤ) := zpow_two_le 400

/-- What rounds to a positive double is not too small. -/
theorem RoundsTo.gt {q : ℚ} (h : RoundsTo q mantissa exponent)
    (hnormal : IsNormal mantissa exponent) (hpos : 0 < mantissa) : (10 : ℚ) ^ (-400 : ℤ) ≤ q := by
  have hmantissa : (1 : ℚ) ≤ mantissa := by exact_mod_cast hpos
  have hgap := lowerGap_le mantissa exponent
  have hexponent : -1074 ≤ exponent := hnormal.minExponent_le
  calc (10 : ℚ) ^ (-400 : ℤ) = (10 ^ (400 : ℤ))⁻¹ := zpow_neg _ _
    _ ≤ (2 ^ (3 * (400 : ℕ) : ℤ))⁻¹ := by
        gcongr
        exact zpow_two_le 400
    _ = 2 ^ (-(3 * (400 : ℕ) : ℤ)) := (zpow_neg _ _).symm
    _ ≤ 2 ^ (-1 + exponent) := zpow_le_zpow_right₀ one_le_two (by omega)
    _ = 1 / 2 * 2 ^ exponent := by rw [zpow_add₀ two_ne_zero, zpow_neg_one, one_div]
    _ ≤ (mantissa - lowerGap mantissa exponent) * 2 ^ exponent := by
        gcongr
        linarith
    _ ≤ q := h.low

/-- A decimal that rounds to a positive double is positive. -/
theorem RoundsTo.digits_pos {digits : Nat} {power : Int}
    (h : RoundsTo (digits * 10 ^ power) mantissa exponent) (hnormal : IsNormal mantissa exponent)
    (hpos : 0 < mantissa) : 0 < digits := by
  rcases Nat.eq_zero_or_pos digits with rfl | hdigits
  · have hgt := h.gt hnormal hpos
    rw [Nat.cast_zero, zero_mul] at hgt
    exact absurd hgt (not_le.mpr (by positivity))
  · exact hdigits

/-- **A decimal that rounds to a positive double is read as that double.** -/
theorem ofDecimal_eq (hnormal : IsNormal mantissa exponent) (hpos : 0 < mantissa) {digits : Nat}
    {power : Int} (h : RoundsTo (digits * 10 ^ power) mantissa exponent) (negative : Bool) :
    ofDecimal negative digits power = .finite negative mantissa exponent := by
  have hlt := h.lt hnormal
  have hgt := h.gt hnormal hpos
  have hpower : (0 : ℚ) < 10 ^ power := by positivity
  have hdigits := h.digits_pos hnormal hpos
  have hone : (1 : ℚ) ≤ digits := by exact_mod_cast hdigits
  have hlarge : ¬ 400 < power := by
    intro hlarge
    have hmore : (10 : ℚ) ^ (400 : ℤ) ≤ 10 ^ power := zpow_le_zpow_right₀ (by norm_num) hlarge.le
    exact absurd hlt (not_lt.mpr (hmore.trans (le_mul_of_one_le_left hpower.le hone)))
  have hsmall : ¬ power + digits.log2 < -400 := by
    intro hsmall
    have hdigits' : (digits : ℚ) < 2 ^ (digits.log2 + 1) := by exact_mod_cast Nat.lt_log2_self
    have htens : (2 : ℚ) ^ (digits.log2 + 1) ≤ 10 ^ (digits.log2 + 1) := by gcongr; norm_num
    have hless : (digits : ℚ) * 10 ^ power < 10 ^ (-400 : ℤ) := by
      calc (digits : ℚ) * 10 ^ power < 10 ^ (digits.log2 + 1) * 10 ^ power := by
            gcongr
            exact lt_of_lt_of_le hdigits' htens
        _ = 10 ^ (((digits.log2 + 1 : ℕ) : ℤ) + power) := by
            rw [zpow_add₀ (by norm_num), zpow_natCast]
        _ ≤ 10 ^ (-400 : ℤ) := zpow_le_zpow_right₀ (by norm_num) (by push_cast; omega)
    exact absurd hless (not_lt.mpr hgt)
  unfold ofDecimal
  rw [if_neg hdigits.ne', if_neg hlarge, if_neg hsmall]
  split
  · rename_i hpower
    refine ofRatio_eq hnormal (Nat.mul_pos hdigits (Nat.pow_pos (by decide))) one_pos ?_ negative
    lift power to ℕ using hpower
    simpa using h
  · rename_i hpower
    refine ofRatio_eq hnormal hdigits (Nat.pow_pos (by decide)) ?_ negative
    obtain ⟨n, rfl⟩ : ∃ n : ℕ, power = -n := ⟨(-power).toNat, by omega⟩
    simpa [div_eq_mul_inv] using h

/-! ## What is read is in its normal form -/

/-- The mantissa to which a positive quotient is rounded, before it may carry. -/
theorem roundHalfEven_scaled_bounds (hn : 0 < numerator) (hd : 0 < denominator)
    (hexponent : exponent = max (log2Ratio numerator denominator - 52) minExponent) :
    roundHalfEven (scaled numerator denominator exponent).1
        (scaled numerator denominator exponent).2 ≤ Nat.pow 2 53 ∧
      (exponent = minExponent ∨ Nat.pow 2 52 ≤
        roundHalfEven (scaled numerator denominator exponent).1
          (scaled numerator denominator exponent).2) := by
  obtain ⟨hlow, hhigh⟩ := log2Ratio_spec hn hd
  have hpower : (0 : ℚ) < 2 ^ exponent := by positivity
  have hpos := scaled_pos numerator hd exponent
  constructor
  · refine roundHalfEven_le hpos ?_
    rw [scaled_div, div_lt_iff₀ hpower]
    calc (numerator / denominator : ℚ) < 2 ^ (log2Ratio numerator denominator + 1) := hhigh
      _ ≤ 2 ^ ((53 : ℕ) + exponent) := zpow_le_zpow_right₀ one_le_two (by omega)
      _ = (Nat.pow 2 53 : ℕ) * 2 ^ exponent := by rw [zpow_natCast_add]; norm_num
  · by_cases hmin : exponent = minExponent
    · exact Or.inl hmin
    · refine Or.inr (le_roundHalfEven hpos ?_)
      rw [scaled_div, le_div_iff₀ hpower]
      calc ((Nat.pow 2 52 : ℕ) * 2 ^ exponent : ℚ) = 2 ^ ((52 : ℕ) + exponent) := by
            rw [zpow_natCast_add]; norm_num
        _ ≤ 2 ^ log2Ratio numerator denominator := zpow_le_zpow_right₀ one_le_two (by omega)
        _ ≤ numerator / denominator := hlow

/-- A finite double that a quotient is read as is in its normal form. -/
theorem isProper_ofRatio (hd : 0 < denominator)
    (h : (ofRatio negative numerator denominator).isFinite = true) :
    (ofRatio negative numerator denominator).IsProper := by
  unfold ofRatio at *
  split at h
  · rw [if_pos ‹_›]
    exact isProper_zero negative
  · rename_i hn
    rw [if_neg hn]
    obtain ⟨hle, hfull⟩ := roundHalfEven_scaled_bounds (Nat.pos_of_ne_zero hn) hd rfl
    have hmin := le_max_right (log2Ratio numerator denominator - 52) minExponent
    generalize max (log2Ratio numerator denominator - 52) minExponent = exponent at *
    dsimp only at h ⊢
    generalize roundHalfEven (scaled numerator denominator exponent).1
      (scaled numerator denominator exponent).2 = rounded at *
    by_cases hcarry : rounded = Nat.pow 2 53
    · simp only [if_pos hcarry] at h ⊢
      split at h
      · cases h
      · rename_i hmax
        rw [if_neg hmax]
        exact ⟨by decide, by omega, by omega, Or.inr (le_refl _)⟩
    · simp only [if_neg hcarry] at h ⊢
      split at h
      · cases h
      · rename_i hmax
        rw [if_neg hmax]
        exact ⟨lt_of_le_of_ne hle hcarry, hmin, by omega, hfull⟩

/-- A finite double that a decimal is read as is in its normal form. -/
theorem isProper_ofDecimal {digits : Nat} {power : Int}
    (h : (ofDecimal negative digits power).isFinite = true) :
    (ofDecimal negative digits power).IsProper := by
  unfold ofDecimal at *
  split_ifs at *
  · exact isProper_zero negative
  · cases h
  · exact isProper_zero negative
  · exact isProper_ofRatio one_pos h
  · exact isProper_ofRatio (Nat.pow_pos (by decide)) h
end

end Double

end ShapeTypes
