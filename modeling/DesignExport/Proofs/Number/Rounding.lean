/-
# Rounding to the format

The ratios that are rounded to a finite number are an interval around it: half of
the gap to the next number on either side, with the ends when the significand is
even. Below a power of two the gap is half as wide. The steps of rounding are read
as exact arithmetic of rationals here: a shift divides by a power of two, the
exponent is the one with a significand of 53 bits, and a significand that is
rounded up to the next power of two carries into the exponent.
-/

import DesignExport.Number.Binary64
import Mathlib.Algebra.Order.Field.Power
import Mathlib.Data.Nat.Log
import Mathlib.Tactic.FieldSimp
import Mathlib.Tactic.Linarith
import Mathlib.Tactic.Positivity
import Mathlib.Tactic.Ring

namespace DesignExport.Binary64

variable {num den : Nat} {exponent : Int}

/-! ## The steps of rounding -/

theorem dividePower_snd_pos (pos : 0 < den) : 0 < (dividePower num den exponent).2 := by
  simpa [dividePower, Nat.shiftLeft_eq] using pos

/-- A shift divides by a power of two. -/
theorem dividePower_eq (num den : Nat) (exponent : Int) :
    ((dividePower num den exponent).1 : ℚ) / (dividePower num den exponent).2 =
      num / den / 2 ^ exponent := by
  simp only [dividePower, Nat.shiftLeft_eq, Nat.cast_mul, Nat.cast_pow, Nat.cast_ofNat]
  obtain ⟨n, rfl | rfl⟩ := exponent.eq_nat_or_neg
  · simp [div_div]
  · rcases Nat.eq_zero_or_pos n with rfl | pos
    · simp
    · simp [div_eq_mul_inv]
      ring

theorem roundRatio_eq_of_le {k : Nat} (pos : 0 < den) (low : 2 * (k * den) ≤ 2 * num + den)
    (high : 2 * num ≤ 2 * (k * den) + den)
    (even : 2 * (k * den) = 2 * num + den ∨ 2 * num = 2 * (k * den) + den → k % 2 = 0) :
    roundRatio num den = k := by
  have whole : num / den * den + num % den = num := Nat.div_add_mod' num den
  have rest : num % den < den := Nat.mod_lt num pos
  rw [roundRatio]
  generalize num / den = below at *
  generalize num % den = left at *
  subst whole
  have least : below ≤ k := by
    by_contra more
    have step : (k + 1) * den ≤ below * den := Nat.mul_le_mul_right den (by omega)
    rw [Nat.succ_mul] at step
    omega
  have greatest : k ≤ below + 1 := by
    by_contra more
    have step : (below + 2) * den ≤ k * den := Nat.mul_le_mul_right den (by omega)
    rw [Nat.add_mul] at step
    omega
  obtain rfl | rfl : k = below ∨ k = below + 1 := by omega
  · split_ifs <;> omega
  · rw [Nat.succ_mul below den] at low high even
    split_ifs <;> omega

/-- A ratio is rounded to a number that it is at most a half away from, an even one when
it is just a half away. -/
theorem roundRatio_eq {k : Nat} (pos : 0 < den) (low : (k : ℚ) - 1 / 2 ≤ num / den)
    (high : (num : ℚ) / den ≤ k + 1 / 2)
    (even : (num : ℚ) / den = k - 1 / 2 ∨ (num : ℚ) / den = k + 1 / 2 → k % 2 = 0) :
    roundRatio num den = k := by
  have pos' : (0 : ℚ) < den := Nat.cast_pos.mpr pos
  rw [le_div_iff₀ pos'] at low
  rw [div_le_iff₀ pos'] at high
  rw [div_eq_iff pos'.ne', div_eq_iff pos'.ne'] at even
  refine roundRatio_eq_of_le pos ?_ ?_ fun tie => even (tie.imp (fun tie => ?_) fun tie => ?_)
  · have : (2 * (k * den) : ℚ) ≤ 2 * num + den := by linarith
    exact_mod_cast this
  · have : (2 * num : ℚ) ≤ 2 * (k * den) + den := by linarith
    exact_mod_cast this
  · have : (2 * (k * den) : ℚ) = 2 * num + den := by exact_mod_cast tie
    linarith
  · have : (2 * num : ℚ) = 2 * (k * den) + den := by exact_mod_cast tie
    linarith

/-! ## The exponent -/

theorem two_zpow_log2_le {n : Nat} (pos : 0 < n) : (2 : ℚ) ^ (n.log2 : Int) ≤ n := by
  rw [zpow_natCast]
  exact_mod_cast Nat.log2_self_le pos.ne'

theorem lt_two_zpow_log2 (n : Nat) : (n : ℚ) < 2 ^ ((n.log2 : Int) + 1) := by
  have := Nat.lt_log2_self (n := n)
  rw [show ((n.log2 : Int) + 1) = ((n.log2 + 1 : Nat) : Int) by push_cast; rfl, zpow_natCast]
  exact_mod_cast this

/-- A ratio of positive numbers lies within the powers of two that their lengths tell. -/
theorem log2_bounds (posNum : 0 < num) (posDen : 0 < den) :
    (2 : ℚ) ^ ((num.log2 : Int) - den.log2 - 1) < num / den ∧
      (num : ℚ) / den < 2 ^ ((num.log2 : Int) - den.log2 + 1) := by
  have pos' : (0 : ℚ) < den := Nat.cast_pos.mpr posDen
  have two : (2 : ℚ) ≠ 0 := by norm_num
  constructor
  · rw [lt_div_iff₀ pos']
    calc (2 : ℚ) ^ ((num.log2 : Int) - den.log2 - 1) * den
        < 2 ^ ((num.log2 : Int) - den.log2 - 1) * 2 ^ ((den.log2 : Int) + 1) := by
          gcongr
          exact lt_two_zpow_log2 den
      _ = 2 ^ (num.log2 : Int) := by
          rw [← zpow_add₀ two]
          congr 1
          ring
      _ ≤ num := two_zpow_log2_le posNum
  · rw [div_lt_iff₀ pos']
    calc (num : ℚ) < 2 ^ ((num.log2 : Int) + 1) := lt_two_zpow_log2 num
      _ = 2 ^ ((num.log2 : Int) - den.log2 + 1) * 2 ^ (den.log2 : Int) := by
          rw [← zpow_add₀ two]
          congr 1
          ring
      _ ≤ 2 ^ ((num.log2 : Int) - den.log2 + 1) * den := by
          gcongr
          exact two_zpow_log2_le posDen

/-- Without a least exponent, the exponent gives a significand of 53 bits. -/
theorem exists_exponentOf_eq_max (posNum : 0 < num) (posDen : 0 < den) :
    ∃ exponent : Int, exponentOf num den = max leastExponent exponent ∧
      (2 : ℚ) ^ (exponent + 52) ≤ num / den ∧ (num : ℚ) / den < 2 ^ (exponent + 53) := by
  obtain ⟨low, high⟩ := log2_bounds posNum posDen
  have two : (2 : ℚ) ≠ 0 := by norm_num
  generalize isGuess : (num.log2 : Int) - den.log2 - 52 = guess
  have smaller : (dividePower num den guess).1 < (dividePower num den guess).2 * leastFull ↔
      (num : ℚ) / den < 2 ^ (guess + 52) := by
    have pos : (0 : ℚ) < (dividePower num den guess).2 :=
      Nat.cast_pos.mpr (dividePower_snd_pos posDen)
    have scale : (0 : ℚ) < 2 ^ guess := by positivity
    rw [zpow_add₀ two, ← div_lt_iff₀' scale, ← dividePower_eq, div_lt_iff₀' pos]
    norm_cast
  refine ⟨if (dividePower num den guess).1 < (dividePower num den guess).2 * leastFull
    then guess - 1 else guess, by rw [exponentOf, isGuess], ?_⟩
  split_ifs with small
  · refine ⟨low.le.trans' (le_of_eq ?_), (smaller.mp small).trans_eq ?_⟩ <;> congr 1 <;> omega
  · refine ⟨not_lt.mp (smaller.not.mp small), high.trans_eq ?_⟩
    congr 1
    omega

/-- The exponent of a ratio whose significand has 53 bits. -/
theorem exponentOf_eq (posNum : 0 < num) (posDen : 0 < den) (least : leastExponent ≤ exponent)
    (low : (2 : ℚ) ^ (exponent + 52) ≤ num / den) (high : (num : ℚ) / den < 2 ^ (exponent + 53)) :
    exponentOf num den = exponent := by
  obtain ⟨found, isFound, foundLow, foundHigh⟩ := exists_exponentOf_eq_max posNum posDen
  have above := (zpow_lt_zpow_iff_right₀ one_lt_two).mp (low.trans_lt foundHigh)
  have below := (zpow_lt_zpow_iff_right₀ one_lt_two).mp (foundLow.trans_lt high)
  rw [isFound]
  omega

/-- The exponent of a ratio that is too small for a significand of 53 bits. -/
theorem exponentOf_eq_leastExponent (posNum : 0 < num) (posDen : 0 < den)
    (high : (num : ℚ) / den < 2 ^ (leastExponent + 53)) :
    exponentOf num den = leastExponent := by
  obtain ⟨found, isFound, foundLow, -⟩ := exists_exponentOf_eq_max posNum posDen
  have below := (zpow_lt_zpow_iff_right₀ one_lt_two).mp (foundLow.trans_lt high)
  rw [isFound]
  omega

/-! ## The numbers of the format -/

/-- A significand and an exponent in the one form in which the format has the number. -/
structure IsFinite (significand : Nat) (exponent : Int) : Prop where
  least : leastExponent ≤ exponent
  greatest : exponent ≤ greatestExponent
  width : significand < 2 * leastFull
  full : exponent = leastExponent ∨ leastFull ≤ significand

/-- Half of the gap to the number below, in units of the last place. -/
def halfGapBelow (significand : Nat) (exponent : Int) : ℚ :=
  if significand = leastFull ∧ leastExponent < exponent then 1 / 4 else 1 / 2

/-- A rational that is at most half of the gap away from a number, and less than that
when the significand is odd. -/
structure RoundsTo (value : ℚ) (significand : Nat) (exponent : Int) : Prop where
  low : (significand - halfGapBelow significand exponent) * 2 ^ exponent ≤ value
  high : value ≤ (significand + 1 / 2) * 2 ^ exponent
  even : value = (significand - halfGapBelow significand exponent) * 2 ^ exponent ∨
    value = (significand + 1 / 2) * 2 ^ exponent → significand % 2 = 0

variable {significand : Nat}

theorem halfGapBelow_le (significand : Nat) (exponent : Int) :
    halfGapBelow significand exponent ≤ 1 / 2 := by
  rw [halfGapBelow]
  split_ifs <;> norm_num

theorem RoundsTo.pos {value : ℚ} (rounds : RoundsTo value significand exponent)
    (pos : 0 < significand) : 0 < value := by
  refine lt_of_lt_of_le ?_ rounds.low
  have one : (1 : ℚ) ≤ significand := by exact_mod_cast pos
  have gap := halfGapBelow_le significand exponent
  have : 0 < (significand : ℚ) - halfGapBelow significand exponent := by linarith
  positivity

/-- What is rounded at an exponent is finite if the exponent is one of the format. -/
theorem ofRatio_of_roundRatio (negative : Bool) (posNum : 0 < num)
    (isExponent : exponentOf num den = exponent) (greatest : exponent ≤ greatestExponent)
    (rounded : roundRatio (dividePower num den exponent).1 (dividePower num den exponent).2 =
      significand) (width : significand < 2 * leastFull) :
    ofRatio negative num den = .finite negative significand exponent := by
  have uncarried : significand ≠ 2 * leastFull := by omega
  rw [ofRatio, if_neg posNum.ne']
  simp only [isExponent, rounded, uncarried, decide_false, Bool.false_eq_true, if_false]
  rw [if_neg (by omega)]

/-- What is rounded up to a significand of 54 bits is a power of two. -/
theorem ofRatio_of_carry (negative : Bool) (posNum : 0 < num)
    (isExponent : exponentOf num den = exponent - 1) (greatest : exponent ≤ greatestExponent)
    (rounded : roundRatio (dividePower num den (exponent - 1)).1
      (dividePower num den (exponent - 1)).2 = 2 * leastFull) :
    ofRatio negative num den = .finite negative leastFull exponent := by
  rw [ofRatio, if_neg posNum.ne']
  simp only [isExponent, rounded, decide_true, if_true, sub_add_cancel]
  rw [if_neg (by omega)]

/-- A ratio just below a power of two is rounded up to it. -/
theorem ofRatio_eq_of_lt (negative : Bool) (posNum : 0 < num) (posDen : 0 < den)
    (least : leastExponent < exponent) (greatest : exponent ≤ greatestExponent)
    (low : (2 ^ (52 : Int) - 1 / 4) * 2 ^ exponent ≤ (num : ℚ) / den)
    (high : (num : ℚ) / den < 2 ^ (exponent + 52)) :
    ofRatio negative num den = .finite negative leastFull exponent := by
  have two : (2 : ℚ) ≠ 0 := by norm_num
  have scale : (0 : ℚ) < 2 ^ exponent := by positivity
  have halved : (2 : ℚ) ^ (exponent - 1) = 2 ^ exponent / 2 := by rw [zpow_sub_one₀ two]; rfl
  have full : ((2 * leastFull : Nat) : ℚ) = 2 ^ (53 : Int) := by norm_num [leastFull]
  rw [zpow_add₀ two] at high
  have isExponent : exponentOf num den = exponent - 1 := by
    refine exponentOf_eq posNum posDen (by omega) (low.trans' ?_) (high.trans_eq ?_)
    · rw [zpow_add₀ two, halved]
      nlinarith
    · rw [zpow_add₀ two, halved]
      ring
  refine ofRatio_of_carry negative posNum isExponent greatest ?_
  have half : (0 : ℚ) < 2 ^ exponent / 2 := by positivity
  refine roundRatio_eq (dividePower_snd_pos posDen) ?_ ?_ fun _ => by decide
  · rw [dividePower_eq, halved, le_div_iff₀ half, full]
    nlinarith
  · rw [dividePower_eq, halved, div_le_iff₀ half, full]
    nlinarith

/-- A ratio near a number is rounded to the number. -/
theorem ofRatio_eq (negative : Bool) (finite : IsFinite significand exponent)
    (pos : 0 < significand) (posDen : 0 < den)
    (rounds : RoundsTo (num / den) significand exponent) :
    ofRatio negative num den = .finite negative significand exponent := by
  have two : (2 : ℚ) ≠ 0 := by norm_num
  have scale (exponent : Int) : (0 : ℚ) < 2 ^ exponent := by positivity
  have posRatio : (0 : ℚ) < num / den := rounds.pos pos
  have posNum : 0 < num := by
    rcases Nat.eq_zero_or_pos num with rfl | pos
    · simp at posRatio
    · exact pos
  have width : (significand : ℚ) + 1 ≤ 2 ^ (53 : Int) := by
    have : significand + 1 ≤ 2 ^ 53 := finite.width
    exact_mod_cast this
  have gap := halfGapBelow_le significand exponent
  have high : (num : ℚ) / den < 2 ^ (exponent + 53) := by
    rw [add_comm, zpow_add₀ two]
    refine rounds.high.trans_lt ((mul_lt_mul_iff_left₀ (scale exponent)).mpr ?_)
    linarith
  by_cases within : exponent = leastExponent ∨ (2 : ℚ) ^ (exponent + 52) ≤ num / den
  · have isExponent : exponentOf num den = exponent := by
      rcases within with rfl | low
      · exact exponentOf_eq_leastExponent posNum posDen high
      · exact exponentOf_eq posNum posDen finite.least low high
    refine ofRatio_of_roundRatio negative posNum isExponent finite.greatest ?_ finite.width
    refine roundRatio_eq (dividePower_snd_pos posDen) ?_ ?_ ?_
    · rw [dividePower_eq, le_div_iff₀ (scale exponent)]
      refine rounds.low.trans' ((mul_le_mul_iff_left₀ (scale exponent)).mpr ?_)
      linarith
    · rw [dividePower_eq, div_le_iff₀ (scale exponent)]
      exact rounds.high
    · rw [dividePower_eq, div_eq_iff (scale exponent).ne', div_eq_iff (scale exponent).ne']
      rintro (tie | tie)
      · refine rounds.even (.inl (le_antisymm (tie.le.trans ?_) rounds.low))
        refine (mul_le_mul_iff_left₀ (scale exponent)).mpr ?_
        linarith
      · exact rounds.even (.inr tie)
  · -- the number is a power of two, and the ratio lies below it
    obtain ⟨notLeast, below⟩ := not_or.mp within
    rw [not_le] at below
    have least : leastExponent < exponent := lt_of_le_of_ne finite.least (Ne.symm notLeast)
    have full : leastFull ≤ significand := finite.full.resolve_left notLeast
    have less : (significand : ℚ) < 2 ^ (52 : Int) + 1 := by
      have := rounds.low.trans_lt below
      rw [add_comm exponent, zpow_add₀ two, mul_lt_mul_iff_left₀ (scale exponent)] at this
      linarith
    have isFull : significand = leastFull := by
      have : significand < leastFull + 1 := by exact_mod_cast less
      omega
    subst isFull
    have low := rounds.low
    rw [halfGapBelow, if_pos ⟨rfl, least⟩] at low
    exact ofRatio_eq_of_lt negative posNum posDen least finite.greatest low below

/-! ## Decimals -/

theorem two_zpow_le_ten_zpow : (2 : ℚ) ^ (1200 : Int) ≤ 10 ^ (400 : Int) := by
  rw [show (1200 : Int) = 3 * 400 from rfl, zpow_mul]
  exact zpow_le_zpow_left₀ (by omega) (by norm_num) (by norm_num)

theorem ten_zpow_le_two_zpow : (10 : ℚ) ^ (-400 : Int) ≤ 2 ^ (-1200 : Int) := by
  rw [zpow_neg, zpow_neg]
  exact inv_anti₀ (by positivity) two_zpow_le_ten_zpow

theorem tenTo_eq (power : Nat) : tenTo power = 10 ^ power := rfl

/-- Powers of ten above and below the point make one ratio. -/
theorem decimalRatio_eq (digits : Nat) (power : Int) :
    ((digits * tenTo power.toNat : Nat) : ℚ) / (tenTo (-power).toNat : Nat) =
      digits * 10 ^ power := by
  simp only [tenTo_eq, Nat.cast_mul, Nat.cast_pow, Nat.cast_ofNat]
  obtain ⟨n, rfl | rfl⟩ := power.eq_nat_or_neg
  · simp
  · simp [div_eq_mul_inv]

/-- What rounds to a number is less than the first power of two that has none. -/
theorem RoundsTo.lt_two_zpow {value : ℚ} (rounds : RoundsTo value significand exponent)
    (finite : IsFinite significand exponent) : value < 2 ^ (1024 : Int) := by
  have width : (significand : ℚ) + 1 ≤ 2 ^ (53 : Int) := by
    have : significand + 1 ≤ 2 ^ 53 := finite.width
    exact_mod_cast this
  have scale : (0 : ℚ) < 2 ^ exponent := by positivity
  calc value ≤ (significand + 1 / 2) * 2 ^ exponent := rounds.high
    _ < 2 ^ (53 : Int) * 2 ^ exponent := (mul_lt_mul_iff_left₀ scale).mpr (by linarith)
    _ ≤ 2 ^ (53 : Int) * 2 ^ greatestExponent := by
        gcongr
        · norm_num
        · exact finite.greatest
    _ = 2 ^ (1024 : Int) := by rw [← zpow_add₀ (by norm_num : (2 : ℚ) ≠ 0)]; rfl

/-- What rounds to a positive number is at least half of the least one. -/
theorem RoundsTo.two_zpow_le {value : ℚ} (rounds : RoundsTo value significand exponent)
    (finite : IsFinite significand exponent) (pos : 0 < significand) :
    2 ^ (-1075 : Int) ≤ value := by
  have one : (1 : ℚ) ≤ significand := by exact_mod_cast pos
  have gap := halfGapBelow_le significand exponent
  calc (2 : ℚ) ^ (-1075 : Int) = 1 / 2 * 2 ^ leastExponent := by
        rw [show (-1075 : Int) = leastExponent - 1 from rfl,
          zpow_sub_one₀ (by norm_num : (2 : ℚ) ≠ 0)]
        ring
    _ ≤ (significand - halfGapBelow significand exponent) * 2 ^ exponent := by
        gcongr
        · linarith
        · linarith
        · norm_num
        · exact finite.least
    _ ≤ value := rounds.low

/-- A decimal near a number is read as the number, however it is written. -/
theorem ofDecimal_eq (negative : Bool) (finite : IsFinite significand exponent)
    (pos : 0 < significand) {digits : Nat} {power : Int}
    (rounds : RoundsTo (digits * 10 ^ power) significand exponent) :
    ofDecimal negative digits power = .finite negative significand exponent := by
  have ten : (0 : ℚ) < 10 ^ power := by positivity
  have posDigits : 0 < digits := by
    have := rounds.pos pos
    rcases Nat.eq_zero_or_pos digits with rfl | pos
    · simp at this
    · exact pos
  have notLarge : ¬400 < power := by
    intro large
    have least : (10 : ℚ) ^ (400 : Int) ≤ digits * 10 ^ power := by
      have one : (1 : ℚ) ≤ digits := by exact_mod_cast posDigits
      calc (10 : ℚ) ^ (400 : Int) ≤ 10 ^ power :=
            zpow_le_zpow_right₀ (by norm_num) large.le
        _ ≤ digits * 10 ^ power := le_mul_of_one_le_left ten.le one
    have most : (2 : ℚ) ^ (1024 : Int) ≤ 2 ^ (1200 : Int) :=
      zpow_le_zpow_right₀ (by norm_num) (by norm_num)
    exact absurd (least.trans_lt (rounds.lt_two_zpow finite))
      (most.trans two_zpow_le_ten_zpow).not_gt
  have notSmall : ¬power < -((digits.log2 : Int) + 400) := by
    intro small
    have less : (digits : ℚ) * 10 ^ power < 10 ^ (-400 : Int) :=
      calc (digits : ℚ) * 10 ^ power < 2 ^ ((digits.log2 : Int) + 1) * 10 ^ power := by
            gcongr
            exact lt_two_zpow_log2 digits
        _ ≤ 10 ^ ((digits.log2 : Int) + 1) * 10 ^ (-((digits.log2 : Int) + 1) - 400) := by
            gcongr
            · exact zpow_le_zpow_left₀ (by omega) (by norm_num) (by norm_num)
            · norm_num
            · omega
        _ = 10 ^ (-400 : Int) := by
            rw [← zpow_add₀ (by norm_num : (10 : ℚ) ≠ 0)]
            congr 1
            ring
    have most : (2 : ℚ) ^ (-1200 : Int) ≤ 2 ^ (-1075 : Int) :=
      zpow_le_zpow_right₀ (by norm_num) (by norm_num)
    exact absurd ((rounds.two_zpow_le finite pos).trans_lt less)
      (ten_zpow_le_two_zpow.trans most).not_gt
  have posDen : 0 < tenTo (-power).toNat := by
    rw [tenTo_eq]
    positivity
  rw [ofDecimal, if_neg posDigits.ne', if_neg notLarge, if_neg notSmall]
  refine ofRatio_eq negative finite pos posDen ?_
  rwa [decimalRatio_eq]

/-! ## Rounding gives numbers of the format -/

/-- A number in the one form in which the format has it. -/
def IsCanonical : Binary64 → Prop
  | finite _ significand exponent => IsFinite significand exponent
  | _ => True

theorem isCanonical_zero (negative : Bool) : (zero negative).IsCanonical :=
  ⟨le_rfl, by decide, by decide, .inl rfl⟩

/-- A ratio is rounded to one of its two neighbours. -/
theorem roundRatio_bounds (num den : Nat) :
    num / den ≤ roundRatio num den ∧ roundRatio num den ≤ num / den + 1 := by
  rw [roundRatio]
  split_ifs <;> omega

/-- At the exponent of a ratio, the significand has at most 53 bits before it is rounded, and
just as many above the least exponent. -/
theorem significand_bounds (posNum : 0 < num) (posDen : 0 < den)
    (isExponent : exponentOf num den = exponent) :
    leastExponent ≤ exponent ∧
      (dividePower num den exponent).1 / (dividePower num den exponent).2 < 2 * leastFull ∧
      (exponent = leastExponent ∨
        leastFull ≤ (dividePower num den exponent).1 / (dividePower num den exponent).2) := by
  have two : (2 : ℚ) ≠ 0 := by norm_num
  have scale (exponent : Int) : (0 : ℚ) < 2 ^ exponent := by positivity
  have posScaled : 0 < (dividePower num den exponent).2 := dividePower_snd_pos posDen
  have pos : (0 : ℚ) < (dividePower num den exponent).2 := Nat.cast_pos.mpr posScaled
  have scaled := dividePower_eq num den exponent
  obtain ⟨found, isMax, low, high⟩ := exists_exponentOf_eq_max posNum posDen
  rw [isExponent] at isMax
  refine ⟨by omega, ?_, ?_⟩
  · have less : (num : ℚ) / den < 2 ^ (exponent + 53) :=
      high.trans_le (zpow_le_zpow_right₀ one_le_two (by omega))
    rw [add_comm, zpow_add₀ two, ← div_lt_iff₀ (scale exponent), ← scaled, div_lt_iff₀ pos] at less
    refine Nat.div_lt_of_lt_mul ?_
    have full : ((2 * leastFull : Nat) : ℚ) = 2 ^ (53 : Int) := by norm_num [leastFull]
    rw [← full] at less
    rw [Nat.mul_comm]
    exact_mod_cast less
  · rcases eq_or_ne exponent leastExponent with least | more
    · exact .inl least
    · obtain rfl : exponent = found := by omega
      rw [add_comm, zpow_add₀ two, ← le_div_iff₀ (scale exponent), ← scaled, le_div_iff₀ pos] at low
      refine .inr ((Nat.le_div_iff_mul_le posScaled).mpr ?_)
      have full : (leastFull : ℚ) = 2 ^ (52 : Int) := by norm_num [leastFull]
      rw [← full] at low
      exact_mod_cast low

theorem isCanonical_ofRatio (negative : Bool) (num : Nat) (posDen : 0 < den) :
    (ofRatio negative num den).IsCanonical := by
  rcases Nat.eq_zero_or_pos num with rfl | posNum
  · exact isCanonical_zero negative
  · obtain ⟨least, width, full⟩ := significand_bounds posNum posDen rfl
    obtain ⟨low, high⟩ := roundRatio_bounds (dividePower num den (exponentOf num den)).1
      (dividePower num den (exponentOf num den)).2
    simp only [ofRatio, posNum.ne', if_false]
    generalize exponentOf num den = exponent at *
    generalize roundRatio (dividePower num den exponent).1 (dividePower num den exponent).2 =
      significand at *
    by_cases carried : significand = 2 * leastFull
    · simp only [carried, decide_true, if_true]
      split_ifs with infinite
      · trivial
      · exact ⟨by omega, by omega, by decide, .inr le_rfl⟩
    · simp only [carried, decide_false, Bool.false_eq_true, if_false]
      split_ifs with infinite
      · trivial
      · exact ⟨least, by omega, by omega, full.imp_right (le_trans · low)⟩

/-- A decimal is rounded to a number of the format. -/
theorem isCanonical_ofDecimal (negative : Bool) (digits : Nat) (power : Int) :
    (ofDecimal negative digits power).IsCanonical := by
  rw [ofDecimal]
  split_ifs
  · exact isCanonical_zero negative
  · trivial
  · exact isCanonical_zero negative
  · exact isCanonical_ofRatio negative _ (Nat.pow_pos (by decide))

end DesignExport.Binary64
