/-
# Shortest decimals read back

The window of a number is the interval that rounds to it. Of two neighbours on a
grid of decimals that is finer than the window, one lies in it. Seventeen digits
make such a grid, because the number has at most 53 bits. So the search finds a
decimal, and whatever it finds rounds back to the number.
-/

import DesignExport.Number.Shortest
import DesignExport.Proofs.Number.Digits
import DesignExport.Proofs.Number.Rounding

namespace DesignExport

open Binary64

/-! ## The window -/

namespace RoundingWindow

/-- The three marks of the window as rationals. -/
structure IsOf (window : RoundingWindow) (significand : Nat) (exponent : Int) : Prop where
  pos : 0 < window.denominator
  low : (window.low : ℚ) / window.denominator =
    (significand - halfGapBelow significand exponent) * 2 ^ exponent
  value : (window.value : ℚ) / window.denominator = significand * 2 ^ exponent
  high : (window.high : ℚ) / window.denominator = (significand + 1 / 2) * 2 ^ exponent
  closed : window.closed = true ↔ significand % 2 = 0

theorem isOf_ofFinite {significand : Nat} (pos : 0 < significand) (exponent : Int) :
    (ofFinite significand exponent).IsOf significand exponent := by
  have scale : ((1 <<< exponent.toNat : Nat) : ℚ) / (4 <<< (-exponent).toNat : Nat) =
      2 ^ exponent / 4 := by
    simp only [Nat.shiftLeft_eq, Nat.cast_mul, Nat.cast_pow, Nat.cast_ofNat]
    obtain ⟨n, rfl | rfl⟩ := exponent.eq_nat_or_neg
    · simp
    · simp [div_eq_mul_inv]
  have part (quarters : Nat) :
      ((quarters * 1 <<< exponent.toNat : Nat) : ℚ) / (4 <<< (-exponent).toNat : Nat) =
        quarters / 4 * 2 ^ exponent := by
    rw [Nat.cast_mul, mul_div_assoc, scale]
    ring
  constructor
  · simp [ofFinite, Nat.shiftLeft_eq]
  · simp only [ofFinite]
    rw [part, halfGapBelow]
    by_cases narrow : significand = leastFull ∧ leastExponent < exponent
    · rw [if_pos narrow, if_pos (by simpa using narrow), Nat.cast_sub (by omega)]
      push_cast
      ring
    · rw [if_neg narrow, if_neg (by simpa using narrow), Nat.cast_sub (by omega)]
      push_cast
      ring
  · simp only [ofFinite]
    rw [part]
    push_cast
    ring
  · simp only [ofFinite]
    rw [part]
    push_cast
    ring
  · simp [ofFinite]

/-- Whether a multiple of ten to `power` lies in the window. -/
def isInside (window : RoundingWindow) (power : Int) (candidate : Nat) : Bool :=
  let lift := tenTo (-power).toNat
  let unit := window.denominator * tenTo power.toNat
  if window.closed then
    decide (window.low * lift ≤ candidate * unit) && decide (candidate * unit ≤ window.high * lift)
  else
    decide (window.low * lift < candidate * unit) && decide (candidate * unit < window.high * lift)

/-- The multiple of ten to `power` at or below the number. -/
def below (window : RoundingWindow) (power : Int) : Nat :=
  window.value * tenTo (-power).toNat / (window.denominator * tenTo power.toNat)

/-- The nearer one of the two multiples next to the number. -/
def nearer (window : RoundingWindow) (power : Int) : Nat :=
  let unit := window.denominator * tenTo power.toNat
  let first := window.below power
  let doubled := 2 * (window.value * tenTo (-power).toNat)
  let between := first * unit + (first + 1) * unit
  if doubled < between then first
  else if between < doubled then first + 1
  else if first % 2 = 0 then first else first + 1

variable {window : RoundingWindow} {significand : Nat} {exponent power : Int} {candidate : Nat}

theorem onGrid?_eq (window : RoundingWindow) (power : Int) :
    window.onGrid? power =
      if window.isInside power (window.below power) &&
          window.isInside power (window.below power + 1) then some (window.nearer power)
      else if window.isInside power (window.below power) then some (window.below power)
      else if window.isInside power (window.below power + 1) then some (window.below power + 1)
      else none := by
  simp only [nearer, apply_ite some]
  rfl

theorem nearer_eq_or_eq (window : RoundingWindow) (power : Int) :
    window.nearer power = window.below power ∨ window.nearer power = window.below power + 1 := by
  rw [nearer]
  split_ifs <;> simp

/-- What is found on a grid lies in the window. -/
theorem isInside_of_onGrid? (found : window.onGrid? power = some candidate) :
    window.isInside power candidate = true := by
  rw [onGrid?_eq] at found
  split_ifs at found with both first second
  · obtain ⟨insideFirst, insideSecond⟩ := Bool.and_eq_true_iff.mp both
    obtain rfl := Option.some.inj found
    rcases nearer_eq_or_eq window power with isFirst | isSecond
    · rwa [isFirst]
    · rwa [isSecond]
  · rwa [← Option.some.inj found]
  · rwa [← Option.some.inj found]

/-- A grid is searched with success if a neighbour of the number lies in the window. -/
theorem isSome_onGrid? (inside : window.isInside power (window.below power) = true ∨
    window.isInside power (window.below power + 1) = true) :
    (window.onGrid? power).isSome = true := by
  rw [onGrid?_eq]
  split_ifs with both first second
  · rfl
  · rfl
  · rfl
  · exact absurd inside (not_or.mpr ⟨first, second⟩)

theorem tenTo_pos (power : Nat) : 0 < tenTo power := by
  rw [tenTo_eq]
  positivity

/-- Marks over the denominator are compared with a multiple of a power of ten. -/
theorem mark_le_iff (pos : 0 < window.denominator) (mark candidate : Nat) (power : Int) :
    mark * tenTo (-power).toNat ≤ candidate * (window.denominator * tenTo power.toNat) ↔
      (mark : ℚ) / window.denominator ≤ candidate * 10 ^ power := by
  have posDen : (0 : ℚ) < window.denominator := Nat.cast_pos.mpr pos
  have posLift : (0 : ℚ) < (tenTo (-power).toNat : Nat) := Nat.cast_pos.mpr (tenTo_pos _)
  rw [← decimalRatio_eq candidate power, div_le_div_iff₀ posDen posLift, ← Nat.cast_mul,
    ← Nat.cast_mul, Nat.cast_le, Nat.mul_comm window.denominator, ← Nat.mul_assoc]

theorem le_mark_iff (pos : 0 < window.denominator) (mark candidate : Nat) (power : Int) :
    candidate * (window.denominator * tenTo power.toNat) ≤ mark * tenTo (-power).toNat ↔
      candidate * 10 ^ power ≤ (mark : ℚ) / window.denominator := by
  have posDen : (0 : ℚ) < window.denominator := Nat.cast_pos.mpr pos
  have posLift : (0 : ℚ) < (tenTo (-power).toNat : Nat) := Nat.cast_pos.mpr (tenTo_pos _)
  rw [← decimalRatio_eq candidate power, div_le_div_iff₀ posLift posDen, ← Nat.cast_mul,
    ← Nat.cast_mul, Nat.cast_le, Nat.mul_comm window.denominator, ← Nat.mul_assoc]

/-- A candidate is inside if it lies between the marks, or on one when the ends belong to
the window. -/
theorem IsOf.isInside_iff (isOf : window.IsOf significand exponent) :
    window.isInside power candidate = true ↔
      ((significand - halfGapBelow significand exponent) * 2 ^ exponent ≤
          (candidate : ℚ) * 10 ^ power ∧
        (candidate : ℚ) * 10 ^ power ≤ (significand + 1 / 2) * 2 ^ exponent) ∧
      (significand % 2 ≠ 0 →
        (significand - halfGapBelow significand exponent) * 2 ^ exponent ≠
            (candidate : ℚ) * 10 ^ power ∧
          (candidate : ℚ) * 10 ^ power ≠ (significand + 1 / 2) * 2 ^ exponent) := by
  rw [← isOf.low, ← isOf.high, isInside]
  cases closed : window.closed with
  | true =>
      have even := isOf.closed.mp closed
      simp only [if_true, Bool.and_eq_true, decide_eq_true_eq, mark_le_iff isOf.pos,
        le_mark_iff isOf.pos, even, ne_eq, not_true_eq_false, false_implies, and_true]
  | false =>
      have odd : significand % 2 ≠ 0 := isOf.closed.not.mp (by simp [closed])
      simp only [Bool.false_eq_true, if_false, Bool.and_eq_true, decide_eq_true_eq, ← not_le,
        mark_le_iff isOf.pos, le_mark_iff isOf.pos]
      simp only [not_le, lt_iff_le_and_ne, odd, ne_eq, not_false_eq_true, true_implies]
      tauto

theorem IsOf.roundsTo (isOf : window.IsOf significand exponent)
    (inside : window.isInside power candidate = true) :
    RoundsTo (candidate * 10 ^ power) significand exponent := by
  obtain ⟨⟨low, high⟩, odd⟩ := isOf.isInside_iff.mp inside
  refine ⟨low, high, fun tie => ?_⟩
  by_contra isOdd
  obtain ⟨notLow, notHigh⟩ := odd isOdd
  rcases tie with isLow | isHigh
  · exact notLow isLow.symm
  · exact notHigh isHigh

/-! ## Seventeen digits -/

/-- The multiple at or below the number and the next one enclose it. -/
theorem IsOf.below_bounds (isOf : window.IsOf significand exponent) (power : Int) :
    (window.below power : ℚ) * 10 ^ power ≤ significand * 2 ^ exponent ∧
      (significand * 2 ^ exponent : ℚ) < (window.below power + 1) * 10 ^ power := by
  have unit : 0 < window.denominator * tenTo power.toNat := Nat.mul_pos isOf.pos (tenTo_pos _)
  constructor
  · rw [← isOf.value, ← le_mark_iff isOf.pos]
    exact Nat.div_mul_le_self _ _
  · have above : window.value * tenTo (-power).toNat <
        (window.below power + 1) * (window.denominator * tenTo power.toNat) := by
      rw [Nat.mul_comm (_ + 1)]
      exact Nat.lt_mul_div_succ _ unit
    rw [← not_le, le_mark_iff isOf.pos, isOf.value, not_le] at above
    exact_mod_cast above

theorem halfGapBelow_pos (significand : Nat) (exponent : Int) :
    0 < halfGapBelow significand exponent := by
  rw [halfGapBelow]
  split_ifs <;> norm_num

/-- On a grid that is finer than the window, a neighbour of the number is inside. -/
theorem IsOf.isInside_or_isInside (isOf : window.IsOf significand exponent)
    (fine : (10 : ℚ) ^ power < (halfGapBelow significand exponent + 1 / 2) * 2 ^ exponent) :
    window.isInside power (window.below power) = true ∨
      window.isInside power (window.below power + 1) = true := by
  obtain ⟨low, high⟩ := isOf.below_bounds power
  have scale : (0 : ℚ) < 2 ^ exponent := by positivity
  have gap : 0 < halfGapBelow significand exponent * 2 ^ exponent :=
    mul_pos (halfGapBelow_pos significand exponent) scale
  rw [add_mul] at fine high
  by_cases inside : (significand - halfGapBelow significand exponent) * 2 ^ exponent <
      window.below power * (10 : ℚ) ^ power
  · refine .inl (isOf.isInside_iff.mpr ⟨⟨inside.le, ?_⟩, fun _ => ⟨inside.ne, ?_⟩⟩)
    · linarith
    · exact ne_of_lt (by linarith)
  · rw [not_lt, sub_mul] at inside
    have above : (significand - halfGapBelow significand exponent) * 2 ^ exponent <
        (window.below power + 1 : Nat) * (10 : ℚ) ^ power := by
      push_cast
      linarith
    have under : (window.below power + 1 : Nat) * (10 : ℚ) ^ power <
        (significand + 1 / 2) * 2 ^ exponent := by
      push_cast
      linarith
    exact .inr (isOf.isInside_iff.mpr ⟨⟨above.le, under.le⟩, fun _ => ⟨above.ne, under.ne⟩⟩)

/-! ## The first digit -/

/-- So many steps lift a numerator to the denominator, if the fuel can. -/
theorem le_mul_stepsBelowOne {denominator : Nat} (fuel : Nat) {numerator : Nat}
    (enough : denominator ≤ numerator * 10 ^ fuel) :
    denominator ≤ numerator * 10 ^ stepsBelowOne denominator fuel numerator := by
  induction fuel generalizing numerator with
  | zero => simpa [stepsBelowOne] using enough
  | succ fuel ih =>
      rw [stepsBelowOne]
      split_ifs with reached
      · simpa using reached
      · rw [Nat.pow_succ', ← Nat.mul_assoc] at enough ⊢
        exact ih enough

/-- The number is at least the power of ten of its first digit. -/
theorem IsOf.ten_zpow_leadingPower_le (isOf : window.IsOf significand exponent)
    (finite : IsFinite significand exponent) (pos : 0 < significand) :
    (10 : ℚ) ^ window.leadingPower ≤ significand * 2 ^ exponent := by
  have posDen : (0 : ℚ) < window.denominator := Nat.cast_pos.mpr isOf.pos
  have least : (10 : ℚ) ^ (-400 : Int) ≤ significand * 2 ^ exponent := by
    have one : (1 : ℚ) ≤ significand := by exact_mod_cast pos
    calc (10 : ℚ) ^ (-400 : Int) ≤ 2 ^ (-1200 : Int) := ten_zpow_le_two_zpow
      _ ≤ 2 ^ exponent := zpow_le_zpow_right₀ (by norm_num) (le_trans (by decide) finite.least)
      _ ≤ significand * 2 ^ exponent := le_mul_of_one_le_left (by positivity) one
  rw [← isOf.value, le_div_iff₀ posDen] at least ⊢
  rw [leadingPower]
  split_ifs with large
  · have posWhole : 0 < window.value / window.denominator := Nat.div_pos large isOf.pos
    have digits : 0 < (Text.ofNat (window.value / window.denominator)).length :=
      List.length_pos_iff.mpr (Text.ofNat_ne_nil _)
    rw [show ((Nat.toDigits 10 (window.value / window.denominator)).length : Int) - 1 =
      ((Text.ofNat (window.value / window.denominator)).length - 1 : Nat) by
        rw [Text.ofNat] at digits ⊢; omega, zpow_natCast]
    have bound :=
      (Nat.mul_le_mul_right window.denominator (Text.ten_pow_le_of_ofNat posWhole)).trans
        (Nat.div_mul_le_self _ _)
    exact_mod_cast bound
  · have enough : window.denominator ≤ window.value * 10 ^ 400 := by
      rw [zpow_neg, inv_mul_le_iff₀ (by positivity), mul_comm] at least
      exact_mod_cast least
    have lifted := le_mul_stepsBelowOne 400 enough
    rw [zpow_neg, inv_mul_le_iff₀ (by positivity), zpow_natCast, mul_comm]
    exact_mod_cast lifted

/-- Seventeen digits make a grid that is finer than the window. -/
theorem IsOf.fine_grid (isOf : window.IsOf significand exponent)
    (finite : IsFinite significand exponent) (pos : 0 < significand) :
    (10 : ℚ) ^ (window.leadingPower - 16) <
      (halfGapBelow significand exponent + 1 / 2) * 2 ^ exponent := by
  have scale : (0 : ℚ) < 2 ^ exponent := by positivity
  have leading := isOf.ten_zpow_leadingPower_le finite pos
  have width : (significand : ℚ) / 10 ^ (16 : Int) < halfGapBelow significand exponent + 1 / 2 := by
    rw [halfGapBelow]
    split_ifs with narrow
    · rw [narrow.1]
      norm_num [leastFull]
    · have : (significand : ℚ) < 2 * leastFull := by exact_mod_cast finite.width
      rw [div_lt_iff₀ (by positivity)]
      norm_num [leastFull] at this ⊢
      linarith
  calc (10 : ℚ) ^ (window.leadingPower - 16)
      = 10 ^ window.leadingPower / 10 ^ (16 : Int) := zpow_sub₀ (by norm_num) _ _
    _ ≤ significand * 2 ^ exponent / 10 ^ (16 : Int) := by gcongr
    _ = significand / 10 ^ (16 : Int) * 2 ^ exponent := by ring
    _ < (halfGapBelow significand exponent + 1 / 2) * 2 ^ exponent :=
        (mul_lt_mul_iff_left₀ scale).mpr width

end RoundingWindow

/-! ## The decimal that is found -/

namespace ShortestDecimal

variable {significand : Nat} {exponent : Int}

/-- The search finds a grid point that rounds back. -/
theorem exists_ofFinite (finite : IsFinite significand exponent) (pos : 0 < significand) :
    ∃ (point : Nat) (power : Int), ofFinite significand exponent = ofGrid point power ∧
      RoundsTo (point * 10 ^ power) significand exponent := by
  have isOf := RoundingWindow.isOf_ofFinite pos exponent
  rw [ofFinite]
  generalize RoundingWindow.ofFinite significand exponent = window at isOf
  have last := RoundingWindow.isSome_onGrid? (isOf.isInside_or_isInside (isOf.fine_grid finite pos))
  generalize isFound : (List.range 17).findSome? _ = found
  cases found with
  | none =>
      rw [List.findSome?_eq_none_iff] at isFound
      have missing := isFound 16 (by decide)
      rw [Option.map_eq_none_iff, Nat.cast_ofNat] at missing
      rw [missing] at last
      cases last
  | some decimal =>
      obtain ⟨more, -, found⟩ := List.exists_of_findSome?_eq_some isFound
      obtain ⟨point, onGrid, isPoint⟩ := Option.map_eq_some_iff.mp found
      exact ⟨point, _, isPoint.symm,
        isOf.roundsTo (RoundingWindow.isInside_of_onGrid? onGrid)⟩

end ShortestDecimal

end DesignExport
