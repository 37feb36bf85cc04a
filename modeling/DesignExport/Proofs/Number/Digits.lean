/-
# Runs of digits

The value of a run of digits, and the run that shows a natural number.
-/

import DesignExport.Number.Reading
import Mathlib.Data.Nat.Digits.Defs
import Mathlib.Tactic.IntervalCases

namespace DesignExport

namespace Numeral

theorem value_eq_ofDigitChars (digits : Text) : value digits = Nat.ofDigitChars 10 digits 0 := by
  simp only [value, Nat.ofDigitChars, Nat.mul_comm]
  rfl

theorem value_append (front back : Text) :
    value (front ++ back) = value front * 10 ^ back.length + value back := by
  simp only [value_eq_ofDigitChars]
  rw [Nat.ofDigitChars_append, Nat.ofDigitChars_eq_ofDigitChars_zero, Nat.mul_comm]

theorem value_replicate_zero (count : Nat) : value (List.replicate count '0') = 0 := by
  rw [value_eq_ofDigitChars, Nat.ofDigitChars_replicate_zero, Nat.mul_zero]

theorem value_zero_cons (digits : Text) : value ('0' :: digits) = value digits := by
  rw [← List.singleton_append, value_append, show value ['0'] = 0 from rfl, Nat.zero_mul,
    Nat.zero_add]

@[simp] theorem value_ofNat (n : Nat) : value (Text.ofNat n) = n := by
  rw [value_eq_ofDigitChars, Text.ofNat, Nat.ofDigitChars_ten_toDigits]

end Numeral

namespace Text

theorem isDigit_of_mem_ofNat {n : Nat} {c : Char} (within : c ∈ ofNat n) : c.isDigit = true :=
  Nat.isDigit_of_mem_toDigits (by decide) (by decide) within

theorem ofNat_ne_nil (n : Nat) : ofNat n ≠ [] := Nat.toDigits_ne_nil

theorem exists_mem_head?_ofNat (n : Nat) : ∃ c ∈ (ofNat n).head?, c.isDigit = true := by
  obtain ⟨c, more, isCons⟩ := List.exists_cons_of_ne_nil (ofNat_ne_nil n)
  exact ⟨c, by simp [isCons], isDigit_of_mem_ofNat (by rw [isCons]; exact List.mem_cons_self)⟩

/-- The digits of a positive number do not begin with a zero. -/
theorem head?_ofNat_ne_zero {n : Nat} (pos : 0 < n) : (ofNat n).head? ≠ some '0' := by
  induction n using Nat.strong_induction_on with
  | _ n ih =>
      rw [ofNat, Nat.toDigits_eq_if (by decide)]
      split_ifs with small
      · interval_cases n <;> decide
      · have front := ih (n / 10) (by omega) (by omega)
        obtain ⟨first, more, isFront⟩ := List.exists_cons_of_ne_nil (ofNat_ne_nil (n / 10))
        rw [isFront] at front
        rw [← ofNat, isFront]
        exact front

/-- A number of so many digits is at least the power of ten with so many digits. -/
theorem ten_pow_le_of_ofNat {n : Nat} (pos : 0 < n) : 10 ^ ((ofNat n).length - 1) ≤ n := by
  by_contra less
  rw [not_le] at less
  rcases Nat.eq_zero_or_pos ((ofNat n).length - 1) with isZero | more
  · rw [isZero] at less
    omega
  · have := (Nat.length_toDigits_le_iff (by decide) more).mpr less
    rw [ofNat] at more this
    omega

end Text

end DesignExport
