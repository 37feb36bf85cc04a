/-
# The order of bytes

Texts are ordered by their first different character, and so are the bytes of texts
by their first different byte. Both orders are one: of two characters the greater
has more bytes and then the greater first byte, or as many bytes, and these are the
digits of its number behind a mark that says how many there are.
-/

import DesignExport.Text.Utf8
import Mathlib.Data.Char
import Mathlib.Data.List.Lex

namespace DesignExport.Text

/-- Below the bound, a greater number has greater bytes whatever follows them. -/
def IncreasingBelow (bound : Nat) (bytes : Nat → List UInt8) : Prop :=
  ∀ ⦃m n⦄, m < n → n < bound → ∀ first second, bytes m ++ first < bytes n ++ second

theorem toUInt8_lt {m n : Nat} (less : m < n) (isByte : n < 0x100) : m.toUInt8 < n.toUInt8 := by
  simp only [UInt8.lt_iff_toNat_lt, Nat.toUInt8, UInt8.toNat_ofNat']
  omega

theorem cons_lt_cons_of_byte {m n : Nat} (less : m < n) (isByte : n < 0x100)
    (first second : List UInt8) : m.toUInt8 :: first < n.toUInt8 :: second :=
  List.cons_lt_cons_iff.mpr (.inl (toUInt8_lt less isByte))

/-- A number above a mark, in one byte. -/
theorem increasingBelow_lead (mark bound : Nat) (isByte : mark + bound ≤ 0x100) :
    IncreasingBelow bound fun n => [(mark + n).toUInt8] := fun m n less below first second =>
  cons_lt_cons_of_byte (by omega) (by omega) first second

/-- One more digit behind a mark. -/
theorem IncreasingBelow.snoc {bound : Nat} {bytes : Nat → List UInt8}
    (increasing : IncreasingBelow bound bytes) :
    IncreasingBelow (bound * 0x40) fun n => bytes (n / 0x40) ++ [(0x80 + n % 0x40).toUInt8] := by
  intro m n less below first second
  rw [List.append_assoc, List.append_assoc]
  rcases Nat.lt_or_ge (m / 0x40) (n / 0x40) with before | atMost
  · exact increasing before (by omega) _ _
  · have same : m / 0x40 = n / 0x40 := by omega
    rw [same]
    exact List.append_left_lt (cons_lt_cons_of_byte (by omega) (by omega) first second)

/-- The greater of two characters has the greater bytes, whatever follows them. -/
theorem utf8Char_append_lt {c d : Char} (less : c < d) (first second : List UInt8) :
    utf8Char c ++ first < utf8Char d ++ second := by
  have smaller : c.toNat < d.toNat := less
  have valid : d.toNat < 0xD800 ∨ 0xDFFF < d.toNat ∧ d.toNat < 0x110000 := d.valid
  have two := (increasingBelow_lead 0xC0 0x20 (by omega)).snoc
  have three := (increasingBelow_lead 0xE0 0x10 (by omega)).snoc.snoc
  have four := (increasingBelow_lead 0xF0 0x8 (by omega)).snoc.snoc.snoc
  simp only [Nat.div_div_eq_div_mul, Nat.reduceMul] at two three four
  simp only [utf8Char]
  generalize c.toNat = m at smaller
  generalize d.toNat = n at smaller valid
  split_ifs
  -- The greater character has no fewer bytes, and with more of them a greater first byte.
  any_goals omega
  · exact cons_lt_cons_of_byte smaller (by omega) _ _
  · exact cons_lt_cons_of_byte (by omega) (by omega) _ _
  · exact cons_lt_cons_of_byte (by omega) (by omega) _ _
  · exact cons_lt_cons_of_byte (by omega) (by omega) _ _
  · exact two smaller (by omega) first second
  · exact cons_lt_cons_of_byte (by omega) (by omega) _ _
  · exact cons_lt_cons_of_byte (by omega) (by omega) _ _
  · exact three smaller (by omega) first second
  · exact cons_lt_cons_of_byte (by omega) (by omega) _ _
  · exact four smaller (by omega) first second

theorem utf8Char_ne_nil (c : Char) : utf8Char c ≠ [] := by
  simp only [utf8Char]
  split_ifs <;> exact List.cons_ne_nil _ _

theorem utf8_lt_utf8 {first second : Text} (less : first < second) : utf8 first < utf8 second := by
  induction first generalizing second with
  | nil =>
      obtain ⟨d, second, rfl⟩ := List.exists_cons_of_ne_nil less.ne'
      have full : utf8 (d :: second) ≠ [] := by simp [utf8, utf8Char_ne_nil]
      obtain ⟨byte, bytes, isBytes⟩ := List.exists_cons_of_ne_nil full
      rw [isBytes]
      exact List.nil_lt_cons byte bytes
  | cons c first ih =>
      cases second with
      | nil => exact absurd less (List.not_lt_nil _)
      | cons d second =>
          rw [utf8, utf8, List.flatMap_cons, List.flatMap_cons]
          rcases List.cons_lt_cons_iff.mp less with smaller | ⟨rfl, behind⟩
          · exact utf8Char_append_lt smaller _ _
          · exact List.append_left_lt (ih behind)

/-- Texts are ordered as their bytes are. -/
theorem utf8_lt_utf8_iff {first second : Text} : utf8 first < utf8 second ↔ first < second := by
  refine ⟨fun less => ?_, utf8_lt_utf8⟩
  rcases lt_trichotomy first second with before | rfl | behind
  · exact before
  · exact absurd less (List.lt_irrefl _)
  · exact absurd (utf8_lt_utf8 behind) (List.lt_asymm less)

theorem utf8_le_utf8_iff {first second : Text} : utf8 first ≤ utf8 second ↔ first ≤ second :=
  (not_congr utf8_lt_utf8_iff).trans not_lt

end DesignExport.Text
