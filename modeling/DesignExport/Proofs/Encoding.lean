/-
# Codes that are texts

Every code of a character is its own, and none is half of a character. So the codes of a text
are a text, namely that one, and codes are a text exactly when there are no halves among them.
-/

import DesignExport.Text.Charset
import Mathlib.Data.List.TakeWhile
import Mathlib.Order.Basic

namespace DesignExport.Text

variable {codes : List Nat}

/-! ## Codes of characters -/

theorem isHalf_toNat (c : Char) : isHalf c.toNat = false := by
  have valid : c.toNat < 0xD800 ∨ 0xDFFF < c.toNat ∧ c.toNat < 0x110000 := c.valid
  simp only [isHalf, Bool.and_eq_false_iff, decide_eq_false_iff_not]
  omega

theorem toNat_lt (c : Char) : c.toNat < 0x110000 := by
  rcases c.valid with below | ⟨-, above⟩
  · exact lt_trans below (by decide)
  · exact above

theorem toNat_ofNat {code : Nat} (valid : code < 0x110000) (whole : isHalf code = false) :
    (Char.ofNat code).toNat = code := by
  have isValid : code.isValidChar := by
    simp only [isHalf, Bool.and_eq_false_iff, decide_eq_false_iff_not] at whole
    change code < 0xD800 ∨ 0xDFFF < code ∧ code < 0x110000
    omega
  rw [Char.ofNat, dif_pos isValid]
  rfl

theorem map_ofNat_codes (text : Text) : text.codes.map Char.ofNat = text := by
  rw [Text.codes, List.map_map]
  exact (List.map_congr_left fun c _ => Char.ofNat_toNat c).trans (List.map_id text)

theorem map_charOfCode_codes (text : Text) : text.codes.map charOfCode = text := by
  rw [Text.codes, List.map_map]
  refine (List.map_congr_left fun c _ => ?_).trans (List.map_id text)
  simp [charOfCode, isHalf_toNat]

/-! ## Whole codes -/

/-- Codes without halves of characters. -/
def IsUnbroken (codes : List Nat) : Prop := ∀ code ∈ codes, isHalf code = false

instance (codes : List Nat) : Decidable (IsUnbroken codes) :=
  inferInstanceAs (Decidable (∀ code ∈ codes, isHalf code = false))

theorem isUnbroken_codes (text : Text) : IsUnbroken text.codes :=
  List.forall_mem_map.mpr fun c _ => isHalf_toNat c

/-- Whole codes are those of the text that they spell. -/
theorem codes_map_ofNat (valid : ∀ code ∈ codes, code < 0x110000) (whole : IsUnbroken codes) :
    Text.codes (codes.map Char.ofNat) = codes := by
  rw [Text.codes, List.map_map]
  refine (List.map_congr_left fun code within => ?_).trans (List.map_id codes)
  exact toNat_ofNat (valid code within) (whole code within)

/-- A check ends at the first code that the charset does not have, if there is one. -/
theorem Charset.check_eq_ok_iff {charset : Charset} :
    charset.check codes = .ok () ↔ ∀ code ∈ codes, charset.has code = true := by
  rw [check]
  cases left : codes.dropWhile charset.has with
  | nil => exact iff_of_true rfl (List.dropWhile_eq_nil_iff.mp left)
  | cons first rest =>
      refine iff_of_false nofun fun hasAll => ?_
      rw [List.dropWhile_eq_nil_iff.mpr hasAll] at left
      cases left

/-- Whole codes are the text of their characters, and there is no other text of codes. -/
theorem ofCodes_eq_ok_iff {text : Text} :
    ofCodes codes = .ok text ↔ IsUnbroken codes ∧ codes.map Char.ofNat = text := by
  have checks : Charset.utf8.check codes = .ok () ↔ IsUnbroken codes := by
    rw [Charset.check_eq_ok_iff]
    simp [IsUnbroken, Charset.has]
  rw [ofCodes]
  cases checked : Charset.utf8.check codes with
  | ok =>
      have whole := checks.mp checked
      simp [bind, Except.bind, pure, Except.pure, whole]
  | error error =>
      have broken : ¬IsUnbroken codes := fun whole => by
        rw [checks.mpr whole] at checked
        cases checked
      simp [bind, Except.bind, broken]

@[simp] theorem ofCodes_codes (text : Text) : ofCodes text.codes = .ok text :=
  ofCodes_eq_ok_iff.mpr ⟨isUnbroken_codes text, map_ofNat_codes text⟩

theorem ofCodes_of_isUnbroken (whole : IsUnbroken codes) :
    ofCodes codes = .ok (codes.map Char.ofNat) :=
  ofCodes_eq_ok_iff.mpr ⟨whole, rfl⟩

theorem exists_ofCodes_eq_error (broken : ¬IsUnbroken codes) :
    ∃ error, ofCodes codes = .error error := by
  cases isText : ofCodes codes with
  | ok text => exact absurd (ofCodes_eq_ok_iff.mp isText).1 broken
  | error error => exact ⟨error, rfl⟩

end DesignExport.Text
