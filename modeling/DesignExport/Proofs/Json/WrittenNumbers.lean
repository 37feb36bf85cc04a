/-
# Numbers inside a written value

Behind a number stands the end of the text, or what separates or ends the items of
a list or the members of an object. None of these goes on with a number, so the
reader takes exactly the number.
-/

import DesignExport.Json.Writing
import DesignExport.Proofs.Number.ReadDecimal

namespace DesignExport

namespace Json

/-- What may follow a value: nothing, a comma, or the end of an array or an object. -/
def Follows (rest : Text) : Prop := ∀ c ∈ rest.head?, c = ',' ∨ c = ']' ∨ c = '\x7d'

variable {rest : Text}

theorem Follows.isDigit_eq_false (follows : Follows rest) :
    ∀ c ∈ rest.head?, c.isDigit = false := by
  intro c head
  rcases follows c head with rfl | rfl | rfl <;> rfl

/-- A proper run of whole digits is taken up to its end. -/
theorem wholePart_append {whole : Text} (digits : ∀ c ∈ whole, c.isDigit = true) (full : whole ≠ [])
    (leading : whole = ['0'] ∨ whole.head? ≠ some '0') {tail : Text}
    (ends : ∀ c ∈ tail.head?, c.isDigit = false) : wholePart (whole ++ tail) = whole := by
  rcases leading with rfl | leading
  · rfl
  · have taken := Text.takeWhile_append_of_head? digits ends
    obtain ⟨c, more, rfl⟩ := List.exists_cons_of_ne_nil full
    rw [wholePart]
    · exact taken
    · rintro others ⟨⟩
      exact leading rfl

variable {parts : DecimalParts}

theorem exponentPart_of_follows (follows : Follows rest) : exponentPart rest = [] := by
  cases rest with
  | nil => rfl
  | cons c rest => rcases follows c rfl with rfl | rfl | rfl <;> rfl

theorem exponentPart_markText (proper : parts.IsProper) (follows : Follows rest) :
    exponentPart (parts.markText ++ rest) = parts.markText := by
  rw [DecimalParts.markText]
  rcases isExponent : parts.exponent with _ | ⟨negative, digits⟩
  · exact exponentPart_of_follows follows
  · obtain ⟨full, all⟩ := proper.exponent _ _ isExponent
    have taken := Text.takeWhile_append_of_head? all follows.isDigit_eq_false
    cases negative <;> simp [exponentPart, taken, full]

theorem fractionPart_pointText (proper : parts.IsProper) (follows : Follows rest) :
    fractionPart (parts.pointText ++ (parts.markText ++ rest)) = parts.pointText := by
  rw [DecimalParts.pointText]
  split_ifs with noFraction
  · obtain ⟨⟨negative, digits⟩, isExponent⟩ :=
      Option.isSome_iff_exists.mp (proper.broken.resolve_left (not_not_intro noFraction))
    rw [DecimalParts.markText, isExponent]
    rfl
  · have ends := DecimalParts.isDigit_eq_false_of_mark parts _ follows.isDigit_eq_false
    have taken := Text.takeWhile_append_of_head? proper.fraction ends
    simp [fractionPart, taken, noFraction]

/-- A number is taken in front of what follows it, part by part. -/
theorem readNumber_signed (negative : Bool) {whole fraction exponent : Text}
    (digit : ∃ c ∈ whole.head?, c.isDigit = true)
    (isWhole : wholePart (whole ++ (fraction ++ (exponent ++ rest))) = whole)
    (isFraction : fractionPart (fraction ++ (exponent ++ rest)) = fraction)
    (isExponent : exponentPart (exponent ++ rest) = exponent) :
    readNumber (Text.signed negative (whole ++ (fraction ++ (exponent ++ rest)))) =
      if fraction.isEmpty && exponent.isEmpty then
        ((Numeral.readInt (Text.signed negative whole)).map fun value =>
          (.int value, rest)).mapError .number
      else
        ((Numeral.readFloat (Text.signed negative (whole ++ (fraction ++ exponent)))).map
          fun value => (.float value, rest)).mapError .number := by
  obtain ⟨c, head, digit⟩ := digit
  have full : whole.isEmpty = false := by
    cases whole with
    | nil => cases head
    | cons first more => rfl
  have noSign : ¬(whole ++ (fraction ++ (exponent ++ rest))).head? = some '-' := by
    rw [List.head?_append, Option.mem_def.mp head]
    rintro ⟨⟩
    cases digit
  have signed (text : Text) :
      Text.signed negative text = (if negative then ['-'] else []) ++ text := by
    cases negative <;> rfl
  have sign : (if (Text.signed negative (whole ++ (fraction ++ (exponent ++ rest)))).head? =
      some '-' then ['-'] else []) = (if negative then ['-'] else [] : Text) := by
    cases negative with
    | true => rfl
    | false => exact if_neg noSign
  simp only [readNumber]
  rw [sign]
  simp only [signed, List.drop_left, isWhole, isFraction, isExponent, full, Bool.false_eq_true,
    if_false, List.append_assoc]
  split_ifs
  · cases Numeral.readInt _ <;> rfl
  · cases Numeral.readInt _ <;> rfl
  · cases Numeral.readFloat _ <;> rfl
  · cases Numeral.readFloat _ <;> rfl

/-- The digits of an integer are taken whole. -/
theorem readNumber_ofNat (negative : Bool) {n : Nat}
    (short : (Text.ofNat n).length ≤ NumberError.digitLimit) (follows : Follows rest) :
    readNumber (Text.signed negative (Text.ofNat n) ++ rest) =
      .ok (.int (if negative then -(n : Int) else n), rest) := by
  have digits : ∀ c ∈ Text.ofNat n, c.isDigit = true := fun c => Text.isDigit_of_mem_ofNat
  have leading : Text.ofNat n = ['0'] ∨ (Text.ofNat n).head? ≠ some '0' := by
    rcases Nat.eq_zero_or_pos n with rfl | pos
    · exact .inl rfl
    · exact .inr (Text.head?_ofNat_ne_zero pos)
  have whole := wholePart_append digits (Text.ofNat_ne_nil n) leading follows.isDigit_eq_false
  have noFraction : fractionPart rest = [] := by
    cases rest with
    | nil => rfl
    | cons c rest => rcases follows c rfl with rfl | rfl | rfl <;> rfl
  have taken : readNumber (Text.signed negative (Text.ofNat n ++ ([] ++ ([] ++ rest)))) = _ :=
    readNumber_signed negative (Text.exists_mem_head?_ofNat n) whole noFraction
      (exponentPart_of_follows follows)
  rw [Numeral.readInt_signed negative short] at taken
  rw [Text.signed_append]
  exact taken

/-- A decimal is taken whole and read as the number nearest to it. -/
theorem readNumber_decimal (negative : Bool) (proper : parts.IsProper) (follows : Follows rest) :
    readNumber (Text.signed negative parts.text ++ rest) =
      .ok (.float (Binary64.ofDecimal negative parts.digits parts.power), rest) := by
  have ends := DecimalParts.isDigit_eq_false_of_tail parts _ follows.isDigit_eq_false
  have whole := wholePart_append proper.whole proper.full proper.leading ends
  have taken := readNumber_signed negative proper.exists_mem_head?_whole whole
    (fractionPart_pointText proper follows) (exponentPart_markText proper follows)
  have broken : (parts.pointText.isEmpty && parts.markText.isEmpty) = false := by
    rw [Bool.and_eq_false_iff]
    rcases proper.broken with isFraction | isExponent
    · exact .inl (by simp [DecimalParts.pointText, isFraction])
    · obtain ⟨exponent, isExponent⟩ := Option.isSome_iff_exists.mp isExponent
      exact .inr (by simp [DecimalParts.markText, isExponent])
  have text : parts.whole ++ (parts.pointText ++ parts.markText) = parts.text :=
    (List.append_assoc _ _ _).symm
  rw [broken, text, proper.readFloat_signed negative] at taken
  rw [Text.signed_append, ← text, List.append_assoc, List.append_assoc, taken]
  rfl

end Json

end DesignExport
