/-
# Written numbers are read

The text of a number has no blanks, no underscores and no digits of other scripts,
so it is read as it stands: a sign, and the parts of a decimal or the digits of an
integer.
-/

import DesignExport.Proofs.Number.WrittenDecimal
import DesignExport.Proofs.Text

namespace DesignExport

/-- The characters of written numbers. -/
def Numeral.IsPlain (c : Char) : Prop := c.isDigit = true ∨ c = '.' ∨ c = 'e' ∨ c = '+' ∨ c = '-'

namespace Numeral

theorem IsPlain.toNat_lt {c : Char} (plain : IsPlain c) : c.toNat < 128 := by
  rcases plain with digit | rfl | rfl | rfl | rfl
  · have := (Char.isDigit_iff_toNat.mp digit).2
    simp at this
    omega
  all_goals decide

theorem IsPlain.isBlank_eq_false {c : Char} (plain : IsPlain c) : isBlank c = false := by
  rcases plain with digit | rfl | rfl | rfl | rfl
  · have alphanum : c.isAlphanum = true := Text.isAlphanum_iff.mpr (.inr digit)
    rw [isBlank, Text.isBlank_eq_false_of_isAlphanum alphanum, Bool.false_and]
  all_goals decide

theorem IsPlain.ne_underscore {c : Char} (plain : IsPlain c) : c ≠ '_' := by
  rintro rfl
  revert plain
  simp [IsPlain]

variable {text : Text}

/-- A written number is read as it stands. -/
theorem core_eq_self (plain : ∀ c ∈ text, IsPlain c) : core text = text := by
  have kept : Text.stripOf isBlank text = text :=
    Text.stripOf_eq_self isBlank
      (fun c head => (plain c (List.mem_of_mem_head? head)).isBlank_eq_false)
      (fun c last => (plain c (List.mem_of_getLast? last)).isBlank_eq_false)
  rw [core, kept]
  refine (List.map_congr_left fun c within => ?_).trans (List.map_id text)
  rw [asciiDigit, if_pos (plain c within).toNat_lt]
  rfl

theorem dropUnderscores_eq_self (plain : ∀ c ∈ text, IsPlain c) : dropUnderscores text = text :=
  List.filter_eq_self.mpr fun c within => by simpa using (plain c within).ne_underscore

theorem underscoresFit_of_plain (plain : ∀ c ∈ text, IsPlain c) (afterDigit : Bool) :
    underscoresFit afterDigit text = true := by
  induction text generalizing afterDigit with
  | nil => rfl
  | cons c rest ih =>
      obtain ⟨first, plain⟩ := List.forall_mem_cons.mp plain
      rw [underscoresFit]
      · exact ih plain _
      · exact fun next more same => absurd same first.ne_underscore
      · exact fun same => absurd same first.ne_underscore

theorem forall_mem_signed {negative : Bool} (plain : ∀ c ∈ text, IsPlain c) :
    ∀ c ∈ Text.signed negative text, IsPlain c := by
  rw [Text.signed]
  split_ifs
  · exact List.forall_mem_cons.mpr ⟨by simp [IsPlain], plain⟩
  · exact plain

theorem toLower_eq_self_of_isDigit {c : Char} (digit : c.isDigit = true) : c.toLower = c := by
  unfold Char.toLower
  rw [dif_neg]
  intro upper
  have least : 65 ≤ c.val.toNat := by simpa using UInt32.le_iff_toNat_le.mp upper.1
  have most : c.val.toNat ≤ 57 := (Char.isDigit_iff_toNat.mp digit).2
  omega

/-- A sign is cut from a text that begins with a digit. -/
theorem cutSign_signed (negative : Bool) (digit : ∃ c ∈ text.head?, c.isDigit = true) :
    cutSign (Text.signed negative text) = (negative, text) := by
  obtain ⟨c, head, digit⟩ := digit
  obtain ⟨rest, rfl⟩ := List.head?_eq_some_iff.mp head
  cases negative with
  | true => rfl
  | false =>
      rw [Text.signed, if_neg Bool.false_ne_true, cutSign]
      · rintro more ⟨⟩
        cases digit
      · rintro more ⟨⟩
        cases digit

end Numeral

/-! ## Decimals -/

namespace DecimalParts

open Numeral

variable {parts : DecimalParts}

theorem IsProper.plain (proper : parts.IsProper) : ∀ c ∈ parts.text, IsPlain c := by
  have digitsPlain {digits : Text} (all : ∀ c ∈ digits, c.isDigit = true) :
      ∀ c ∈ digits, IsPlain c := fun c within => .inl (all c within)
  refine List.forall_mem_append.mpr ⟨List.forall_mem_append.mpr ⟨digitsPlain proper.whole, ?_⟩, ?_⟩
  · rw [pointText]
    split_ifs
    · simp
    · exact List.forall_mem_cons.mpr ⟨.inr (.inl rfl), digitsPlain proper.fraction⟩
  · rw [markText]
    rcases isExponent : parts.exponent with _ | ⟨negative, digits⟩
    · simp
    · have sign : IsPlain (if negative then '-' else '+') := by cases negative <;> simp [IsPlain]
      exact List.forall_mem_cons.mpr ⟨by simp [IsPlain], List.forall_mem_cons.mpr
        ⟨sign, digitsPlain (proper.exponent _ _ isExponent).2⟩⟩

/-- The whole digits end where they are said to end. -/
theorem isDigit_eq_false_of_tail (parts : DecimalParts) (rest : Text)
    (stops : ∀ c ∈ rest.head?, c.isDigit = false) :
    ∀ c ∈ (parts.pointText ++ (parts.markText ++ rest)).head?, c.isDigit = false := by
  rw [pointText]
  split_ifs
  · rw [markText]
    rcases parts.exponent with _ | ⟨negative, digits⟩
    · exact stops
    · exact fun c head => by obtain rfl := Option.some.inj head; rfl
  · exact fun c head => by obtain rfl := Option.some.inj head; rfl

theorem isDigit_eq_false_of_mark (parts : DecimalParts) (rest : Text)
    (stops : ∀ c ∈ rest.head?, c.isDigit = false) :
    ∀ c ∈ (parts.markText ++ rest).head?, c.isDigit = false := by
  rw [markText]
  rcases parts.exponent with _ | ⟨negative, digits⟩
  · exact stops
  · exact fun c head => by obtain rfl := Option.some.inj head; rfl

theorem IsProper.exists_mem_head?_whole (proper : parts.IsProper) :
    ∃ c ∈ parts.whole.head?, c.isDigit = true := by
  obtain ⟨c, more, isCons⟩ := List.exists_cons_of_ne_nil proper.full
  exact ⟨c, by simp [isCons], proper.whole c (by simp [isCons])⟩

theorem IsProper.exists_mem_head?_text (proper : parts.IsProper) :
    ∃ c ∈ parts.text.head?, c.isDigit = true := by
  obtain ⟨c, head, digit⟩ := proper.exists_mem_head?_whole
  exact ⟨c, by simp [text, Option.mem_def.mp head], digit⟩

/-- An exponent is read with its sign. -/
theorem IsProper.readExponent?_markText (proper : parts.IsProper) :
    readExponent? parts.markText = some (parts.power + parts.fraction.length) := by
  rw [markText, power]
  rcases isExponent : parts.exponent with _ | ⟨negative, digits⟩
  · simp [readExponent?]
  · obtain ⟨full, all⟩ := proper.exponent _ _ isExponent
    have allDigits : digits.all Char.isDigit = true := List.all_eq_true.mpr all
    cases negative <;> simp [readExponent?, cutSign, full, allDigits]

/-- The parts of a decimal are read as they were written. -/
theorem IsProper.readDecimal?_text (proper : parts.IsProper) :
    readDecimal? parts.text = some (parts.digits, parts.power) := by
  have wholeEnds : ∀ c ∈ (parts.pointText ++ parts.markText).head?, c.isDigit = false := by
    simpa using isDigit_eq_false_of_tail parts [] (by simp)
  have fractionEnds : ∀ c ∈ parts.markText.head?, c.isDigit = false := by
    simpa using isDigit_eq_false_of_mark parts [] (by simp)
  have mark := proper.readExponent?_markText
  have full : parts.whole.isEmpty = false := by simpa using proper.full
  rw [text, List.append_assoc, readDecimal?, Text.takeWhile_append_of_head? proper.whole wholeEnds,
    Text.dropWhile_append_of_head? proper.whole wholeEnds]
  by_cases noFraction : parts.fraction = []
  · obtain ⟨⟨negative, exponent⟩, isExponent⟩ :=
      Option.isSome_iff_exists.mp (proper.broken.resolve_left (not_not_intro noFraction))
    have isMark : parts.markText = 'e' :: (if negative then '-' else '+') :: exponent := by
      rw [markText, isExponent]
    rw [isMark] at mark ⊢
    simp [pointText, noFraction, full, mark, digits]
  · have taken := Text.takeWhile_append_of_head? proper.fraction fractionEnds
    have left := Text.dropWhile_append_of_head? proper.fraction fractionEnds
    simp only [pointText, noFraction, if_false, List.cons_append, List.head?_cons, beq_self_eq_true,
      if_true, taken, left, full, Bool.false_and, Bool.false_eq_true, mark, Option.map_some,
      add_sub_cancel_right, digits]

/-- A decimal with a sign is read as the number nearest to it. -/
theorem IsProper.readFloat_signed (proper : parts.IsProper) (negative : Bool) :
    readFloat (Text.signed negative parts.text) =
      .ok (Binary64.ofDecimal negative parts.digits parts.power) := by
  have plain : ∀ c ∈ Text.signed negative parts.text, IsPlain c := forall_mem_signed proper.plain
  obtain ⟨c, head, digit⟩ := proper.exists_mem_head?_text
  have noWord {word : Text} {first : Char} (isWord : word.head? = some first)
      (letter : first.isDigit = false) : (parts.text.map Char.toLower == word) = false := by
    rw [beq_eq_false_iff_ne]
    rintro rfl
    rw [List.head?_map, head, Option.map_some, toLower_eq_self_of_isDigit digit] at isWord
    obtain rfl := Option.some.inj isWord
    rw [digit] at letter
    cases letter
  rw [readFloat]
  simp only [core_eq_self plain, dropUnderscores_eq_self plain, underscoresFit_of_plain plain,
    cutSign_signed negative ⟨c, head, digit⟩, Bool.not_true, Bool.false_eq_true, if_false,
    noWord (show ("inf" : Text).head? = some 'i' from rfl) rfl,
    noWord (show ("infinity" : Text).head? = some 'i' from rfl) rfl,
    noWord (show ("nan" : Text).head? = some 'n' from rfl) rfl, Bool.or_self,
    proper.readDecimal?_text]

end DecimalParts

/-- An integer is read from its digits, of which there are not too many. -/
theorem Numeral.readInt_signed (negative : Bool) {n : Nat}
    (short : (Text.ofNat n).length ≤ NumberError.digitLimit) :
    readInt (Text.signed negative (Text.ofNat n)) = .ok (if negative then -(n : Int) else n) := by
  have digitsPlain : ∀ c ∈ Text.ofNat n, IsPlain c := fun c within =>
    .inl (Text.isDigit_of_mem_ofNat within)
  have plain : ∀ c ∈ Text.signed negative (Text.ofNat n), IsPlain c := forall_mem_signed digitsPlain
  have run : (Text.ofNat n).takeWhile (fun c => c.isDigit || c == '_') = Text.ofNat n :=
    List.takeWhile_eq_self_iff.mpr fun c within => by simp [Text.isDigit_of_mem_ofNat within]
  have full : (Text.ofNat n).isEmpty = false := by simpa using Text.ofNat_ne_nil n
  rw [readInt]
  simp only [core_eq_self plain, cutSign_signed negative (Text.exists_mem_head?_ofNat n), run,
    dropUnderscores_eq_self digitsPlain, underscoresFit_of_plain digitsPlain, full, Bool.not_true,
    Bool.or_self, Bool.false_eq_true, if_false, Nat.not_lt.mpr short, ne_eq, not_true_eq_false,
    Numeral.value_ofNat]

end DesignExport
