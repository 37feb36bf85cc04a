/-
# Decimals as they are written

A finite number is written as whole digits, digits behind a point and an exponent,
of which the last two may be missing, but not both. Whatever the layout, the parts
show the value of the shortest decimal, so they are read as the number.
-/

import DesignExport.Proofs.Number.Shortest

namespace DesignExport

open Binary64

/-! ## The parts of a decimal -/

/-- A decimal without a sign: whole digits, digits behind a point, and an exponent with
whether it is negative. -/
structure DecimalParts where
  whole : Text
  fraction : Text
  exponent : Option (Bool × Text)

namespace DecimalParts

/-- The point with the digits behind it, if there are any. -/
def pointText (parts : DecimalParts) : Text :=
  if parts.fraction = [] then [] else '.' :: parts.fraction

/-- The exponent with its mark, if there is one. -/
def markText (parts : DecimalParts) : Text :=
  match parts.exponent with
  | some (negative, digits) => 'e' :: (if negative then '-' else '+') :: digits
  | none => []

/-- The written form. -/
def text (parts : DecimalParts) : Text := parts.whole ++ parts.pointText ++ parts.markText

/-- The integer that the digits show without the point. -/
def digits (parts : DecimalParts) : Nat := Numeral.value (parts.whole ++ parts.fraction)

/-- The power of ten of the last digit. -/
def power (parts : DecimalParts) : Int :=
  (match parts.exponent with
    | some (negative, digits) =>
      if negative then -(Numeral.value digits : Int) else Numeral.value digits
    | none => 0) - parts.fraction.length

/-- Parts that are read: digits with no needless zero in front, and a point or an exponent. -/
structure IsProper (parts : DecimalParts) : Prop where
  whole : ∀ c ∈ parts.whole, c.isDigit = true
  fraction : ∀ c ∈ parts.fraction, c.isDigit = true
  exponent : ∀ sign digits, parts.exponent = some (sign, digits) →
    digits ≠ [] ∧ ∀ c ∈ digits, c.isDigit = true
  full : parts.whole ≠ []
  leading : parts.whole = ['0'] ∨ parts.whole.head? ≠ some '0'
  broken : parts.fraction ≠ [] ∨ parts.exponent.isSome = true

/-- Proper parts that show a value. -/
structure Shows (parts : DecimalParts) (value : ℚ) : Prop extends parts.IsProper where
  value : (parts.digits : ℚ) * 10 ^ parts.power = value

end DecimalParts

/-! ## The parts of a shortest decimal -/

namespace ShortestDecimal

/-- Digits that show a value, the first one at the power of ten that is told. -/
structure Shows (decimal : ShortestDecimal) (value : ℚ) : Prop where
  digits : ∀ c ∈ decimal.digits, c.isDigit = true
  full : decimal.digits ≠ []
  leading : decimal.digits.head? ≠ some '0'
  value : (Numeral.value decimal.digits : ℚ) *
    10 ^ (decimal.power + 1 - decimal.digits.length) = value

/-- The digits of a grid point are the digits of the shortest decimal and zeros. -/
theorem exists_ofNat_eq_append (point : Nat) (power : Int) :
    ∃ zeros, Text.ofNat point = (ofGrid point power).digits ++ List.replicate zeros '0' := by
  have split := List.takeWhile_append_dropWhile (p := (· == '0')) (l := (Text.ofNat point).reverse)
  have zeros : (Text.ofNat point).reverse.takeWhile (· == '0') =
      List.replicate ((Text.ofNat point).reverse.takeWhile (· == '0')).length '0' :=
    List.eq_replicate_of_mem fun c within => by
      simpa using List.all_eq_true.mp List.all_takeWhile c within
  rw [zeros, ← List.reverse_inj, List.reverse_reverse, List.reverse_append,
    List.reverse_replicate] at split
  exact ⟨_, split.symm⟩

/-- Without the zeros at its end a grid point is shown by fewer digits. -/
theorem shows_ofGrid {point : Nat} (pos : 0 < point) (power : Int) :
    (ofGrid point power).Shows (point * 10 ^ power) := by
  obtain ⟨zeros, isZeros⟩ := exists_ofNat_eq_append point power
  have isPower : (ofGrid point power).power = power + (Text.ofNat point).length - 1 := rfl
  generalize ofGrid point power = decimal at isZeros isPower
  have value : point = Numeral.value decimal.digits * 10 ^ zeros := by
    have shown := Numeral.value_ofNat point
    rwa [isZeros, Numeral.value_append, Numeral.value_replicate_zero, List.length_replicate,
      Nat.add_zero, eq_comm] at shown
  have full : decimal.digits ≠ [] := by
    intro isNil
    rw [isNil] at value
    simp [Numeral.value] at value
    omega
  constructor
  · intro c within
    exact Text.isDigit_of_mem_ofNat (by rw [isZeros]; exact List.mem_append_left _ within)
  · exact full
  · have leading := Text.head?_ofNat_ne_zero pos
    obtain ⟨first, more, isCons⟩ := List.exists_cons_of_ne_nil full
    rw [isZeros, isCons] at leading
    rw [isCons]
    exact leading
  · have shift : decimal.power + 1 - decimal.digits.length = (zeros : Int) + power := by
      rw [isPower, isZeros, List.length_append, List.length_replicate]
      push_cast
      ring
    rw [shift, zpow_add₀ (by norm_num : (10 : ℚ) ≠ 0), zpow_natCast, ← mul_assoc]
    conv_rhs => rw [value]
    push_cast
    ring

/-! ## Layouts -/

variable {decimal : ShortestDecimal} {value : ℚ}

/-- The parts of digits that are written out. -/
def positionalParts (decimal : ShortestDecimal) : DecimalParts :=
  if decimal.power < 0 then
    ⟨['0'], List.replicate (-decimal.power - 1).toNat '0' ++ decimal.digits, none⟩
  else
    let whole := decimal.power.toNat + 1
    let back := decimal.digits.drop whole
    ⟨decimal.digits.take whole ++ List.replicate (whole - decimal.digits.length) '0',
      if back.isEmpty then ['0'] else back, none⟩

/-- The parts of one digit in front of the point and an exponent. -/
def scientificParts (style : FloatStyle) (decimal : ShortestDecimal) : DecimalParts :=
  let size := Text.ofNat decimal.power.natAbs
  ⟨decimal.digits.take 1, decimal.digits.drop 1,
    some (decide (decimal.power < 0),
      List.replicate (style.exponentWidth - size.length) '0' ++ size)⟩

theorem positional_eq (shows : decimal.Shows value) :
    FloatStyle.positional decimal = decimal.positionalParts.text := by
  by_cases small : decimal.power < 0
  · simp [FloatStyle.positional, positionalParts, DecimalParts.text, DecimalParts.pointText,
      DecimalParts.markText, small, shows.full]
  · have back : (if (decimal.digits.drop (decimal.power.toNat + 1)).isEmpty then ['0']
        else decimal.digits.drop (decimal.power.toNat + 1)) ≠ [] := by
      split_ifs with noBack
      · exact List.cons_ne_nil _ _
      · simpa using noBack
    simp only [FloatStyle.positional, positionalParts, small, if_false, DecimalParts.text,
      DecimalParts.pointText, DecimalParts.markText, back, List.append_nil]

theorem scientific_eq (style : FloatStyle) (shows : decimal.Shows value) :
    style.scientific decimal = (decimal.scientificParts style).text := by
  obtain ⟨digits, power⟩ := decimal
  match digits, shows.full with
  | [first], _ =>
      simp [FloatStyle.scientific, scientificParts, DecimalParts.text, DecimalParts.pointText,
        DecimalParts.markText]
  | first :: second :: more, _ =>
      simp [FloatStyle.scientific, scientificParts, DecimalParts.text, DecimalParts.pointText,
        DecimalParts.markText]

theorem isDigit_of_mem_replicate_zero {count : Nat} {c : Char}
    (within : c ∈ List.replicate count '0') : c.isDigit = true := by
  rw [List.eq_of_mem_replicate within]
  rfl

/-- Written out below one, the digits stand behind zeros. -/
theorem shows_positionalParts_of_neg (shows : decimal.Shows value) (small : decimal.power < 0) :
    decimal.positionalParts.Shows value := by
  rw [positionalParts, if_pos small]
  refine ⟨⟨by simp, ?_, by simp, by simp, .inl rfl, .inl ?_⟩, ?_⟩
  · exact fun c within => (List.mem_append.mp within).elim isDigit_of_mem_replicate_zero
      (shows.digits c)
  · simp [shows.full]
  · have digits : Numeral.value ('0' :: (List.replicate (-decimal.power - 1).toNat '0' ++
        decimal.digits)) = Numeral.value decimal.digits := by
      rw [Numeral.value_zero_cons, Numeral.value_append, Numeral.value_replicate_zero,
        Nat.zero_mul, Nat.zero_add]
    rw [← shows.value]
    simp only [DecimalParts.digits, DecimalParts.power, List.singleton_append, digits,
      List.length_append, List.length_replicate]
    congr 2
    omega

/-- Written out from one up, the digits stand around the point. -/
theorem shows_positionalParts_of_nonneg (shows : decimal.Shows value) (large : ¬decimal.power < 0) :
    decimal.positionalParts.Shows value := by
  rw [positionalParts, if_neg large]
  have leading (zeros : Text) :
      (decimal.digits.take (decimal.power.toNat + 1) ++ zeros).head? ≠ some '0' := by
    have first := shows.leading
    obtain ⟨c, more, isCons⟩ := List.exists_cons_of_ne_nil shows.full
    rw [isCons] at first ⊢
    exact first
  have full (zeros : Text) : decimal.digits.take (decimal.power.toNat + 1) ++ zeros ≠ [] := by
    simp [shows.full]
  have whole (c : Char) (within : c ∈ decimal.digits.take (decimal.power.toNat + 1) ++
      List.replicate (decimal.power.toNat + 1 - decimal.digits.length) '0') : c.isDigit = true :=
    (List.mem_append.mp within).elim (fun within => shows.digits c (List.mem_of_mem_take within))
      isDigit_of_mem_replicate_zero
  by_cases short : decimal.digits.length ≤ decimal.power.toNat + 1
  · have noBack : decimal.digits.drop (decimal.power.toNat + 1) = [] := List.drop_of_length_le short
    simp only [noBack, List.isEmpty_nil, if_true]
    refine ⟨⟨whole, by simp, by simp, full _, .inr (leading _), by simp⟩, ?_⟩
    have shift : decimal.power + 1 - decimal.digits.length =
        ((decimal.power.toNat + 1 - decimal.digits.length + 1 : Nat) : Int) + -1 := by omega
    have zero : Numeral.value ['0'] = 0 := rfl
    rw [← shows.value, shift, zpow_add₀ (by norm_num : (10 : ℚ) ≠ 0), zpow_natCast, ← mul_assoc]
    simp only [DecimalParts.digits, DecimalParts.power, List.take_of_length_le short,
      Numeral.value_append, Numeral.value_replicate_zero, List.length_replicate,
      List.length_singleton, zero, Nat.add_zero, Nat.cast_mul, Nat.cast_pow, Nat.cast_ofNat,
      Nat.cast_one, zero_sub, pow_succ, pow_zero, one_mul, mul_assoc]
  · have back : decimal.digits.drop (decimal.power.toNat + 1) ≠ [] := by simpa using short
    have noZeros : decimal.power.toNat + 1 - decimal.digits.length = 0 := by omega
    simp only [List.isEmpty_iff, back, if_false, noZeros, List.replicate_zero]
    refine ⟨⟨fun c within => shows.digits c (List.mem_of_mem_take (by simpa using within)),
      fun c within => shows.digits c (List.mem_of_mem_drop within), by simp, full _,
      .inr (leading _), .inl back⟩, ?_⟩
    rw [← shows.value]
    simp only [DecimalParts.digits, DecimalParts.power, List.append_nil, List.take_append_drop,
      List.length_drop]
    congr 2
    omega

theorem shows_positionalParts (shows : decimal.Shows value) :
    decimal.positionalParts.Shows value := by
  by_cases small : decimal.power < 0
  · exact shows_positionalParts_of_neg shows small
  · exact shows_positionalParts_of_nonneg shows small

/-- With an exponent, the first digit stands in front of the point. -/
theorem shows_scientificParts (style : FloatStyle) (shows : decimal.Shows value) :
    (decimal.scientificParts style).Shows value := by
  have size : Numeral.value (List.replicate
      (style.exponentWidth - (Text.ofNat decimal.power.natAbs).length) '0' ++
        Text.ofNat decimal.power.natAbs) = decimal.power.natAbs := by
    rw [Numeral.value_append, Numeral.value_replicate_zero, Numeral.value_ofNat, Nat.zero_mul,
      Nat.zero_add]
  obtain ⟨digits, power⟩ := decimal
  obtain ⟨first, more, rfl⟩ := List.exists_cons_of_ne_nil shows.full
  refine ⟨⟨?_, ?_, ?_, by simp [scientificParts], ?_, .inr rfl⟩, ?_⟩
  · simpa [scientificParts] using shows.digits first List.mem_cons_self
  · exact fun c within => shows.digits c (List.mem_cons_of_mem _ within)
  · rintro sign exponent ⟨⟩
    refine ⟨by simp [Text.ofNat_ne_nil], fun c within => ?_⟩
    exact (List.mem_append.mp within).elim isDigit_of_mem_replicate_zero Text.isDigit_of_mem_ofNat
  · exact .inr shows.leading
  · rw [← shows.value]
    have isPower : (scientificParts style ⟨first :: more, power⟩).power = power - more.length := by
      simp only [scientificParts, DecimalParts.power, size, List.drop_one, List.tail_cons]
      by_cases small : power < 0
      · simp only [small, decide_true, if_true]
        omega
      · simp only [small, decide_false, Bool.false_eq_true, if_false]
        omega
    rw [isPower]
    simp only [DecimalParts.digits, scientificParts, List.take_append_drop, List.length_cons]
    congr 2
    push_cast
    ring

end ShortestDecimal

/-! ## Numbers as they are written -/

/-- A sign in front of a text. -/
def Text.signed (negative : Bool) (unsigned : Text) : Text :=
  if negative then '-' :: unsigned else unsigned

theorem Text.signed_append (negative : Bool) (unsigned rest : Text) :
    signed negative unsigned ++ rest = signed negative (unsigned ++ rest) := by
  cases negative <;> rfl

/-- A finite number is written by parts that are read as the number. -/
theorem FloatStyle.exists_parts (style : FloatStyle) (negative : Bool) {significand : Nat}
    {exponent : Int} (finite : IsFinite significand exponent) :
    ∃ parts : DecimalParts, parts.IsProper ∧
      style.text (.finite negative significand exponent) = Text.signed negative parts.text ∧
      ofDecimal negative parts.digits parts.power = .finite negative significand exponent := by
  rcases Nat.eq_zero_or_pos significand with rfl | pos
  · have least : exponent = leastExponent := finite.full.resolve_right (by decide)
    subst least
    exact ⟨⟨['0'], ['0'], none⟩, ⟨by simp, by simp, by simp, by simp, .inl rfl, by simp⟩, rfl, rfl⟩
  · obtain ⟨point, power, isGrid, rounds⟩ := ShortestDecimal.exists_ofFinite finite pos
    have posPoint : 0 < point := by
      have := rounds.pos pos
      rcases Nat.eq_zero_or_pos point with rfl | pos
      · simp at this
      · exact pos
    have shows := ShortestDecimal.shows_ofGrid posPoint power
    rw [← isGrid] at shows
    have written : ∃ parts : DecimalParts, parts.Shows (point * 10 ^ power) ∧
        (if style.positionalFrom ≤ (ShortestDecimal.ofFinite significand exponent).power &&
            (ShortestDecimal.ofFinite significand exponent).power < style.positionalBelow
          then positional (ShortestDecimal.ofFinite significand exponent)
          else style.scientific (ShortestDecimal.ofFinite significand exponent)) = parts.text := by
      split_ifs
      · exact ⟨_, ShortestDecimal.shows_positionalParts shows, ShortestDecimal.positional_eq shows⟩
      · exact ⟨_, ShortestDecimal.shows_scientificParts style shows,
          ShortestDecimal.scientific_eq style shows⟩
    obtain ⟨parts, shown, isText⟩ := written
    refine ⟨parts, shown.toIsProper, ?_,
      ofDecimal_eq negative finite pos (shown.value.symm ▸ rounds)⟩
    rw [FloatStyle.text, if_neg pos.ne', isText]
    rfl

end DesignExport
