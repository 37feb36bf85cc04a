/-
# Texts inside a written value

A written text is made of escaped codes, each in one of four forms. The reader takes
a form back as its code. Only two halves that stand next to each other in the wrong
way are taken together: the halves of one character. A text whose halves stand alone
is therefore read as it is.
-/

import DesignExport.Json.Printer
import DesignExport.Json.Reader
import DesignExport.Proofs.Encoding
import Mathlib.Data.List.Chain
import Mathlib.Tactic.IntervalCases

namespace DesignExport

/-! ## Units in hexadecimal digits -/

namespace Text

theorem hexValue?_digitChar {digit : Nat} (small : digit < 16) :
    hexValue? (Nat.digitChar digit) = some digit := by
  interval_cases digit <;> rfl

theorem hex_one {n : Nat} (small : n < 16) : hex 1 n = [Nat.digitChar n] := by
  simp [hex, Nat.toDigits_of_lt_base small]

theorem hex_succ {width n : Nat} (pos : 0 < width) :
    hex (width + 1) n = hex width (n / 16) ++ [Nat.digitChar (n % 16)] := by
  rcases Nat.lt_or_ge n 16 with small | large
  · obtain ⟨more, rfl⟩ := Nat.exists_eq_succ_of_ne_zero pos.ne'
    simp [hex, Nat.toDigits_of_lt_base small, Nat.div_eq_of_lt small, Nat.mod_eq_of_lt small,
      List.replicate_succ']
  · simp [hex, Nat.toDigits_of_base_le (by decide) large]

theorem hex_four {unit : Nat} (basic : unit < 0x10000) :
    hex 4 unit = [Nat.digitChar (unit / 16 / 16 / 16), Nat.digitChar (unit / 16 / 16 % 16),
      Nat.digitChar (unit / 16 % 16), Nat.digitChar (unit % 16)] := by
  rw [hex_succ (by decide), hex_succ (by decide), hex_succ (by decide), hex_one (by omega)]
  rfl

theorem length_hex_four {unit : Nat} (basic : unit < 0x10000) : (hex 4 unit).length = 4 := by
  rw [hex_four basic]
  rfl

end Text

namespace Json

open Text

theorem hexCode?_hex {unit : Nat} (basic : unit < 0x10000) (rest : Text) :
    hexCode? (hex 4 unit ++ rest) = some unit := by
  have value : ((unit / 16 / 16 / 16 * 16 + unit / 16 / 16 % 16) * 16 + unit / 16 % 16) * 16 +
      unit % 16 = unit := by omega
  rw [hex_four basic]
  simp [hexCode?, hexValue?_digitChar (show unit / 16 / 16 / 16 < 16 by omega),
    hexValue?_digitChar (Nat.mod_lt _ (show 0 < 16 by decide)), value]

/-! ## Halves of characters -/

/-- The first half of a character. -/
def IsHigh (code : Nat) : Prop := 0xD800 ≤ code ∧ code ≤ 0xDBFF

/-- The second half of a character. -/
def IsLow (code : Nat) : Prop := 0xDC00 ≤ code ∧ code ≤ 0xDFFF

/-- The codes of a text in which halves stand alone. -/
structure IsApart (codes : List Nat) : Prop where
  valid : ∀ code ∈ codes, code < 0x110000
  apart : codes.IsChain fun first second => ¬(IsHigh first ∧ IsLow second)

theorem not_isHigh_toNat (c : Char) : ¬IsHigh c.toNat := by
  have whole := isHalf_toNat c
  simp only [isHalf, Bool.and_eq_false_iff, decide_eq_false_iff_not] at whole
  unfold IsHigh
  omega

theorem not_isLow_toNat (c : Char) : ¬IsLow c.toNat := by
  have whole := isHalf_toNat c
  simp only [isHalf, Bool.and_eq_false_iff, decide_eq_false_iff_not] at whole
  unfold IsLow
  omega

/-- There are no halves among the codes of characters. -/
theorem isApart_codes (text : Text) : IsApart text.codes where
  valid := by
    intro code within
    obtain ⟨c, -, rfl⟩ := List.mem_map.mp within
    exact toNat_lt c
  apart := by
    refine (List.pairwise_of_forall_mem_list ?_).isChain
    rintro first within second - ⟨high, -⟩
    obtain ⟨c, -, rfl⟩ := List.mem_map.mp within
    exact not_isHigh_toNat c high

/-! ## The forms of an escaped code -/

/-- A code in its written form. -/
def escape (code : Nat) : Text :=
  if isHalf code then escapeCode code else escapeChar (Char.ofNat code)

theorem writeCodes_eq (codes : List Nat) :
    writeCodes codes = '"' :: (codes.flatMap escape ++ ['"']) := rfl

theorem writeText_eq (text : Text) : writeText text = writeCodes text.codes := by
  have escapes (c : Char) : escape c.toNat = escapeChar c := by simp [escape, isHalf_toNat]
  rw [writeText, writeCodes_eq, codes, List.flatMap_map]
  simp only [escapes, List.cons_append]

/-- The forms of an escaped code: a character as it is, a short escape, one unit, and
the two halves of a character. -/
inductive EscapeForm : Nat → Text → Prop
  | plain {c : Char} (above : 32 ≤ c.toNat) (noQuote : c ≠ '"') (noMark : c ≠ '\\') :
      EscapeForm c.toNat [c]
  | short {mark c : Char} (noUnit : mark ≠ 'u') (isShort : shortEscape? mark = some c) :
      EscapeForm c.toNat ['\\', mark]
  | unit {code : Nat} (basic : code < 0x10000) :
      EscapeForm code ('\\' :: 'u' :: hex 4 code)
  | pair {rest : Nat} (beyond : rest < 0x100000) :
      EscapeForm (0x10000 + rest) ('\\' :: 'u' :: (hex 4 (0xD800 + rest / 0x400) ++
        '\\' :: 'u' :: hex 4 (0xDC00 + rest % 0x400)))

theorem escapeForm_escapeCode {code : Nat} (valid : code < 0x110000) :
    EscapeForm code (escapeCode code) := by
  rw [escapeCode]
  split_ifs with basic
  · exact .unit basic
  · obtain ⟨rest, rfl⟩ := Nat.exists_eq_add_of_le (Nat.not_lt.mp basic)
    have form := EscapeForm.pair (show rest < 0x100000 by omega)
    simpa using form

theorem escapeForm_escapeChar (c : Char) : EscapeForm c.toNat (escapeChar c) := by
  rw [escapeChar]
  split_ifs with quote mark line return' tab back feed printable
  · subst quote
    exact .short (by decide) rfl
  · subst mark
    exact .short (by decide) rfl
  · subst line
    exact .short (by decide) rfl
  · subst return'
    exact .short (by decide) rfl
  · subst tab
    exact .short (by decide) rfl
  · subst back
    exact .short (by decide) rfl
  · subst feed
    exact .short (by decide) rfl
  · rw [Bool.and_eq_true, decide_eq_true_iff] at printable
    exact .plain printable.1 quote mark
  · exact escapeForm_escapeCode (toNat_lt c)

theorem escapeForm_escape {code : Nat} (valid : code < 0x110000) :
    EscapeForm code (escape code) := by
  rw [escape]
  split_ifs with half
  · exact escapeForm_escapeCode valid
  · have form := escapeForm_escapeChar (Char.ofNat code)
    rwa [toNat_ofNat valid (by simpa using half)] at form

/-! ## Reading the forms back -/

variable {rest : Text} {code : Nat} {form : Text}

/-- A text that does not begin with the second half of a character. -/
def StartsApart (text : Text) : Prop :=
  ∀ more, text = '\\' :: 'u' :: more → ∃ unit, hexCode? more = some unit ∧ ¬IsLow unit

theorem EscapeForm.startsApart (isForm : EscapeForm code form) (notLow : ¬IsLow code) :
    StartsApart (form ++ rest) := by
  intro more isUnit
  cases isForm with
  | plain above noQuote noMark => exact absurd (List.cons.inj isUnit).1 noMark
  | short noUnit isShort => exact absurd (List.cons.inj (List.cons.inj isUnit).2).1 noUnit
  | unit basic =>
      obtain rfl := (List.cons.inj (List.cons.inj isUnit).2).2
      exact ⟨_, hexCode?_hex basic rest, notLow⟩
  | pair beyond =>
      obtain rfl := (List.cons.inj (List.cons.inj isUnit).2).2
      refine ⟨_, (congrArg hexCode? (List.append_assoc _ _ _)).trans
        (hexCode?_hex (by omega) _), ?_⟩
      unfold IsLow
      omega

/-- A unit is taken alone unless it is the first half of a character and the second
one follows. -/
theorem codeEscape_unit (basic : code < 0x10000) (full : rest ≠ [])
    (apart : IsHigh code → StartsApart rest) :
    codeEscape ('u' :: hex 4 code ++ rest) = .ok (code, 5) := by
  have behind : (hex 4 code ++ rest).drop 4 = rest := List.drop_left' (length_hex_four basic)
  have isFull : rest.isEmpty = false := by simpa using full
  rw [codeEscape]
  simp only [List.cons_append, List.drop_succ_cons, List.drop_zero, behind, isFull,
    Bool.false_eq_true, if_false, hexCode?_hex basic]
  split_ifs with high
  · rw [Bool.and_eq_true, decide_eq_true_iff, decide_eq_true_iff] at high
    split
    · next more =>
        obtain ⟨unit, isUnit, notLow⟩ := apart high more rfl
        have notLow : (decide (0xDC00 ≤ unit) && decide (unit ≤ 0xDFFF)) = false := by
          simpa [IsLow] using notLow
        simp only [isUnit, notLow, Bool.false_eq_true, if_false, ite_self]
    · rfl
  · rfl

/-- Two halves are taken as one character. -/
theorem codeEscape_pair {low high : Nat} (isHigh : IsHigh high) (isLow : IsLow low)
    (full : rest ≠ []) :
    codeEscape ('u' :: hex 4 high ++ '\\' :: 'u' :: (hex 4 low ++ rest)) =
      .ok (0x10000 + (high - 0xD800) * 0x400 + (low - 0xDC00), 11) := by
  have basicHigh : high < 0x10000 := by unfold IsHigh at isHigh; omega
  have basicLow : low < 0x10000 := by unfold IsLow at isLow; omega
  have behindHigh (more : Text) : (hex 4 high ++ more).drop 4 = more :=
    List.drop_left' (length_hex_four basicHigh)
  have behindLow : (hex 4 low ++ rest).drop 4 = rest := List.drop_left' (length_hex_four basicLow)
  have isFull : rest.isEmpty = false := by simpa using full
  have highRange : (decide (0xD800 ≤ high) && decide (high ≤ 0xDBFF)) = true := by
    simpa [IsHigh] using isHigh
  have lowRange : (decide (0xDC00 ≤ low) && decide (low ≤ 0xDFFF)) = true := by
    simpa [IsLow] using isLow
  rw [codeEscape]
  simp only [List.cons_append, List.drop_succ_cons, List.drop_zero, behindHigh, List.isEmpty_cons,
    Bool.false_eq_true, if_false, hexCode?_hex basicHigh, highRange, if_true, behindLow, isFull,
    hexCode?_hex basicLow, lowRange]

variable {opening : Text} {done : List Nat}

/-- Characters that belong to an escape are passed over. -/
theorem readText_skip (skipped : Text) :
    readText opening skipped.length done (skipped ++ rest) = readText opening 0 done rest := by
  induction skipped with
  | nil => rfl
  | cons c skipped ih =>
      rw [List.length_cons, List.cons_append, readText]
      exact ih

/-- A code escape is passed over when its code is taken. -/
theorem readText_codeEscape {escaped : Text}
    (taken : codeEscape ('u' :: (escaped ++ rest)) = .ok (code, escaped.length + 1)) :
    readText opening 0 done ('\\' :: 'u' :: (escaped ++ rest)) =
      readText opening 0 (code :: done) rest := by
  rw [readText, if_neg (by decide), if_pos rfl, if_pos rfl, taken]
  exact readText_skip ('u' :: escaped)

/-- An escaped code is taken back. -/
theorem EscapeForm.readText_append (isForm : EscapeForm code form) (full : rest ≠ [])
    (apart : IsHigh code → StartsApart rest) :
    readText opening 0 done (form ++ rest) = readText opening 0 (code :: done) rest := by
  cases isForm with
  | plain above noQuote noMark =>
      obtain ⟨next, more, rfl⟩ := List.exists_cons_of_ne_nil full
      rw [List.singleton_append, readText, if_neg noQuote, if_neg noMark,
        if_neg (Nat.not_lt.mpr above)]
  | short noUnit isShort =>
      rw [List.cons_append, List.singleton_append, readText, if_neg (by decide), if_pos rfl,
        if_neg noUnit, isShort]
      exact readText_skip [_]
  | unit basic =>
      refine readText_codeEscape ?_
      rw [length_hex_four basic]
      exact codeEscape_unit basic full apart
  | @pair beyond isBeyond =>
      have high : IsHigh (0xD800 + beyond / 0x400) := by unfold IsHigh; omega
      have low : IsLow (0xDC00 + beyond % 0x400) := by unfold IsLow; omega
      have basicHigh : 0xD800 + beyond / 0x400 < 0x10000 := by omega
      have basicLow : 0xDC00 + beyond % 0x400 < 0x10000 := by omega
      have value : 0x10000 + (0xD800 + beyond / 0x400 - 0xD800) * 0x400 +
          (0xDC00 + beyond % 0x400 - 0xDC00) = 0x10000 + beyond := by omega
      refine readText_codeEscape ?_
      rw [List.length_append, List.length_cons, List.length_cons, length_hex_four basicHigh,
        length_hex_four basicLow, List.append_assoc, ← value]
      exact codeEscape_pair high low full

/-- Behind escaped codes of which the first is not a second half, nothing joins a first
half in front. -/
theorem startsApart_flatMap {codes : List Nat} (valid : ∀ code ∈ codes, code < 0x110000)
    (notLow : ∀ code ∈ codes.head?, ¬IsLow code) :
    StartsApart (codes.flatMap escape ++ '"' :: rest) := by
  cases codes with
  | nil =>
      intro more isUnit
      cases isUnit
  | cons code codes =>
      rw [List.flatMap_cons, List.append_assoc]
      exact (escapeForm_escape (valid code List.mem_cons_self)).startsApart (notLow code rfl)

/-- Codes whose halves stand alone are read up to the closing quote. -/
theorem readText_flatMap {codes : List Nat} (apart : IsApart codes) :
    readText opening 0 done (codes.flatMap escape ++ '"' :: rest) =
      .ok (done.reverse ++ codes, rest) := by
  obtain ⟨valid, apart⟩ := apart
  induction codes generalizing done with
  | nil =>
      rw [List.append_nil]
      cases rest <;> rfl
  | cons code codes ih =>
      obtain ⟨validCode, valid⟩ := List.forall_mem_cons.mp valid
      obtain ⟨next, apart⟩ := List.isChain_cons.mp apart
      have starts (high : IsHigh code) : StartsApart (codes.flatMap escape ++ '"' :: rest) :=
        startsApart_flatMap valid fun low isNext isLow => next low isNext ⟨high, isLow⟩
      rw [List.flatMap_cons, List.append_assoc,
        (escapeForm_escape validCode).readText_append (by simp) starts, ih valid apart]
      simp

/-! ## Texts -/

theorem ofCodes_codes (text : Text) : ofCodes text.codes = .text text := by
  have whole : text.codes.any isHalf = false :=
    List.any_eq_false.mpr fun code within => by simp [isUnbroken_codes text code within]
  rw [ofCodes, whole, map_ofNat_codes]
  rfl

/-- A text whose halves stand alone is read as it was written. -/
theorem readAtom_writeCodes {codes : List Nat} (apart : IsApart codes) :
    readAtom (writeCodes codes ++ rest) = .ok (ofCodes codes, rest) := by
  rw [writeCodes_eq, List.cons_append, List.append_assoc, List.singleton_append, readAtom,
    readText_flatMap apart]
  rfl

end Json

end DesignExport
