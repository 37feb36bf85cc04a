/-
# What sanitizing leaves

Each of the five patterns is erased once, and nothing looks at the result again.
A match that stands in one piece in the text never survives. But what stands on
the two sides of a match is joined, and the joined text may match: the result is
clean exactly when no such match arises, which is also when sanitizing a second
time changes nothing.

All of this rests on one property of the patterns: whether they match depends
on nothing behind the characters that they cover.
-/

import DesignExport.Input.Sanitizer
import DesignExport.Proofs.Erasure
import DesignExport.Proofs.Text

open scoped List

namespace DesignExport

namespace Sanitizer

/-! ## The patterns are local -/

theorem length_le_of_beginsWith {letters text : Text} (begins : beginsWith letters text = true) :
    letters.length ≤ text.length := by
  induction letters generalizing text with
  | nil => exact Nat.zero_le _
  | cons letter more ih =>
      cases text with
      | nil => simp [beginsWith] at begins
      | cons c rest =>
          simp only [beginsWith, Bool.and_eq_true] at begins
          exact Nat.succ_le_succ (ih begins.2)

/-- Whether a text begins with a word is known from as many characters. -/
theorem beginsWith_append {letters front : Text} (enough : letters.length ≤ front.length)
    (rest : Text) : beginsWith letters (front ++ rest) = beginsWith letters front := by
  induction letters generalizing front with
  | nil => simp [beginsWith]
  | cons letter more ih =>
      cases front with
      | nil => simp at enough
      | cons c front =>
          have known := ih (Nat.le_of_succ_le_succ enough)
          simp only [List.cons_append, beginsWith, known]

theorem word_eq_some_iff {letters text : Text} {covered : Nat} :
    word letters text = some ((), covered) ↔
      beginsWith letters text = true ∧ covered = letters.length := by
  simp only [word, Option.ite_none_right_eq_some, Option.some.injEq, Prod.mk.injEq, true_and]
  exact and_congr_right fun _ => eq_comm

theorem word_isLocal {letters : Text} (full : letters ≠ []) : (word letters).IsLocal := by
  constructor
  · intro text value covered hit
    obtain ⟨-, rfl⟩ := word_eq_some_iff.mp hit
    exact List.length_pos_iff.mpr full
  · intro text value covered hit
    obtain ⟨begins, rfl⟩ := word_eq_some_iff.mp hit
    exact length_le_of_beginsWith begins
  · intro part rest value other hit
    obtain ⟨begins, size⟩ := word_eq_some_iff.mp hit
    have enough : letters.length ≤ part.length := Nat.le_of_eq size.symm
    rw [beginsWith_append enough] at begins
    exact word_eq_some_iff.mpr ⟨by rw [beginsWith_append enough, begins], size⟩

/-- A word and a mark match where nothing but blanks stands between them. -/
theorem wordThen_eq_some_iff {letters text : Text} {mark : Char} {covered : Nat}
    (solid : Text.isBlank mark = false) :
    wordThen letters mark text = some ((), covered) ↔
      beginsWith letters text = true ∧
        ∃ blanks behind, (∀ c ∈ blanks, Text.isBlank c = true) ∧
          text.drop letters.length = blanks ++ mark :: behind ∧
          covered = letters.length + blanks.length + 1 := by
  constructor
  · intro hit
    simp only [wordThen, Option.ite_none_right_eq_some, Option.some.injEq, Prod.mk.injEq,
      true_and] at hit
    obtain ⟨begins, stands, rfl⟩ := hit
    refine ⟨begins, (text.drop letters.length).takeWhile Text.isBlank, ?_⟩
    obtain ⟨behind, isBehind⟩ := List.head?_eq_some_iff.mp stands
    refine ⟨behind, fun c within => List.mem_takeWhile_imp within, ?_, rfl⟩
    rw [← isBehind]
    exact (List.prefix_iff_eq_append.mp (List.takeWhile_prefix Text.isBlank)).symm
  · rintro ⟨begins, blanks, behind, blank, split, rfl⟩
    have taken : (blanks ++ mark :: behind).takeWhile Text.isBlank = blanks := by
      rw [List.takeWhile_append_of_pos blank, List.takeWhile_cons_of_neg (by simp [solid]),
        List.append_nil]
    simp [wordThen, begins, split, taken]

theorem wordThen_isLocal (letters : Text) {mark : Char} (solid : Text.isBlank mark = false) :
    (wordThen letters mark).IsLocal := by
  constructor
  · intro text value covered hit
    obtain ⟨-, blanks, behind, -, -, rfl⟩ := (wordThen_eq_some_iff solid).mp hit
    exact Nat.succ_pos _
  · intro text value covered hit
    obtain ⟨begins, blanks, behind, -, split, rfl⟩ := (wordThen_eq_some_iff solid).mp hit
    have sizes := congrArg List.length split
    have enough := length_le_of_beginsWith begins
    simp only [List.length_drop, List.length_append, List.length_cons] at sizes
    omega
  · intro part rest value other hit
    obtain ⟨begins, blanks, behind, blank, split, size⟩ := (wordThen_eq_some_iff solid).mp hit
    have enough : letters.length ≤ part.length := by omega
    rw [beginsWith_append enough] at begins
    rw [List.drop_append_of_le_length enough, List.append_cons] at split
    -- The part ends with the mark, so the blanks and the mark are all of its second half.
    have half : part.drop letters.length = blanks ++ [mark] :=
      (List.append_inj split (by simp; omega)).1
    refine (wordThen_eq_some_iff solid).mpr ⟨?_, blanks, other, blank, ?_, size⟩
    · rw [beginsWith_append enough, begins]
    · rw [List.drop_append_of_le_length enough, half, List.append_assoc]
      rfl

theorem le_length_of_seek {letters text : Text} {place : Nat}
    (found : Text.seek (beginsWith letters) text = some place) :
    place + letters.length ≤ text.length := by
  induction text generalizing place with
  | nil =>
      obtain ⟨begins, rfl⟩ : beginsWith letters [] = true ∧ 0 = place := by
        simpa [Text.seek] using found
      simpa using length_le_of_beginsWith begins
  | cons c rest ih =>
      simp only [Text.seek] at found
      split at found
      · next begins =>
          obtain rfl : 0 = place := by simpa using found
          simpa using length_le_of_beginsWith begins
      · obtain ⟨later, isLater, rfl⟩ := Option.map_eq_some_iff.mp found
        have sizes := ih isLater
        rw [List.length_cons]
        omega

/-- Where a word begins first is known from the text up to its end. -/
theorem seek_append {letters front rest : Text} {place : Nat} (full : letters ≠ [])
    (found : Text.seek (beginsWith letters) (front ++ rest) = some place)
    (size : front.length = place + letters.length) (other : Text) :
    Text.seek (beginsWith letters) (front ++ other) = some place := by
  have positive := List.length_pos_iff.mpr full
  induction front generalizing place with
  | nil =>
      rw [List.length_nil] at size
      omega
  | cons c front ih =>
      have enough : letters.length ≤ (c :: front).length := by omega
      have same : beginsWith letters (c :: (front ++ other)) =
          beginsWith letters (c :: (front ++ rest)) := by
        rw [← List.cons_append, beginsWith_append enough, ← List.cons_append,
          beginsWith_append enough]
      simp only [List.cons_append, Text.seek, same] at found ⊢
      split at found
      · next begins => rw [if_pos begins, found]
      · next misses =>
          obtain ⟨later, isLater, rfl⟩ := Option.map_eq_some_iff.mp found
          rw [List.length_cons] at size
          rw [if_neg misses, ih isLater (by omega), Option.map_some]

/-- A script element matches where its opening tag is closed and a closing tag
follows. -/
theorem scriptElement_eq_some_iff {text : Text} {covered : Nat} :
    scriptElement text = some ((), covered) ↔
      beginsWith "<script" text = true ∧
        ∃ attributes inside place, (∀ c ∈ attributes, (c != '>') = true) ∧
          text.drop 7 = attributes ++ '>' :: inside ∧
          Text.seek (beginsWith "</script>") inside = some place ∧
          covered = attributes.length + place + 17 := by
  constructor
  · intro hit
    simp only [scriptElement, Option.ite_none_right_eq_some] at hit
    obtain ⟨begins, hit⟩ := hit
    split at hit
    · next stop inside isInside =>
        obtain ⟨place, isPlace, size⟩ := Option.map_eq_some_iff.mp hit
        obtain rfl : stop = '>' := by
          have notKept := List.head?_dropWhile_not (· != '>') (text.drop 7)
          rw [isInside] at notKept
          simpa using notKept
        refine ⟨begins, (text.drop 7).takeWhile (· != '>'), inside, place, ?_, ?_, isPlace, ?_⟩
        · exact fun c within => List.mem_takeWhile_imp (p := (· != '>')) within
        · rw [← isInside, List.takeWhile_append_dropWhile]
        · simpa using size.symm
    · exact absurd hit (by simp)
  · rintro ⟨begins, attributes, inside, place, clear, split, isPlace, rfl⟩
    have taken : (attributes ++ '>' :: inside).takeWhile (· != '>') = attributes := by
      rw [List.takeWhile_append_of_pos clear, List.takeWhile_cons_of_neg (by simp),
        List.append_nil]
    have left : (attributes ++ '>' :: inside).dropWhile (· != '>') = '>' :: inside := by
      rw [List.dropWhile_append_of_pos clear, List.dropWhile_cons_of_neg (by simp)]
    simp only [scriptElement, begins, split, taken, left, isPlace, if_true, Option.map_some]

theorem scriptElement_isLocal : scriptElement.IsLocal := by
  constructor
  · intro text value covered hit
    obtain ⟨-, attributes, inside, place, -, -, -, rfl⟩ := scriptElement_eq_some_iff.mp hit
    exact Nat.succ_pos _
  · intro text value covered hit
    obtain ⟨begins, attributes, inside, place, -, split, isPlace, rfl⟩ :=
      scriptElement_eq_some_iff.mp hit
    have sizes := congrArg List.length split
    have opened : 7 ≤ text.length := length_le_of_beginsWith begins
    have closed : place + 9 ≤ inside.length := le_length_of_seek isPlace
    simp only [List.length_drop, List.length_append, List.length_cons] at sizes
    omega
  · intro part rest value other hit
    obtain ⟨begins, attributes, inside, place, clear, split, isPlace, size⟩ :=
      scriptElement_eq_some_iff.mp hit
    have opened : 7 ≤ part.length := by omega
    have enough : ("<script" : Text).length ≤ part.length := opened
    rw [beginsWith_append enough] at begins
    rw [List.drop_append_of_le_length opened] at split
    -- The part ends with the closing tag, so it holds the whole opening tag.
    have isPrefix : attributes ++ ['>'] <+: part.drop 7 ++ rest :=
      ⟨inside, by rw [split, List.append_assoc, List.singleton_append]⟩
    obtain ⟨front, isFront⟩ : attributes ++ ['>'] <+: part.drop 7 := by
      apply List.prefix_of_prefix_length_le isPrefix (List.prefix_append _ _)
      simp
      omega
    have sizes := congrArg List.length isFront
    simp only [List.length_append, List.length_singleton, List.length_drop] at sizes
    rw [← isFront, List.append_assoc, List.append_assoc, List.singleton_append,
      List.append_cancel_left_eq, List.cons.injEq] at split
    rw [← split.2] at isPlace
    refine scriptElement_eq_some_iff.mpr
      ⟨?_, attributes, front ++ other, place, clear, ?_, ?_, size⟩
    · rw [beginsWith_append enough, begins]
    · rw [List.drop_append_of_le_length opened, ← isFront]
      simp
    · exact seek_append (by simp) isPlace (by simp; omega) other

/-- Every pattern of the sanitizer is local. -/
theorem patterns_areLocal : ∀ pattern ∈ patterns, pattern.IsLocal := by
  simp only [patterns, List.forall_mem_cons]
  exact ⟨scriptElement_isLocal, word_isLocal (by decide), wordThen_isLocal _ (by decide),
    wordThen_isLocal _ (by decide), word_isLocal (by decide), by simp⟩

/-! ## Clean texts -/

/-- A text is clean when no pattern matches anywhere in it. -/
def IsClean (text : Text) : Prop :=
  ∀ pattern ∈ patterns, ∀ later, later <:+ text → pattern later = none

/-- A part of a text that one of the patterns matches. -/
def IsMatch (part : Text) : Prop := ∃ pattern ∈ patterns, pattern.Covers part

/-- A text is clean exactly when no part of it is a match. -/
theorem isClean_text_iff (placed : PlacedText) :
    IsClean placed.text ↔ ∀ part : PlacedText, part <:+: placed → ¬ IsMatch part.text := by
  constructor
  · rintro clean part ⟨before, after, rfl⟩ ⟨pattern, isPattern, covers⟩
    apply (patterns_areLocal pattern isPattern).append_ne_none covers (PlacedText.text after)
    apply clean pattern isPattern
    exact ⟨PlacedText.text before, by simp [PlacedText.text]⟩
  · intro noMatch pattern isPattern later isSuffix
    cases found : pattern later with
    | none => rfl
    | some hit =>
        obtain ⟨value, covered⟩ := hit
        have covers := (patterns_areLocal pattern isPattern).covers_take found
        obtain ⟨within, isWithin, rfl⟩ := List.suffix_map_iff.mp isSuffix
        have isInfix := (List.take_prefix covered within).isInfix.trans isWithin.isInfix
        rw [← List.map_take] at covers
        exact absurd ⟨pattern, isPattern, covers⟩ (noMatch _ isInfix)

/-- A clean text is one in which erasing finds nothing. -/
theorem isClean_iff_eraseAll_eq (text : Text) :
    IsClean text ↔ patterns.foldl (fun left pattern => pattern.erase left) text = text := by
  rw [Pattern.eraseAll_eq_self_iff]
  refine forall₂_congr fun pattern isPattern => ⟨?_, ?_⟩
  · intro nowhere later full isSuffix
    rw [List.append_nil]
    exact nowhere later isSuffix
  · intro skips later isSuffix
    by_cases empty : later = []
    · rw [empty]
      by_contra hit
      obtain ⟨⟨value, covered⟩, hit⟩ := Option.ne_none_iff_exists'.mp hit
      have isLocal := patterns_areLocal pattern isPattern
      exact absurd (isLocal.covered_le hit) (Nat.not_le.mpr (isLocal.covered_pos hit))
    · simpa using skips later empty isSuffix

/-- The characters that sanitizing keeps, with their places. -/
def kept (text : Text) : PlacedText :=
  let left := Pattern.keptOfAll patterns (PlacedText.ofText text)
  ((left.dropWhile fun c => Text.isBlank c.1).reverse.dropWhile fun c => Text.isBlank c.1).reverse

/-- The kept characters make the sanitized text. -/
theorem text_kept (text : Text) : (kept text).text = sanitize text := by
  have erased := Pattern.text_keptOfAll patterns (PlacedText.ofText text)
  rw [PlacedText.text_ofText] at erased
  rw [sanitize, ← erased, Text.trim, Text.stripOf, kept, PlacedText.text, PlacedText.text]
  simp only [List.dropWhile_map, ← List.map_reverse]
  rfl

theorem kept_sublist (text : Text) :
    kept text <+ Pattern.keptOfAll patterns (PlacedText.ofText text) := by
  rw [kept, ← List.reverse_sublist, List.reverse_reverse]
  exact (List.dropWhile_sublist _).trans (List.dropWhile_sublist _).reverse

/-- No match in what sanitizing keeps stood in one piece in the text. -/
theorem not_isMatch_of_onePiece {text : Text} {part : PlacedText} (isKept : part <:+: kept text)
    (onePiece : part <:+: PlacedText.ofText text) : ¬ IsMatch part.text := by
  rintro ⟨pattern, isPattern, covers⟩
  apply Pattern.not_subset_keptOfAll patterns_areLocal (PlacedText.nodup_ofText text) onePiece
    isPattern covers
  exact List.Subset.trans isKept.subset (kept_sublist text).subset

/-- Sanitizing a sanitized text again changes it exactly when it is not clean. -/
theorem isClean_iff_sanitize_eq {text : Text} (trimmed : Text.trim text = text) :
    IsClean text ↔ sanitize text = text := by
  rw [isClean_iff_eraseAll_eq, sanitize]
  constructor
  · intro nothing
    rw [nothing, trimmed]
  · intro same
    have isSublist := Text.stripOf_sublist Text.isBlank
      (patterns.foldl (fun left pattern => pattern.erase left) text)
    rw [← Text.trim, same] at isSublist
    exact (Pattern.eraseAll_sublist patterns text).antisymm isSublist

end Sanitizer

open Sanitizer in
/-- Sanitizing leaves a clean text exactly when every match in what it keeps stood in
one piece before, so that no removal has joined it. This is also when sanitizing
the result changes nothing. -/
theorem isClean_sanitize_iff (text : Text) :
    (kept text).text = sanitize text ∧
    (IsClean (sanitize text) ↔
      ∀ part : PlacedText, part <:+: kept text → IsMatch part.text →
        part <:+: PlacedText.ofText text) ∧
    (IsClean (sanitize text) ↔ sanitize (sanitize text) = sanitize text) := by
  refine ⟨text_kept text, ?_, ?_⟩
  · rw [← text_kept, isClean_text_iff]
    constructor
    · intro noMatch part isKept isMatch
      exact absurd isMatch (noMatch part isKept)
    · intro onePiece part isKept isMatch
      exact not_isMatch_of_onePiece isKept (onePiece part isKept isMatch) isMatch
  · exact isClean_iff_sanitize_eq (Text.stripOf_stripOf Text.isBlank _)

open Sanitizer in
/-- A scheme inside a scheme: erasing the inner one joins the outer one. -/
theorem not_isClean_sanitize_nested_scheme :
    sanitize "jajavascript:vascript:" = ("javascript:" : Text) ∧
      ¬ IsClean (sanitize "jajavascript:vascript:") := by
  have left : sanitize "jajavascript:vascript:" = ("javascript:" : Text) := by decide
  refine ⟨left, fun clean => ?_⟩
  have nowhere := clean (word "javascript:") (by simp [patterns]) _ List.suffix_rfl
  rw [left] at nowhere
  exact absurd nowhere (by decide)

end DesignExport
