/-
# Checking before sanitizing

Input is checked first and sanitized afterwards, and nobody looks at the sanitized text
again. Of the three checks only the one on the length is sure to hold of it: sanitizing
makes no text longer. All characters but blanks may be gone, and a script element may take
braces with it; no other pattern covers a brace. So the text that is read would pass the
checks exactly when something is left of it and the script elements that are taken away
have as many opening as closing braces.
-/

import DesignExport.Proofs.Input.Sanitizer
import DesignExport.Proofs.Removal
import DesignExport.Proofs.Service.Outcome
import DesignExport.Sheet.Reading

namespace DesignExport

namespace Sanitizer

/-! ## Patterns without braces -/

/-- No brace is a letter, and none is a form of another character. -/
theorem eq_of_isLetter_brace {letter brace : Char} (isBrace : brace = '{' ∨ brace = '}')
    (same : isLetter letter brace = true) : letter = brace := by
  rcases isBrace with rfl | rfl
  · have small : '{'.toLower = '{' := by decide
    simp only [isLetter, small] at same
    exact Eq.symm (by simpa using same)
  · have small : '}'.toLower = '}' := by decide
    simp only [isLetter, small] at same
    exact Eq.symm (by simpa using same)

/-- Every character of a word in any case is a form of one of its letters. -/
theorem exists_letter_of_mem {letters part : Text} (begins : beginsWith letters part = true)
    (size : part.length ≤ letters.length) {c : Char} (within : c ∈ part) :
    ∃ letter ∈ letters, isLetter letter c = true := by
  induction letters generalizing part with
  | nil => simp [List.eq_nil_of_length_eq_zero (Nat.le_zero.mp size)] at within
  | cons letter more ih =>
      cases part with
      | nil => simp at within
      | cons d rest =>
          simp only [beginsWith, Bool.and_eq_true] at begins
          rcases List.mem_cons.mp within with rfl | later
          · exact ⟨letter, List.mem_cons_self, begins.1⟩
          · obtain ⟨other, isLater, same⟩ := ih begins.2 (Nat.le_of_succ_le_succ size) later
            exact ⟨other, List.mem_cons_of_mem letter isLater, same⟩

/-- A word without braces has none in any case. -/
theorem isBraceFree_of_beginsWith {letters part : Text} (free : Text.IsBraceFree letters)
    (begins : beginsWith letters part = true) (size : part.length ≤ letters.length) :
    Text.IsBraceFree part := by
  refine Text.isBraceFree_iff.mpr fun c within isBrace => ?_
  obtain ⟨letter, isLetter, same⟩ := exists_letter_of_mem begins size within
  obtain rfl := eq_of_isLetter_brace isBrace same
  exact Text.isBraceFree_iff.mp free letter isLetter isBrace

theorem isBraceFree_of_word_covers {letters part : Text} (free : Text.IsBraceFree letters)
    (covers : (word letters).Covers part) : Text.IsBraceFree part := by
  obtain ⟨⟨⟩, hit⟩ := covers
  obtain ⟨begins, size⟩ := word_eq_some_iff.mp hit
  exact isBraceFree_of_beginsWith free begins size.le

theorem isBraceFree_of_wordThen_covers {letters part : Text} {mark : Char}
    (solid : Text.isBlank mark = false) (free : Text.IsBraceFree (mark :: letters))
    (covers : (wordThen letters mark).Covers part) : Text.IsBraceFree part := by
  obtain ⟨⟨⟩, hit⟩ := covers
  obtain ⟨begins, blanks, behind, blank, split, size⟩ := (wordThen_eq_some_iff solid).mp hit
  have enough := length_le_of_beginsWith begins
  have nothing : behind = [] := by
    have sizes := congrArg List.length split
    simp only [List.length_drop, List.length_append, List.length_cons] at sizes
    exact List.eq_nil_of_length_eq_zero (by omega)
  have whole : part = part.take letters.length ++ (blanks ++ [mark]) := by
    rw [← nothing, ← split, List.take_append_drop]
  have wordFree : Text.IsBraceFree (part.take letters.length) := by
    refine isBraceFree_of_beginsWith (free.subset (List.subset_cons_self mark letters)) ?_
      (List.length_take_le _ _)
    have taken : letters.length ≤ (part.take letters.length).length := by
      rw [List.length_take]
      omega
    rw [whole, beginsWith_append taken] at begins
    exact begins
  have markFree : Text.IsBraceFree [mark] := free.subset (by simp)
  have blanksFree := Text.isBraceFree_of_forall (by decide) (by decide) blank
  rw [whole, Text.isBraceFree_append, Text.isBraceFree_append]
  exact ⟨wordFree, blanksFree, markFree⟩

/-! ## What sanitizing leaves of the excess -/

/-- The patterns behind that of the script elements. -/
def shortPatterns : List (Pattern Unit) := patterns.tail

/-- Only script elements can take braces away. -/
theorem shortPatterns_areBraceFree : ∀ pattern ∈ shortPatterns, ∀ part, pattern.Covers part →
    Text.IsBraceFree part := by
  have isList : shortPatterns = [word "javascript:", wordThen "expression" '(',
      wordThen "behavior" ':', word "@import"] := rfl
  simp only [isList, List.forall_mem_cons]
  refine ⟨fun _ => isBraceFree_of_word_covers (by decide),
    fun _ => isBraceFree_of_wordThen_covers (by decide) (by decide),
    fun _ => isBraceFree_of_wordThen_covers (by decide) (by decide),
    fun _ => isBraceFree_of_word_covers (by decide), by simp⟩

/-- Patterns without braces leave the excess of a text as it is. -/
theorem braceExcess_eraseAll {others : List (Pattern Unit)}
    (areLocal : ∀ pattern ∈ others, pattern.IsLocal)
    (areFree : ∀ pattern ∈ others, ∀ part, pattern.Covers part → Text.IsBraceFree part)
    (text : Text) :
    Text.braceExcess (others.foldl (fun left pattern => pattern.erase left) text) =
      Text.braceExcess text := by
  induction others generalizing text with
  | nil => rfl
  | cons pattern more ih =>
      obtain ⟨isLocal, moreLocal⟩ := List.forall_mem_cons.mp areLocal
      obtain ⟨isFree, moreFree⟩ := List.forall_mem_cons.mp areFree
      rw [List.foldl_cons, ih moreLocal moreFree, isLocal.braceExcess_erase_eq isFree]

/-- Blanks are no braces. -/
theorem braceExcess_trim (text : Text) :
    Text.braceExcess (Text.trim text) = Text.braceExcess text := by
  obtain ⟨lead, trail, leadBlank, trailBlank, whole⟩ :=
    Text.exists_eq_append_stripOf Text.isBlank text
  have none {blanks : Text} (blank : ∀ c ∈ blanks, Text.isBlank c = true) :
      Text.braceExcess blanks = 0 :=
    (Text.isBraceFree_of_forall (by decide) (by decide) blank).braceExcess
  have parts := congrArg Text.braceExcess whole
  rw [Text.braceExcess_append, Text.braceExcess_append, none leadBlank, none trailBlank] at parts
  rw [Text.trim]
  omega

/-- The script elements of a text, one after the other. -/
def scripts (text : Text) : Text := scriptElement.taken text

/-- Sanitizing takes the excess of the script elements away, and no other. -/
theorem braceExcess_sanitize (text : Text) :
    Text.braceExcess (sanitize text) = Text.braceExcess text - Text.braceExcess (scripts text) := by
  have others := braceExcess_eraseAll
    (fun pattern within => patterns_areLocal pattern (List.mem_of_mem_tail within))
    shortPatterns_areBraceFree (scriptElement.erase text)
  calc
    Text.braceExcess (sanitize text) = Text.braceExcess (scriptElement.erase text) := by
      rw [sanitize, braceExcess_trim]
      exact others
    _ = _ := Pattern.braceExcess_erase text

/-- Sanitizing makes no text longer. -/
theorem sanitize_length_le (text : Text) : (sanitize text).length ≤ text.length :=
  ((Text.stripOf_sublist Text.isBlank _).trans (Pattern.eraseAll_sublist patterns text)).length_le

/-- A sanitized text is trimmed, so blanks are never all that is left. -/
theorem allBlank_sanitize_iff (text : Text) :
    Text.allBlank (sanitize text) = true ↔ sanitize text = [] := by
  constructor
  · intro blank
    have nothing := Text.trim_blank_append (List.all_eq_true.mp blank) []
    rw [List.append_nil, sanitize, Text.trim_trim] at nothing
    exact nothing
  · intro nothing
    rw [nothing]
    rfl

end Sanitizer

namespace CssText

/-- What passes the checks, as a text, is the text itself. -/
theorem checkText_eq_ok_iff {limit : Int} {text passed : Text} :
    checkText limit text = .ok passed ↔
      Text.allBlank text = false ∧ (text.length : Int) ≤ limit ∧ Text.braceExcess text = 0 ∧
        passed = text := by
  rw [checkText, ← Text.isBalanced_iff, Text.IsBalanced]
  cases blank : Text.allBlank text with
  | true => simp
  | false =>
      by_cases long : limit < text.length
      · simp [long, Int.not_le.mpr long]
      · by_cases same : text.count '{' = text.count '}'
        · simp [long, same, eq_comm, Int.not_lt.mp long]
        · simp [long, same]

/-- Whatever value is accepted, the text that it stands for has passed. -/
theorem checkText_of_check {limit : Int} {css : Json} {text : Text}
    (accepted : check limit css = .ok text) : checkText limit text = .ok text := by
  have isText {given : Text} (passed : checkText limit given = .ok text) :
      checkText limit text = .ok text := by
    obtain ⟨-, -, -, rfl⟩ := checkText_eq_ok_iff.mp passed
    exact passed
  cases css with
  | text given => exact isText accepted
  | broken codes => exact isText accepted
  | _ => simp [check] at accepted

end CssText

open Sanitizer CssText in
/-- From an accepted value the sanitized text is read. It is never too long. It would pass
the checks itself exactly when something is left of it and the script elements that were
taken away have as many opening as closing braces; where it would not, it is refused as
missing or for its braces. -/
theorem checkText_sanitize_iff {σ : Type} (service : Service σ) (state : ServiceState σ)
    {css : Json} {text : Text} (accepted : check service.limit css = .ok text) :
    (service.encodingProblem css = none →
      (service.convert css).outcome state =
        ((service.readSheet (sanitize text) state.reader).1.map Conversion.ofSheet,
          { state with reader := (service.readSheet (sanitize text) state.reader).2 })) ∧
    ((sanitize text).length : Int) ≤ service.limit ∧
    (checkText service.limit (sanitize text) = .ok (sanitize text) ↔
      sanitize text ≠ [] ∧ Text.braceExcess (scripts text) = 0) ∧
    (sanitize text = [] → checkText service.limit (sanitize text) = .error .missing) ∧
    (sanitize text ≠ [] → Text.braceExcess (scripts text) ≠ 0 →
      checkText service.limit (sanitize text) =
        .error (.unbalanced ((sanitize text).count '{') ((sanitize text).count '}'))) := by
  obtain ⟨-, short, balanced, -⟩ := checkText_eq_ok_iff.mp (checkText_of_check accepted)
  have stillShort : ((sanitize text).length : Int) ≤ service.limit := by
    have shorter := sanitize_length_le text
    omega
  have excess := braceExcess_sanitize text
  rw [balanced] at excess
  refine ⟨fun whole => ?_, stillShort, ?_, fun nothing => ?_, fun something uneven => ?_⟩
  · rw [Service.outcome_convert, Service.converted_of_ok accepted whole]
  · rw [checkText_eq_ok_iff, ← Bool.not_eq_true, allBlank_sanitize_iff]
    constructor
    · rintro ⟨something, -, even, -⟩
      exact ⟨something, by omega⟩
    · rintro ⟨something, even⟩
      exact ⟨something, stillShort, by omega, rfl⟩
  · rw [checkText, if_pos ((allBlank_sanitize_iff text).mpr nothing)]
  · have unbalanced : ¬ Text.IsBalanced (sanitize text) := by
      rw [Text.isBalanced_iff]
      omega
    rw [checkText, if_neg (mt (allBlank_sanitize_iff text).mp something),
      if_neg (Int.not_lt.mpr stillShort)]
    exact if_neg unbalanced

open Sanitizer CssText in
/-- The braces of a script element may be even, as here. -/
theorem checkText_sanitize_iff_even_script :
    let service : Service Unit :=
      { readSheet := fun text reader => (.ok (StyleSheet.ofText text), reader)
        idOf := fun n => List.replicate n '0'
        timeOf := fun n => List.replicate (n + 1) '0' }
    let text : Text := "a<script>\x7b\x7d</script>\x7b\x7d"
    check service.limit (.text text) = .ok text ∧
      checkText service.limit (sanitize text) = .ok (sanitize text) := by
  intro service text
  have accepted : check service.limit (.text text) = .ok text := by decide +kernel
  obtain ⟨-, -, whether, -⟩ := checkText_sanitize_iff service { reader := () } accepted
  exact ⟨accepted, whether.mpr ⟨by decide +kernel, by decide +kernel⟩⟩

open Sanitizer CssText in
/-- Accepted texts of which nothing is left, or a brace without its partner. -/
theorem sanitized_text_refused :
    (check defaultLimit (.text "javascript:") = .ok ("javascript:" : Text) ∧
      checkText defaultLimit (sanitize "javascript:") = .error .missing) ∧
    (check defaultLimit (.text "<script>\x7b</script>\x7d") =
        .ok ("<script>\x7b</script>\x7d" : Text) ∧
      checkText defaultLimit (sanitize "<script>\x7b</script>\x7d") =
        .error (.unbalanced 0 1)) := by
  decide +kernel

end DesignExport
