/-
# Sheets one after the other

A text that ends with a closing brace and in which no comment begins can stand in front of
another text without either of them changing what the other says. The rules are those of
the one followed by those of the other, and the outline is the stable merge of the two
outlines by depth. The braces in between need not match: both scans reach back to an
earlier brace, and what they find there is cleaned away.
-/

import DesignExport.Proofs.Sheet.BracedRules
import DesignExport.Proofs.Sheet.Outline

namespace DesignExport

open Selector

/-- Any end of a closed text is closed. -/
theorem Selector.IsClosedOff.of_append {front behind : Text}
    (closed : IsClosedOff (front ++ behind)) : IsClosedOff behind := by
  refine ⟨?_, fun within => closed.noComment (within.trans (List.suffix_append _ _).isInfix)⟩
  by_cases empty : behind = []
  · exact Or.inl empty
  · rcases closed.ending with nothing | ending
    · exact absurd (List.append_eq_nil_iff.mp nothing).2 empty
    · rw [List.getLast?_append_of_ne_nil front empty] at ending
      exact Or.inr ending

/-- Behind a closed text the braced rules are those that the rest has alone, unless the rest
begins with an opening brace. -/
theorem Selector.rules_append_of_closed {front rest : Text} (closed : IsClosedOff front)
    (unopened : rest.head? ≠ some '{') : rules (front ++ rest) = rules front ++ rules rest := by
  obtain ⟨head, remembered, headClosed⟩ := closed.exists_memory
  have goOn := bracedFrom_append ([], none) front rest
  rw [remembered] at goOn
  rw [rules, braced, goOn, List.filterMap_append,
    filterMap_bracedFrom_of_closed headClosed unopened]
  rfl

namespace Outline

/-- A closed text in front of a selector does not change its guess. -/
theorem guessOf?_append_of_closed {front : Text} (closed : IsClosedOff front) (raw : Text) :
    guessOf? (front ++ raw) = guessOf? raw := by
  rw [guessOf?, clean_append_of_closed closed, guessOf?]

/-- A closed text without opening braces adds no guess. -/
theorem scan_append_of_not_mem {front : Text} (closed : IsClosedOff front) (clear : '{' ∉ front)
    (rest : Text) : scan (front ++ rest) = scan rest := by
  by_cases opened : '{' ∈ rest
  · obtain ⟨raw, later, rfl, rawClear⟩ := List.eq_append_cons_of_mem opened
    have bothClear : '{' ∉ front ++ raw := by simp [clear, rawClear]
    rw [← List.append_assoc, scan_selector_append bothClear, scan_selector_append rawClear,
      guessOf?_append_of_closed closed]
  · have bothClear : '{' ∉ front ++ rest := by simp [clear, opened]
    rw [scan_of_not_mem bothClear, scan_of_not_mem opened]

/-- Behind a closed text the guesses are those that the rest has alone. -/
theorem scan_append_of_closed {front : Text} (closed : IsClosedOff front) (rest : Text) :
    scan (front ++ rest) = scan front ++ scan rest := by
  by_cases opened : '{' ∈ front
  · -- Both texts are read on from the last opening brace, behind which front has no guess.
    obtain ⟨before, behind, rfl, clear⟩ := exists_last_of_mem opened
    have behindClosed : IsClosedOff behind := by
      rw [List.append_cons] at closed
      exact closed.of_append
    rw [List.append_assoc, List.cons_append, scan_append_opening, scan_append_opening,
      scan_append_of_not_mem behindClosed clear, scan_of_not_mem clear, List.append_nil]
  · rw [scan_append_of_not_mem closed opened, scan_of_not_mem opened, List.nil_append]

/-- Behind a closed text an outline has the guesses of each depth one after the other. -/
theorem ofDepth_ofText_append {front : Text} (closed : IsClosedOff front) (rest : Text)
    (depth : Nat) :
    ofDepth depth (ofText (front ++ rest)) =
      ofDepth depth (ofText front) ++ ofDepth depth (ofText rest) := by
  simp only [ofDepth_ofText, scan_append_of_closed closed, ofDepth_append]

/-- So it is the merge of the two outlines. -/
theorem ofText_append_of_closed {front : Text} (closed : IsClosedOff front) (rest : Text) :
    ofText (front ++ rest) = (ofText front).merge (ofText rest) notDeeper := by
  refine eq_of_ofDepth (isSorted_ofText _)
    (isSorted_merge (isSorted_ofText front) (isSorted_ofText rest)) fun depth => ?_
  rw [ofDepth_ofText_append closed, ofDepth_merge (isSorted_ofText front)]

end Outline

/-- A closed text in front of one that does not begin with an opening brace: the rules stand
one after the other, and the outline merges the two outlines by depth. It is sorted, at each
depth the guesses of the first text come before those of the second, and there is no other
such list. -/
theorem rules_and_outline_append {front rest : Text} (closed : IsClosedOff front)
    (unopened : rest.head? ≠ some '{') :
    rules (front ++ rest) = rules front ++ rules rest ∧
    Outline.IsSorted (Outline.ofText (front ++ rest)) ∧
    (∀ depth, Outline.ofDepth depth (Outline.ofText (front ++ rest)) =
      Outline.ofDepth depth (Outline.ofText front) ++
        Outline.ofDepth depth (Outline.ofText rest)) ∧
    Outline.ofText (front ++ rest) =
      (Outline.ofText front).merge (Outline.ofText rest) Outline.notDeeper :=
  ⟨rules_append_of_closed closed unopened, Outline.isSorted_ofText _,
    Outline.ofDepth_ofText_append closed rest, Outline.ofText_append_of_closed closed rest⟩

/-- Two texts with surplus braces and selectors of two depths. -/
theorem rules_and_outline_append_surplus_braces :
    rules (".a .b \x7b c: d \x7d \x7b\x7d \x7d" ++ " .e \x7b f: g \x7d .h .i \x7b j: k \x7d") =
        [⟨".a .b", [⟨"c", "d"⟩], none⟩] ++
          [⟨".e", [⟨"f", "g"⟩], none⟩, ⟨".h .i", [⟨"j", "k"⟩], none⟩] ∧
      Outline.ofText
          (".a .b \x7b c: d \x7d \x7b\x7d \x7d" ++ " .e \x7b f: g \x7d .h .i \x7b j: k \x7d") =
        [⟨".e", 1, [".e"]⟩, ⟨".a .b", 2, [".a", ".b"]⟩, ⟨".h .i", 2, [".h", ".i"]⟩] := by
  have appended := @rules_and_outline_append ".a .b \x7b c: d \x7d \x7b\x7d \x7d"
    " .e \x7b f: g \x7d .h .i \x7b j: k \x7d" (by decide) (by decide)
  have first : Outline.scan ".a .b \x7b c: d \x7d \x7b\x7d \x7d" =
      [⟨".a .b", 2, [".a", ".b"]⟩] := by decide +kernel
  have second : Outline.scan " .e \x7b f: g \x7d .h .i \x7b j: k \x7d" =
      [⟨".e", 1, [".e"]⟩, ⟨".h .i", 2, [".h", ".i"]⟩] := by decide +kernel
  refine ⟨appended.1.trans (by decide +kernel), appended.2.2.2.trans ?_⟩
  rw [Outline.ofText, Outline.ofText, first, second, List.mergeSort_singleton,
    List.mergeSort_of_pairwise (by decide)]
  simp [Outline.notDeeper]

end DesignExport
