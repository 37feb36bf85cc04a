/-
# The scan for rules and the scan for selectors

The scan for braced rules takes a head and a body together, and an opening brace inside a
body means nothing to it. The scan for selectors stops at every opening brace. So what the
two take in front of a brace differs for almost every rule: a piece of the second scan can
begin inside a body and run over its closing brace.

When no comment begins in the text they nevertheless agree once both are cleaned. Reading
the text character by character, outside of braces the two scans remember texts that are
the same to cleaning, and inside of braces the second scan has already made the guess of
the rule whose body is still read. Hence the selectors of the rules are found, in their
order, among those of the guesses.
-/

import DesignExport.Code.Basic
import DesignExport.Proofs.JoinedText
import DesignExport.Proofs.Sheet.BracedRules
import DesignExport.Proofs.Sheet.Outline
import DesignExport.Sheet.Reading

open scoped List

namespace DesignExport

open Selector

namespace Selector

/-! ## The selector of a rule -/

/-- The selector of the rule that a text in front of a body begins. -/
def ruleSelector? (raw : Text) : Option Text :=
  let selector := clean raw
  if isPlain selector && isSpecific selector then some selector else none

/-- The selectors of the rules that are kept of scanned pairs. -/
def ruleSelectors (pairs : List (Text × Text)) : List Text :=
  pairs.filterMap fun pair => ruleSelector? pair.1

theorem map_selector_filterMap_ruleOf? (pairs : List (Text × Text)) :
    (pairs.filterMap ruleOf?).map StyleRule.selector = ruleSelectors pairs := by
  rw [List.map_filterMap, ruleSelectors]
  refine List.filterMap_congr fun pair _ => ?_
  simp only [ruleOf?, ruleSelector?]
  split <;> rfl

/-- The scan for selectors makes a guess wherever a rule is kept. -/
theorem ruleSelector?_toList_sublist (raw : Text) :
    (ruleSelector? raw).toList <+ (Outline.guessOf? raw).toList.map ElementGuess.selector := by
  simp only [ruleSelector?, Outline.guessOf?]
  by_cases plain : isPlain (clean raw) = true
  · by_cases specific : isSpecific (clean raw) = true
    · simp [plain, specific, Outline.guessOf]
    · simp [specific]
  · simp [plain]

/-! ## One character -/

/-- The selector whose rule is still open: the scan for selectors has passed its brace. -/
def Memory.owed : Memory → List Text
  | (_, none) => []
  | (head, some _) => (ruleSelector? head.reverse).toList

/-- Outside of braces, the text since the last opening brace is the same to cleaning as the
head that the scan for rules remembers, whatever follows. -/
def Memory.MatchesPiece (memory : Memory) (piece : Text) : Prop :=
  memory.2 = none → ∀ more, clean (piece ++ more) = clean (memory.1.reverse ++ more)

/-- An opening brace makes a guess of the piece in front of it. Of the rule that opens there
no more is kept than that guess. -/
theorem Memory.MatchesPiece.next_opening {memory : Memory} {piece : Text}
    (agree : memory.MatchesPiece piece) :
    ruleSelectors (memory.ended '{') ++ (memory.next '{').owed <+
        memory.owed ++ (Outline.guessOf? piece).toList.map ElementGuess.selector ∧
      (memory.next '{').MatchesPiece [] := by
  obtain ⟨head, state⟩ := memory
  cases state with
  | some body =>
      have outside : (Memory.next (head, some body) '{').MatchesPiece [] := by
        intro outside
        simp [Memory.next] at outside
      refine ⟨?_, outside⟩
      simp [Memory.ended, Memory.next, Memory.owed, ruleSelectors]
  | none =>
      by_cases empty : head = []
      · have sameText : (Memory.next (head, none) '{').MatchesPiece [] := fun _ more => by
          simp [Memory.next, empty]
        refine ⟨?_, sameText⟩
        simp [Memory.ended, Memory.next, Memory.owed, ruleSelectors, empty]
      · have opened : Memory.next (head, none) '{' = (head, some []) := by
          simp [Memory.next, empty]
        have sameGuess : Outline.guessOf? piece = Outline.guessOf? head.reverse := by
          have cleaned : clean piece = clean head.reverse := by simpa using agree rfl []
          rw [Outline.guessOf?, cleaned, Outline.guessOf?]
        rw [opened, sameGuess]
        refine ⟨?_, fun outside => by simp at outside⟩
        simpa [Memory.ended, Memory.owed, ruleSelectors] using
          ruleSelector?_toList_sublist head.reverse

/-- Any other character belongs to the piece. A closing brace can end the rule that was
open, and whatever either scan has in front of it is cleaned away. -/
theorem Memory.MatchesPiece.next_of_ne {memory : Memory} {piece : Text}
    (agree : memory.MatchesPiece piece) {c : Char} (unopened : c ≠ '{')
    (noComment : ¬ ['/', '*'] <:+: piece ++ [c]) :
    ruleSelectors (memory.ended c) ++ (memory.next c).owed <+ memory.owed ∧
      (memory.next c).MatchesPiece (piece ++ [c]) := by
  obtain ⟨head, state⟩ := memory
  cases state with
  | none =>
      have read : Memory.next (head, none) c = (c :: head, none) := by
        simp [Memory.next, unopened]
      rw [read]
      refine ⟨by simp [Memory.ended, Memory.owed, ruleSelectors], fun _ more => ?_⟩
      simpa using agree rfl (c :: more)
  | some body =>
      by_cases closes : c = '}'
      · subst closes
        have pieceClosed : IsClosedOff (piece ++ ['}']) := ⟨Or.inr (by simp), noComment⟩
        by_cases empty : body = []
        · have read : Memory.next (head, some body) '}' = (['}'], none) := by
            simp [Memory.next, empty]
          have braceClosed : IsClosedOff ['}'] := by decide
          rw [read]
          refine ⟨by simp [Memory.ended, Memory.owed, ruleSelectors, empty], fun _ more => ?_⟩
          rw [clean_append_of_closed pieceClosed, List.reverse_singleton,
            clean_append_of_closed braceClosed]
        · have read : Memory.next (head, some body) '}' = ([], none) := by
            simp [Memory.next, empty]
          have ends : ruleSelectors (Memory.ended (head, some body) '}') =
              (ruleSelector? head.reverse).toList := by
            cases found : ruleSelector? head.reverse <;>
              simp [Memory.ended, ruleSelectors, empty, found]
          rw [read, ends]
          refine ⟨by simp [Memory.owed], fun _ more => ?_⟩
          rw [clean_append_of_closed pieceClosed, List.reverse_nil, List.nil_append]
      · have read : Memory.next (head, some body) c = (head, some (c :: body)) := by
          simp [Memory.next, closes]
        rw [read]
        refine ⟨by simp [Memory.ended, Memory.owed, ruleSelectors, closes], fun outside => ?_⟩
        simp at outside

/-! ## The whole text -/

/-- Reading on from texts that agree, the selectors of the rules are found among the one
that is owed and those of the guesses. -/
theorem Memory.MatchesPiece.ruleSelectors_sublist {memory : Memory} {piece rest : Text}
    (agree : memory.MatchesPiece piece) (clear : '{' ∉ piece)
    (noComment : ¬ ['/', '*'] <:+: piece ++ rest) :
    ruleSelectors (bracedFrom memory.1 memory.2 rest) <+
      memory.owed ++ (Outline.scan (piece ++ rest)).map ElementGuess.selector := by
  induction rest generalizing memory piece with
  | nil =>
      obtain ⟨head, state⟩ := memory
      cases state <;> simp [bracedFrom, ruleSelectors]
  | cons c rest ih =>
      have split : ruleSelectors (bracedFrom memory.1 memory.2 (c :: rest)) =
          ruleSelectors (memory.ended c) ++
            ruleSelectors (bracedFrom (memory.next c).1 (memory.next c).2 rest) := by
        rw [bracedFrom_cons, ruleSelectors, List.filterMap_append]
        rfl
      rw [split]
      by_cases opens : c = '{'
      · subst opens
        obtain ⟨kept, nextAgree⟩ := agree.next_opening
        have restPlain : ¬ ['/', '*'] <:+: [] ++ rest := fun within =>
          noComment (within.trans ((List.suffix_cons '{' rest).trans
            (List.suffix_append piece _)).isInfix)
        have later := ih nextAgree List.not_mem_nil restPlain
        rw [Outline.scan_selector_append clear, List.map_append, ← List.append_assoc]
        calc
          _ <+ ruleSelectors (memory.ended '{') ++ ((memory.next '{').owed ++
                (Outline.scan rest).map ElementGuess.selector) := later.append_left _
          _ <+ _ := by
            rw [← List.append_assoc]
            exact kept.append_right _
      · have whole : piece ++ c :: rest = (piece ++ [c]) ++ rest := by simp
        rw [whole] at noComment ⊢
        have piecePlain : ¬ ['/', '*'] <:+: piece ++ [c] := fun within =>
          noComment (within.trans (List.prefix_append _ _).isInfix)
        obtain ⟨kept, nextAgree⟩ := agree.next_of_ne opens piecePlain
        have pieceClear : '{' ∉ piece ++ [c] := by simp [clear, Ne.symm opens]
        have later := ih nextAgree pieceClear noComment
        calc
          _ <+ ruleSelectors (memory.ended c) ++ ((memory.next c).owed ++
                (Outline.scan ((piece ++ [c]) ++ rest)).map ElementGuess.selector) :=
            later.append_left _
          _ <+ _ := by
            rw [← List.append_assoc]
            exact kept.append_right _

/-- The selectors of the rules are found, in their order, among those of the guesses. -/
theorem map_selector_rules_sublist {text : Text} (noComment : ¬ ['/', '*'] <:+: text) :
    (rules text).map StyleRule.selector <+ (Outline.scan text).map ElementGuess.selector := by
  have start : Memory.MatchesPiece ([], none) [] := fun _ _ => rfl
  rw [rules, map_selector_filterMap_ruleOf?]
  exact start.ruleSelectors_sublist List.not_mem_nil noComment

end Selector

/-! ## The page -/

/-- Every element of the outline stands in the page of a sheet. -/
theorem Page.renderGuess_isInfix_ofSheet {sheet : StyleSheet} {guess : ElementGuess}
    (within : guess ∈ sheet.outline) (css : Text) :
    Outline.renderGuess guess <:+: Page.ofSheet sheet css := by
  have inOutline : Outline.renderGuess guess <:+: Outline.render sheet.outline :=
    Text.isInfix_joinWith (List.mem_map_of_mem within) _
  have full : Outline.render sheet.outline ≠ [] := by
    intro empty
    rw [empty, List.infix_nil] at inOutline
    exact absurd inOutline (by delta Outline.renderGuess; simp)
  have isBody : Text.orElse (Outline.render sheet.outline) placeholder =
      Outline.render sheet.outline := by
    simp [Text.orElse, full]
  have inRow : Outline.renderGuess guess <:+: "        " ++ Outline.render sheet.outline :=
    inOutline.trans (List.suffix_append _ _).isInfix
  rw [Page.ofSheet, isBody]
  delta Page.frame Text.lines
  refine inRow.trans (Text.isInfix_joinWith ?_ _)
  iterate 12 apply List.mem_cons_of_mem
  exact List.mem_cons_self

/-- In a text in which no comment begins, the selectors of the rules are a subsequence of
the selectors of the guesses in the order of the scan. So every rule has a guess with its
selector and the words of it, in the outline and in the page. -/
theorem guesses_of_rules {text : Text} (noComment : ¬ ['/', '*'] <:+: text) :
    (rules text).map StyleRule.selector <+ (Outline.scan text).map ElementGuess.selector ∧
    ∀ rule ∈ rules text,
      let words := Text.words rule.selector
      let guess : ElementGuess := ⟨rule.selector, words.length, words⟩
      guess ∈ (StyleSheet.ofText text).outline ∧
        Outline.renderGuess guess <:+: (GeneratedCode.ofSheet (StyleSheet.ofText text)).html := by
  have found := map_selector_rules_sublist noComment
  refine ⟨found, fun rule isRule => ?_⟩
  obtain ⟨guess, isGuess, sameSelector⟩ := List.mem_map.mp (found.subset (List.mem_map_of_mem isRule))
  have inOutline : Outline.guessOf rule.selector ∈ (StyleSheet.ofText text).outline := by
    rw [← sameSelector, ← Outline.eq_guessOf_of_mem_scan isGuess]
    exact Outline.mem_ofText.mpr isGuess
  exact ⟨inOutline, Page.renderGuess_isInfix_ofSheet inOutline _⟩

/-- In a text with surplus braces, two of the three guesses are those of rules. -/
theorem guesses_of_rules_nested :
    let text : Text :=
      "@media (x) \x7b .a \x7b b: c \x7d .d .e \x7b f: g \x7d \x7d \x7d #h \x7b i: j \x7d"
    (rules text).map StyleRule.selector = [".d .e", "#h"] ∧
      (Outline.scan text).map ElementGuess.selector = [".a", ".d .e", "#h"] ∧
      (rules text).map StyleRule.selector <+ (Outline.scan text).map ElementGuess.selector ∧
      ⟨".d .e", 2, [".d", ".e"]⟩ ∈ (StyleSheet.ofText text).outline := by
  intro text
  have noComment : Text.occurs ['/', '*'] text = false := by decide +kernel
  have agree := @guesses_of_rules text
    (mt (Text.occurs_iff_isInfix _ _).mpr (by simp [noComment]))
  have isRule : (⟨".d .e", [⟨"f", "g"⟩], none⟩ : StyleRule) ∈ rules text := by decide +kernel
  have words : Text.words ".d .e" = [".d", ".e"] := by decide +kernel
  have inOutline := (agree.2 _ isRule).1
  dsimp only at inOutline
  rw [words] at inOutline
  exact ⟨by decide +kernel, by decide +kernel, agree.1, inOutline⟩

end DesignExport
