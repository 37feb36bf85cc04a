/-
# The block of variables

The variables of a text are printed in one block at the beginning of the sheet, each on a
line of its own. A name holds no brace, but a value runs on to the next semicolon, and
where the last declaration of a block has none, it runs on across the end of the block.

So no value leaves the block in which it begins exactly when no brace stands between the
colon of a written variable and the semicolon that ends it. It is enough to look at what is
written: the scan passes over a variable only inside another one, with the same ending.
Then the printed block holds nothing but its lines, and they are read back as the variables
they are.
-/

import DesignExport.Code.Basic
import DesignExport.Proofs.Sheet.RuleBraces
import DesignExport.Proofs.Sheet.WrittenSheet

namespace DesignExport

namespace Text

/-! ## Names and values -/

/-- The blanks beyond ASCII are no letters and no numbers. -/
theorem inIntervals_eq_false_of_blank {n : Nat} (blank : n ∈ List.range' 0x2000 11 ++
    [0x85, 0xA0, 0x1680, 0x2028, 0x2029, 0x202F, 0x205F, 0x3000]) :
    inIntervals wordIntervals n = false := by
  revert n
  decide +kernel

theorem isBlank_eq_false_of_isWordChar {c : Char} (word : isWordChar c = true) :
    isBlank c = false := by
  rw [isWordChar] at word
  split at word
  · rcases Bool.or_eq_true _ _ ▸ word with alphanum | underscore
    · exact isBlank_eq_false_of_isAlphanum alphanum
    · obtain rfl : c = '_' := by simpa using underscore
      decide
  · next beyond =>
      by_contra blank
      have isBeyond : c.toNat ∈ List.range' 0x2000 11 ++
          [0x85, 0xA0, 0x1680, 0x2028, 0x2029, 0x202F, 0x205F, 0x3000] := by
        simp only [isBlank, Bool.not_eq_false, Bool.or_eq_true, Bool.and_eq_true,
          decide_eq_true_eq, beq_iff_eq] at blank
        simp only [List.mem_append, List.mem_range'_1, List.mem_cons, List.not_mem_nil]
        omega
      simp [inIntervals_eq_false_of_blank isBeyond] at word

/-- Blanks at the ends are no braces. -/
theorem isBraceFree_trim_iff (text : Text) : IsBraceFree (trim text) ↔ IsBraceFree text := by
  constructor
  · intro free
    obtain ⟨lead, trail, leadBlank, trailBlank, whole⟩ := exists_eq_append_stripOf isBlank text
    have opening : isBlank '{' = false := by decide
    have closing : isBlank '}' = false := by decide
    have blanksFree {blanks : Text} (blank : ∀ c ∈ blanks, isBlank c = true) :
        IsBraceFree blanks :=
      isBraceFree_of_forall opening closing blank
    rw [whole, isBraceFree_append, isBraceFree_append]
    exact ⟨⟨blanksFree leadBlank, free⟩, blanksFree trailBlank⟩
  · exact fun free => free.subset (trim_subset text)

end Text

theorem AtBlock.isBlank_eq_false_of_isNameChar {c : Char} (nameChar : isNameChar c = true) :
    Text.isBlank c = false := by
  rcases Bool.or_eq_true _ _ ▸ nameChar with word | dash
  · exact Text.isBlank_eq_false_of_isWordChar word
  · obtain rfl : c = '-' := by simpa using dash
    decide

namespace Css

/-! ## The printed block -/

/-- The lines of the printed block. -/
def variableLines (properties : List CustomProperty) : Text :=
  declarationLines (properties.map variableAsDeclaration)

/-- Where no name holds a brace, the lines have the braces of the values. -/
theorem isBraceFree_variableLines_iff {properties : List CustomProperty}
    (names : ∀ property ∈ properties, Text.IsBraceFree property.name) :
    Text.IsBraceFree (variableLines properties) ↔
      ∀ property ∈ properties, Text.IsBraceFree property.value := by
  induction properties with
  | nil => simp [variableLines, declarationLines, Text.IsBraceFree]
  | cons property others ih =>
      obtain ⟨name, names⟩ := List.forall_mem_cons.mp names
      have lead : Text.IsBraceFree ("  --" : Text) := by decide
      have colon : Text.IsBraceFree (": " : Text) := by decide
      have ending : Text.IsBraceFree (";\n" : Text) := by decide
      have parts : variableLines (property :: others) =
          ("  --" : Text) ++ property.name ++ (": " : Text) ++ property.value ++ (";\n" : Text) ++
            variableLines others := by
        simp [variableLines, declarationLines, declarationLine, variableAsDeclaration]
      simp only [parts, Text.isBraceFree_append, lead, name, colon, ending, ih names, true_and,
        and_true, List.forall_mem_cons]

/-- A variable that is found is a declaration that can stand in a rule, if no brace stands
in its value. -/
theorem fitsRule_variableAsDeclaration {text : Text} {property : CustomProperty}
    (isFound : property ∈ AtBlock.customProperties text) (free : Text.IsBraceFree property.value) :
    (variableAsDeclaration property).FitsRule := by
  obtain ⟨-, -, written, taken, -, rfl⟩ := AtBlock.exists_of_mem_customProperties isFound
  have dashes : ∀ c ∈ ['-', '-'], AtBlock.isNameChar c = true := by decide
  have named : ∀ c ∈ ("--" : Text) ++ written.name, AtBlock.isNameChar c = true :=
    List.forall_mem_append.mpr ⟨dashes, taken.named⟩
  have solid : ∀ c ∈ ("--" : Text) ++ written.name, Text.isBlank c = false :=
    fun c within => AtBlock.isBlank_eq_false_of_isNameChar (named c within)
  have clear {mark : Char} (other : AtBlock.isNameChar mark = false) :
      mark ∉ ("--" : Text) ++ written.name :=
    WrittenVariable.not_mem_of_named named other
  refine ⟨?_, Text.trim_trim written.raw, fun c within => ?_, fun c within => ?_, ?_⟩
  · exact Text.stripOf_eq_self _ (fun c isHead => solid c (List.mem_of_mem_head? isHead))
      fun c isLast => solid c (List.mem_of_getLast? isLast)
  · exact ⟨ne_of_mem_of_not_mem within (clear (by decide)),
      ne_of_mem_of_not_mem within (clear (by decide)),
      ne_of_mem_of_not_mem within (clear (by decide))⟩
  · have inRaw := Text.trim_subset written.raw within
    exact ⟨ne_of_mem_of_not_mem inRaw taken.unended, ne_of_mem_of_not_mem within free.1,
      ne_of_mem_of_not_mem within free.2⟩
  · exact clear (by decide)

/-- The printed block with plain names and values is read as one rule with the variables as
its declarations. -/
theorem braced_variableBlock {text : Text} (full : AtBlock.customProperties text ≠ [])
    (free : ∀ property ∈ AtBlock.customProperties text, Text.IsBraceFree property.value) :
    Selector.braced (variableBlock (AtBlock.customProperties text)) =
        [((":root " : Text), '\n' :: variableLines (AtBlock.customProperties text))] ∧
      Declaration.ofRuleBody ('\n' :: variableLines (AtBlock.customProperties text)) =
        (AtBlock.customProperties text).map variableAsDeclaration := by
  have linesFree : Text.IsBraceFree (variableLines (AtBlock.customProperties text)) :=
    (isBraceFree_variableLines_iff fun _ => AtBlock.isBraceFree_name).mpr free
  constructor
  · have selectorClear : '{' ∉ (":root" : Text) := by decide
    have block := Selector.bracedFrom_ruleBlock selectorClear linesFree.2 [] []
    rw [List.append_nil] at block
    rw [Selector.braced, variableBlock, if_neg (by simpa using full), block]
    rfl
  · refine Declaration.ofRuleBody_writtenBody fun declaration within => ?_
    obtain ⟨property, isFound, rfl⟩ := List.mem_map.mp within
    exact fitsRule_variableAsDeclaration isFound (free property isFound)

/-- Behind its heading comment, the sheet that is generated for a text begins with the block
of the variables of the text. -/
theorem exists_css_ofText_eq (text : Text) :
    ∃ rest, (GeneratedCode.ofSheet (StyleSheet.ofText text)).css =
      header (StyleSheet.ofText text).componentName ++
        (variableBlock (AtBlock.customProperties text) ++ rest) := by
  let sheet := StyleSheet.ofText text
  refine ⟨(sheet.rules.map ruleText).flatten ++ (sheet.mediaBlocks.map verbatimBlock).flatten ++
    (sheet.animations.map fun animation => verbatimBlock animation.definition).flatten, ?_⟩
  show ofSheet sheet = header sheet.componentName ++ (variableBlock sheet.customProperties ++ _)
  delta ofSheet header
  simp only [List.append_assoc]

end Css

open AtBlock Css in
/-- The variables of a text are printed in one block at the beginning of its sheet. No value
holds a brace exactly when none stands in a written variable, and exactly when none stands in
the lines of the block; the block is then read as one rule with the variables as its
declarations, and nothing else. -/
theorem values_isBraceFree_iff (text : Text) :
    (∃ rest, (GeneratedCode.ofSheet (StyleSheet.ofText text)).css =
      header (StyleSheet.ofText text).componentName ++
        (variableBlock (customProperties text) ++ rest)) ∧
    ((∀ property ∈ customProperties text, Text.IsBraceFree property.value) ↔
      ∀ before written after, written.IsTaken →
        text = before ++ WrittenVariable.text written ++ after → Text.IsBraceFree written.raw) ∧
    ((∀ property ∈ customProperties text, Text.IsBraceFree property.value) ↔
      Text.IsBraceFree (variableLines (customProperties text))) ∧
    ((∀ property ∈ customProperties text, Text.IsBraceFree property.value) →
      customProperties text ≠ [] →
        Selector.braced (variableBlock (customProperties text)) =
            [((":root " : Text), '\n' :: variableLines (customProperties text))] ∧
          Declaration.ofRuleBody ('\n' :: variableLines (customProperties text)) =
            (customProperties text).map variableAsDeclaration) := by
  refine ⟨exists_css_ofText_eq text, ⟨?_, ?_⟩,
    (isBraceFree_variableLines_iff fun _ => isBraceFree_name).symm,
    fun free full => braced_variableBlock full free⟩
  · rintro free before written after taken rfl
    obtain ⟨found, -, isFound, isEnd⟩ := exists_mem_customProperties taken
    exact ((Text.isBraceFree_trim_iff found.raw).mp (free _ isFound)).subset isEnd.subset
  · intro free property isFound
    obtain ⟨before, after, written, taken, whole, rfl⟩ := exists_of_mem_customProperties isFound
    exact (Text.isBraceFree_trim_iff written.raw).mpr (free before written after taken whole)

open AtBlock Css in
/-- Two variables, one of them in a rule with a declaration behind it. -/
theorem values_isBraceFree_iff_two_variables :
    let text : Text := ":root \x7b --a: 1px; \x7d .b \x7b --c:d ; e: f \x7d"
    (∀ before written after, WrittenVariable.IsTaken written →
      text = before ++ written.text ++ after → Text.IsBraceFree written.raw) ∧
    Selector.braced (variableBlock (customProperties text)) =
      [((":root " : Text), ("\n  --a: 1px;\n  --c: d;\n" : Text))] := by
  intro text
  have free : ∀ property ∈ customProperties text, Text.IsBraceFree property.value := by decide
  exact ⟨(values_isBraceFree_iff text).2.1.mp free,
    ((values_isBraceFree_iff text).2.2.2 free (by decide)).1⟩

/-- The last declaration of a block has no semicolon, and so the next block is taken into the
value of a variable. -/
theorem not_isBraceFree_value_without_semicolon :
    let text : Text := ".a \x7b --x: 1 \x7d .b \x7b c: d; \x7d"
    Text.IsBalanced text ∧
      AtBlock.customProperties text = [⟨"x", "1 \x7d .b \x7b c: d"⟩] ∧
      ¬ ∀ property ∈ AtBlock.customProperties text, Text.IsBraceFree property.value := by
  decide

end DesignExport
