/-
# Braces in a written sheet

A written sheet is put together from what the scans have read, and braces of its own
stand around the variables and around every rule in pairs. So a sheet is balanced
exactly when the pieces make up for each other. Names and selectors hold no brace;
what is left are opening braces in bodies, the headings of at-blocks, and the values
of variables, which run on to the next semicolon.
-/

import DesignExport.Code.Basic
import DesignExport.Proofs.Sheet.AtBlocks
import DesignExport.Proofs.Sheet.ComponentName
import DesignExport.Proofs.Sheet.RuleBraces

namespace DesignExport

namespace Css

/-! ## The parts of a written sheet -/

theorem braceExcess_declarationLine (declaration : Declaration) :
    Text.braceExcess (declarationLine declaration) = Text.braceExcess declaration.text := by
  have indentation : Text.braceExcess ("  " : Text) = 0 := rfl
  have ending : Text.braceExcess (";\n" : Text) = 0 := rfl
  have parts : declarationLine declaration =
      ("  " : Text) ++ declaration.text ++ (";\n" : Text) := by
    simp [declarationLine, Declaration.text]
  simp only [parts, Text.braceExcess_append, indentation, ending]
  omega

/-- The braces around declarations are a pair. -/
theorem braceExcess_ruleBlock {selector : Text} (free : Text.IsBraceFree selector)
    (declarations : List Declaration) :
    Text.braceExcess (ruleBlock selector declarations) =
      (declarations.map fun declaration => Text.braceExcess declaration.text).sum := by
  have opening : Text.braceExcess (" \x7b\n" : Text) = 1 := rfl
  have closing : Text.braceExcess ("\x7d\n\n" : Text) = -1 := rfl
  have inside : Text.braceExcess (declarationLines declarations) =
      (declarations.map fun declaration => Text.braceExcess declaration.text).sum :=
    Text.braceExcess_flatten_map fun declaration _ => braceExcess_declarationLine declaration
  delta ruleBlock
  simp only [Text.braceExcess_append, free.braceExcess, opening, closing, inside]
  omega

theorem braceExcess_ruleText {rule : StyleRule} (free : Text.IsBraceFree rule.selector)
    (full : rule.selector ≠ []) :
    Text.braceExcess (ruleText rule) =
      (rule.declarations.map fun declaration => Text.braceExcess declaration.text).sum := by
  rw [ruleText]
  split
  · next missing =>
      have empty : rule.declarations = [] := by simpa [full] using missing
      simp [empty, Text.braceExcess]
  · exact braceExcess_ruleBlock free rule.declarations

/-- Variables with plain names have the braces of their values. -/
theorem braceExcess_variableBlock {properties : List CustomProperty}
    (free : ∀ property ∈ properties, Text.IsBraceFree property.name) :
    Text.braceExcess (variableBlock properties) =
      (properties.map fun property => Text.braceExcess property.value).sum := by
  have root : Text.IsBraceFree (":root" : Text) := by constructor <;> decide
  have written : (properties.map variableAsDeclaration).map
      (fun declaration => Text.braceExcess declaration.text) =
        properties.map fun property => Text.braceExcess property.value := by
    rw [List.map_map]
    refine List.map_congr_left fun property within => ?_
    have dashes : Text.braceExcess ("--" : Text) = 0 := rfl
    have separator : Text.braceExcess (": " : Text) = 0 := rfl
    have parts : (variableAsDeclaration property).text =
        ("--" : Text) ++ property.name ++ (": " : Text) ++ property.value := rfl
    simp only [Function.comp_apply, parts, Text.braceExcess_append,
      (free property within).braceExcess, dashes, separator]
    omega
  rw [variableBlock]
  split
  · next empty =>
      rw [List.isEmpty_iff.mp empty]
      rfl
  · rw [braceExcess_ruleBlock root, written]

theorem braceExcess_verbatimBlock (block : Text) :
    Text.braceExcess (verbatimBlock block) = Text.braceExcess block := by
  have ending : Text.braceExcess ("\n\n" : Text) = 0 := rfl
  delta verbatimBlock
  rw [Text.braceExcess_append, ending]
  omega

/-- A sheet with plain names and selectors has the braces of its variables' values, its
declarations and its at-blocks. -/
theorem braceExcess_ofSheet {sheet : StyleSheet} (name : Text.IsBraceFree sheet.componentName)
    (properties : ∀ property ∈ sheet.customProperties, Text.IsBraceFree property.name)
    (selectors : ∀ rule ∈ sheet.rules, rule.selector ≠ [] ∧ Text.IsBraceFree rule.selector) :
    Text.braceExcess (ofSheet sheet) =
      (sheet.customProperties.map fun property => Text.braceExcess property.value).sum +
        ((StyleRule.allDeclarations sheet.rules).map fun declaration =>
          Text.braceExcess declaration.text).sum +
        ((sheet.mediaBlocks ++ sheet.animations.map Animation.definition).map
          Text.braceExcess).sum := by
  have opening : Text.braceExcess ("/* " : Text) = 0 := rfl
  have ending : Text.braceExcess (" Component */\n\n" : Text) = 0 := rfl
  have rules : Text.braceExcess (sheet.rules.map ruleText).flatten =
      ((StyleRule.allDeclarations sheet.rules).map fun declaration =>
        Text.braceExcess declaration.text).sum := by
    rw [StyleRule.allDeclarations, List.flatMap, List.map_flatten, List.sum_flatten, List.map_map,
      List.map_map]
    exact Text.braceExcess_flatten_map fun rule within =>
      braceExcess_ruleText (selectors rule within).2 (selectors rule within).1
  have blocks : Text.braceExcess (sheet.mediaBlocks.map verbatimBlock).flatten =
      (sheet.mediaBlocks.map Text.braceExcess).sum :=
    Text.braceExcess_flatten_map fun block _ => braceExcess_verbatimBlock block
  have animations : Text.braceExcess (sheet.animations.map fun animation =>
      verbatimBlock animation.definition).flatten =
        ((sheet.animations.map Animation.definition).map Text.braceExcess).sum := by
    rw [List.map_map]
    exact Text.braceExcess_flatten_map fun animation _ =>
      braceExcess_verbatimBlock animation.definition
  delta ofSheet
  simp only [Text.braceExcess_append, opening, ending, name.braceExcess,
    braceExcess_variableBlock properties, rules, blocks, animations, List.map_append,
    List.sum_append]
  omega

end Css

/-- How many opening braces the scan for braced rules has taken into declarations. -/
def Selector.strayBraces (text : Text) : Nat :=
  ((StyleRule.allDeclarations (Selector.rules text)).map fun declaration =>
    declaration.text.count '{').sum

/-! ## The sheet that is written for a text -/

/-- Only opening braces in the declarations of braced rules are too many. -/
theorem sum_braceExcess_rules (text : Text) :
    ((StyleRule.allDeclarations (StyleSheet.ofText text).rules).map
      fun declaration => Text.braceExcess declaration.text).sum = Selector.strayBraces text := by
  have layers : ((StyleRule.allDeclarations (StyleRule.ofLayers text)).map
      fun declaration => Text.braceExcess declaration.text).sum = 0 := by
    apply List.sum_eq_zero
    intro excess isExcess
    obtain ⟨declaration, isDeclaration, rfl⟩ := List.mem_map.mp isExcess
    obtain ⟨rule, isRule, isItsOwn⟩ := List.mem_flatMap.mp isDeclaration
    exact ((StyleRule.braces_of_mem_ofLayers isRule).2.2 declaration isItsOwn).braceExcess
  have braced : ((StyleRule.allDeclarations (Selector.rules text)).map
      fun declaration => Text.braceExcess declaration.text).sum = Selector.strayBraces text := by
    rw [Selector.strayBraces, Nat.cast_list_sum, List.map_map]
    refine congrArg List.sum (List.map_congr_left fun declaration isDeclaration => ?_)
    obtain ⟨rule, isRule, isItsOwn⟩ := List.mem_flatMap.mp isDeclaration
    exact Text.braceExcess_of_not_mem
      ((Selector.braces_of_mem_rules isRule).2.2 declaration isItsOwn)
  have all : StyleRule.allDeclarations (StyleSheet.ofText text).rules =
      StyleRule.allDeclarations (StyleRule.ofLayers text) ++
        StyleRule.allDeclarations (Selector.rules text) := List.flatMap_append
  rw [all, List.map_append, List.sum_append, layers, braced, zero_add]

/-- The style sheet generated for a text is balanced exactly when the opening braces that
stand in declarations and in the groups of at-blocks, and what headings and variables'
values have too many, make up for each other. When none of these holds a brace, nothing
is left to make up for; the braces of the text itself play no part. -/
theorem isBalanced_css_ofText_iff (text : Text) :
    ∃ blocks : List NestedBlock, (∀ block ∈ blocks, block.IsTaken) ∧
      AtBlock.mediaBlocks text ++ (AtBlock.animations text).map Animation.definition =
        blocks.map NestedBlock.text ∧
      (Text.IsBalanced (GeneratedCode.ofSheet (StyleSheet.ofText text)).css ↔
        (Selector.strayBraces text : Int) +
          (blocks.map fun block =>
            (block.strayBraces : Int) + Text.braceExcess block.heading.text).sum +
          ((AtBlock.customProperties text).map fun property =>
            Text.braceExcess property.value).sum = 0) := by
  obtain ⟨blocks, taken, written⟩ := AtBlock.exists_blocks text
  refine ⟨blocks, taken, written, ?_⟩
  have name : Text.IsBraceFree (StyleSheet.ofText text).componentName :=
    Text.isBraceFree_of_forall rfl rfl (ComponentName.isIdentifier_ofText text)
  have selectors : ∀ rule ∈ (StyleSheet.ofText text).rules,
      rule.selector ≠ [] ∧ Text.IsBraceFree rule.selector := by
    intro rule isRule
    rcases List.mem_append.mp isRule with isLayer | isBraced
    · have braces := StyleRule.braces_of_mem_ofLayers isLayer
      exact ⟨braces.1, braces.2.1⟩
    · have braces := Selector.braces_of_mem_rules isBraced
      exact ⟨braces.1, braces.2.1⟩
  have excess := Css.braceExcess_ofSheet name (fun _ => AtBlock.isBraceFree_name) selectors
  have declarations := sum_braceExcess_rules text
  have blockExcess : (((StyleSheet.ofText text).mediaBlocks ++
      (StyleSheet.ofText text).animations.map Animation.definition).map Text.braceExcess).sum =
        (blocks.map fun block =>
          (block.strayBraces : Int) + Text.braceExcess block.heading.text).sum := by
    have found : (StyleSheet.ofText text).mediaBlocks ++
        (StyleSheet.ofText text).animations.map Animation.definition =
          blocks.map NestedBlock.text := written
    rw [found, List.map_map]
    refine congrArg List.sum (List.map_congr_left fun block within => ?_)
    rw [Function.comp_apply, (taken block within).braceExcess_text, add_comm]
  rw [Text.isBalanced_iff]
  change Text.braceExcess (Css.ofSheet (StyleSheet.ofText text)) = 0 ↔ _
  rw [excess, declarations, blockExcess]
  change (((AtBlock.customProperties text).map _).sum + _ + _ = 0) ↔ _
  omega

/-- A block nested two levels deep is captured without its last brace, and so a balanced
text gets a style sheet that is not. -/
theorem not_isBalanced_css_nested_twice :
    let text : Text := "@media (x) { .a { .b { c: d } } }"
    Text.IsBalanced text ∧
      ¬ Text.IsBalanced (GeneratedCode.ofSheet (StyleSheet.ofText text)).css := by
  decide

end DesignExport
