/-
# Reading a written sheet

A sheet is written for a browser, not for the scans, and yet the scans read it back:
every rule that holds no character that would end one of its parts is read as it was,
and the variables are the first ones found. The heading comment is cleaned away in
front of the first selector, the block of variables has a selector that names nothing,
and behind a rule the scan starts with the empty line that follows it.
-/

import DesignExport.Proofs.Sheet.BracedRules
import DesignExport.Proofs.Sheet.ComponentName
import DesignExport.Proofs.Sheet.DeclarationLines
import DesignExport.Proofs.Sheet.Variables
import DesignExport.Sheet.AtBlock
import Mathlib.Data.List.Infix

namespace DesignExport

/-! ## What is written -/

namespace Declaration

/-- A declaration that can stand in a braced rule: its two halves are trimmed and hold
nothing that would end it or the rule, and its property holds no colon. -/
structure FitsRule (declaration : Declaration) : Prop where
  property_trimmed : Text.trim declaration.property = declaration.property
  value_trimmed : Text.trim declaration.value = declaration.value
  property_clear : ∀ c ∈ declaration.property, c ≠ ';' ∧ c ≠ '{' ∧ c ≠ '}'
  value_clear : ∀ c ∈ declaration.value, c ≠ ';' ∧ c ≠ '{' ∧ c ≠ '}'
  noColon : ':' ∉ declaration.property

instance (declaration : Declaration) : Decidable declaration.FitsRule :=
  decidable_of_iff
    (Text.trim declaration.property = declaration.property ∧
      Text.trim declaration.value = declaration.value ∧
      (∀ c ∈ declaration.property, c ≠ ';' ∧ c ≠ '{' ∧ c ≠ '}') ∧
      (∀ c ∈ declaration.value, c ≠ ';' ∧ c ≠ '{' ∧ c ≠ '}') ∧ ':' ∉ declaration.property)
    ⟨fun ⟨property_trimmed, value_trimmed, property_clear, value_clear, noColon⟩ =>
      ⟨property_trimmed, value_trimmed, property_clear, value_clear, noColon⟩,
     fun fits => ⟨fits.property_trimmed, fits.value_trimmed, fits.property_clear,
      fits.value_clear, fits.noColon⟩⟩

theorem FitsRule.fitsSegment {declaration : Declaration} (fits : declaration.FitsRule) :
    declaration.FitsSegment :=
  { property_trimmed := fits.property_trimmed
    value_trimmed := fits.value_trimmed
    unended :=
      ⟨fun within => (fits.property_clear ';' within).1 rfl,
        fun within => (fits.value_clear ';' within).1 rfl⟩
    noColon := fits.noColon }

/-- The body of a written rule is read as the declarations that it was written with. -/
theorem ofRuleBody_writtenBody {declarations : List Declaration}
    (fit : ∀ declaration ∈ declarations, declaration.FitsRule) :
    ofRuleBody ('\n' :: Css.declarationLines declarations) = declarations := by
  have lineBreak : ∀ c ∈ ['\n'], Text.isBlank c = true := by decide
  calc
    ofRuleBody ('\n' :: Css.declarationLines declarations) =
        ofRuleBody (Css.declarationLines declarations) := ofRuleBody_blank_append lineBreak _
    _ = declarations :=
        ofRuleBody_declarationLines fun declaration within => (fit declaration within).fitsSegment

end Declaration

/-- A rule that is read as it was written: its selector is trimmed, begins no at-rule,
names a class, an identifier or a pseudo-element, and holds nothing that would end it or
begin a comment, and it has declarations. -/
structure StyleRule.IsReadable (rule : StyleRule) : Prop where
  trimmed : Text.trim rule.selector = rule.selector
  noAtRule : rule.selector.head? ≠ some '@'
  specific : '.' ∈ rule.selector ∨ '#' ∈ rule.selector ∨ [':', ':'] <:+: rule.selector
  clear : ∀ c ∈ rule.selector, c ≠ ';' ∧ c ≠ '{' ∧ c ≠ '}'
  noComment : ¬ ['/', '*'] <:+: rule.selector
  full : rule.declarations ≠ []
  fit : ∀ declaration ∈ rule.declarations, declaration.FitsRule

instance (rule : StyleRule) : Decidable rule.IsReadable :=
  decidable_of_iff
    (Text.trim rule.selector = rule.selector ∧ rule.selector.head? ≠ some '@' ∧
      ('.' ∈ rule.selector ∨ '#' ∈ rule.selector ∨
        Text.occurs [':', ':'] rule.selector = true) ∧
      (∀ c ∈ rule.selector, c ≠ ';' ∧ c ≠ '{' ∧ c ≠ '}') ∧
      ¬ Text.occurs ['/', '*'] rule.selector = true ∧ rule.declarations ≠ [] ∧
      ∀ declaration ∈ rule.declarations, declaration.FitsRule)
    ⟨fun ⟨trimmed, noAtRule, specific, clear, noComment, full, fit⟩ =>
      ⟨trimmed, noAtRule, by rwa [Text.occurs_iff_isInfix] at specific, clear,
        mt (Text.occurs_iff_isInfix _ _).mpr noComment, full, fit⟩,
     fun readable => ⟨readable.trimmed, readable.noAtRule,
      by rw [Text.occurs_iff_isInfix]; exact readable.specific, readable.clear,
      mt (Text.occurs_iff_isInfix _ _).mp readable.noComment, readable.full, readable.fit⟩⟩

/-- A variable that is read as it was written: an ASCII name, dashes included, and a
trimmed value that ends neither the declaration nor its block. -/
structure CustomProperty.IsReadable (property : CustomProperty) : Prop where
  name_full : property.name ≠ []
  name_plain : ∀ c ∈ property.name, ComponentName.isIdentifierChar c = true ∨ c = '-'
  value_trimmed : Text.trim property.value = property.value
  value_clear : ∀ c ∈ property.value, c ≠ ';' ∧ c ≠ '{' ∧ c ≠ '}'

instance (property : CustomProperty) : Decidable property.IsReadable :=
  decidable_of_iff
    (property.name ≠ [] ∧
      (∀ c ∈ property.name, ComponentName.isIdentifierChar c = true ∨ c = '-') ∧
      Text.trim property.value = property.value ∧
      ∀ c ∈ property.value, c ≠ ';' ∧ c ≠ '{' ∧ c ≠ '}')
    ⟨fun ⟨name_full, name_plain, value_trimmed, value_clear⟩ =>
      ⟨name_full, name_plain, value_trimmed, value_clear⟩,
     fun readable => ⟨readable.name_full, readable.name_plain, readable.value_trimmed,
      readable.value_clear⟩⟩

/-- A sheet of such rules and variables, without at-blocks. -/
structure StyleSheet.IsReadable (sheet : StyleSheet) : Prop where
  name : ComponentName.IsIdentifier sheet.componentName
  noMediaBlocks : sheet.mediaBlocks = []
  noAnimations : sheet.animations = []
  properties : ∀ property ∈ sheet.customProperties, property.IsReadable
  rules : ∀ rule ∈ sheet.rules, rule.IsReadable

instance (sheet : StyleSheet) : Decidable sheet.IsReadable :=
  decidable_of_iff
    (ComponentName.IsIdentifier sheet.componentName ∧
      sheet.mediaBlocks = [] ∧ sheet.animations = [] ∧
      (∀ property ∈ sheet.customProperties, property.IsReadable) ∧
      ∀ rule ∈ sheet.rules, rule.IsReadable)
    ⟨fun ⟨name, noMediaBlocks, noAnimations, properties, rules⟩ =>
      ⟨name, noMediaBlocks, noAnimations, properties, rules⟩,
     fun readable => ⟨readable.name, readable.noMediaBlocks, readable.noAnimations,
      readable.properties, readable.rules⟩⟩

/-! ## Reading the rules -/

namespace Css

/-- The comment at the beginning of a written sheet. -/
def header (name : Text) : Text := "/* " ++ name ++ " Component */\n\n"

/-- A rule as the scan for braced rules cuts it. -/
theorem ruleBlock_eq (selector : Text) (declarations : List Declaration) :
    ruleBlock selector declarations =
      (selector ++ [' ']) ++ '{' :: ('\n' :: declarationLines declarations) ++
        '}' :: ['\n', '\n'] := by
  delta ruleBlock
  simp

theorem not_mem_declarationLines {declarations : List Declaration}
    (clear : ∀ declaration ∈ declarations, '}' ∉ declaration.property ∧ '}' ∉ declaration.value) :
    '}' ∉ declarationLines declarations := by
  intro within
  obtain ⟨line, isLine, inLine⟩ := List.mem_flatten.mp within
  obtain ⟨declaration, isDeclaration, rfl⟩ := List.mem_map.mp isLine
  obtain ⟨property, value⟩ := clear declaration isDeclaration
  simp [declarationLine, property, value] at inLine

end Css

namespace Selector

open Css

/-- A text that is cleaned away in front of a selector. -/
def IsDropped (front : Text) : Prop :=
  ∀ raw, ¬ ['/', '*'] <:+: raw → (∀ c ∈ raw, c ≠ ';' ∧ c ≠ '}') →
    clean (front ++ raw) = Text.trim raw

/-- The empty line behind a rule is cleaned away. -/
theorem isDropped_lineBreaks : IsDropped ['\n', '\n'] := by
  intro raw noComment clear
  have blank : ∀ c ∈ ['\n', '\n'], Text.isBlank c = true := by decide
  rw [clean_eq_trim, Text.trim_blank_append blank]
  · exact Text.not_pair_isInfix_append (by decide) noComment (Or.inl (by decide))
  · intro c within
    rcases List.mem_append.mp within with inFront | inRaw
    · exact (by decide : ∀ c ∈ ['\n', '\n'], c ≠ ';' ∧ c ≠ '}') c inFront
    · exact clear c inRaw

theorem isDropped_header {name : Text} (plain : ComponentName.IsIdentifier name) :
    IsDropped (header name) := by
  intro raw noComment clear
  have noStar : '*' ∉ [' '] ++ name ++ (" Component " : Text) := by
    intro within
    have inName : '*' ∈ name := by simpa using within
    exact absurd (plain '*' inName) (by decide)
  have shape : header name ++ raw =
      '/' :: '*' :: ([' '] ++ name ++ (" Component " : Text)) ++ ['*', '/'] ++
        (['\n', '\n'] ++ raw) := by
    delta header
    simp
  rw [shape, clean_comment_append noStar, isDropped_lineBreaks raw noComment clear]

/-- Behind a text that is cleaned away, a written selector is kept with its declarations. -/
theorem ruleOf?_readable {rule : StyleRule} (readable : rule.IsReadable) {front : Text}
    (isDropped : IsDropped front) :
    ruleOf? (front ++ (rule.selector ++ [' ']), '\n' :: declarationLines rule.declarations) =
      some { rule with layer := none } := by
  have noComment : ¬ ['/', '*'] <:+: rule.selector ++ [' '] :=
    Text.not_pair_isInfix_append readable.noComment (by decide) (Or.inr (by decide))
  have unended : ∀ c ∈ rule.selector ++ [' '], c ≠ ';' ∧ c ≠ '}' := by
    intro c within
    rcases List.mem_append.mp within with inSelector | inBlank
    · exact ⟨(readable.clear c inSelector).1, (readable.clear c inSelector).2.2⟩
    · obtain rfl := List.mem_singleton.mp inBlank
      decide
  have cleaned : clean (front ++ (rule.selector ++ [' '])) = rule.selector := by
    rw [isDropped _ noComment unended, Text.trim_append_blank (by decide), readable.trimmed]
  have plain : isPlain rule.selector = true := by
    have full : rule.selector ≠ [] := by
      intro empty
      simpa [empty] using readable.specific
    obtain ⟨first, more, whole⟩ := List.exists_cons_of_ne_nil full
    have noAtRule : first ≠ '@' := by simpa [whole] using readable.noAtRule
    simp [isPlain, whole, List.isPrefixOf, Ne.symm noAtRule]
  have specific : isSpecific rule.selector = true := by
    have occurs : ∃ part ∈ ([['.'], ['#'], [':', ':']] : List Text),
        Text.occurs part rule.selector = true := by
      simp only [Text.occurs_iff_isInfix, List.exists_mem_cons_iff, List.singleton_infix_iff]
      simpa using readable.specific
    exact List.any_eq_true.mpr occurs
  simp only [ruleOf?, cleaned, plain, specific, Bool.and_self, if_true,
    Declaration.ofRuleBody_trim, Declaration.ofRuleBody_writtenBody readable.fit]

/-- A written rule is one pair, behind which the scan starts with the empty line. -/
theorem bracedFrom_ruleBlock {selector : Text} {declarations : List Declaration}
    (selectorClear : '{' ∉ selector) (linesClear : '}' ∉ declarationLines declarations)
    (head rest : Text) :
    bracedFrom head none (ruleBlock selector declarations ++ rest) =
      (head.reverse ++ (selector ++ [' ']), '\n' :: declarationLines declarations) ::
        bracedFrom ['\n', '\n'] none rest := by
  have shape : ruleBlock selector declarations ++ rest =
      (selector ++ [' ']) ++ '{' :: ('\n' :: declarationLines declarations) ++
        '}' :: (['\n', '\n'] ++ rest) := by
    simp [ruleBlock_eq]
  have goesOn : bracedFrom [] none (['\n', '\n'] ++ rest) = bracedFrom ['\n', '\n'] none rest :=
    bracedFrom_none_append (by decide) [] rest
  rw [shape, bracedFrom_rule (by simp [selectorClear]) (by simp) (by simp [linesClear])
    (List.cons_ne_nil _ _), goesOn]

/-- Written rules are read one by one. -/
theorem filterMap_bracedFrom_rules {rules : List StyleRule}
    (readable : ∀ rule ∈ rules, rule.IsReadable) {front : Text} (isDropped : IsDropped front) :
    (bracedFrom front.reverse none (rules.map ruleText).flatten).filterMap ruleOf? =
      rules.map fun rule => { rule with layer := none } := by
  induction rules generalizing front with
  | nil => rfl
  | cons rule rest ih =>
      obtain ⟨first, others⟩ := List.forall_mem_cons.mp readable
      have written : ruleText rule = ruleBlock rule.selector rule.declarations := by
        have full : rule.selector ≠ [] := by
          intro empty
          simpa [empty] using first.specific
        simp [ruleText, full, first.full]
      have selectorClear : '{' ∉ rule.selector := fun within => (first.clear '{' within).2.1 rfl
      have linesClear : '}' ∉ declarationLines rule.declarations := by
        refine not_mem_declarationLines fun declaration within => ?_
        have fits := first.fit declaration within
        exact ⟨fun inProperty => (fits.property_clear '}' inProperty).2.2 rfl,
          fun inValue => (fits.value_clear '}' inValue).2.2 rfl⟩
      rw [List.map_cons, List.flatten_cons, written,
        bracedFrom_ruleBlock selectorClear linesClear, List.reverse_reverse,
        List.filterMap_cons_some (ruleOf?_readable first isDropped), List.map_cons]
      exact congrArg _ (ih others isDropped_lineBreaks)

/-- The block of variables adds no rule. -/
theorem ruleOf?_root {front : Text} (isDropped : IsDropped front) (body : Text) :
    ruleOf? (front ++ ((":root" : Text) ++ [' ']), body) = none := by
  have cleaned : clean (front ++ ((":root" : Text) ++ [' '])) = Text.trim (":root " : Text) := by
    refine isDropped _ ?_ (by decide)
    rw [← Text.occurs_iff_isInfix]
    decide
  have nothing : isSpecific (Text.trim (":root " : Text)) = false := by decide
  simp only [ruleOf?, cleaned, nothing, Bool.and_false, Bool.false_eq_true, if_false]

/-- The rules of a written sheet are read back as they were, without labels. -/
theorem rules_ofSheet {sheet : StyleSheet} (readable : sheet.IsReadable) :
    rules (Css.ofSheet sheet) = sheet.rules.map fun rule => { rule with layer := none } := by
  have written : Css.ofSheet sheet =
      header sheet.componentName ++
        (variableBlock sheet.customProperties ++ (sheet.rules.map ruleText).flatten) := by
    delta Css.ofSheet header
    simp [readable.noMediaBlocks, readable.noAnimations]
  have headerClear : '{' ∉ header sheet.componentName := by
    have inName : '{' ∉ sheet.componentName := fun within =>
      absurd (readable.name '{' within) (by decide)
    delta header
    simp [inName]
  have headerDropped := isDropped_header readable.name
  rw [rules, braced, written, bracedFrom_none_append headerClear, List.append_nil, variableBlock]
  split
  · exact filterMap_bracedFrom_rules readable.rules headerDropped
  · have linesClear : '}' ∉ declarationLines
        (sheet.customProperties.map variableAsDeclaration) := by
      refine not_mem_declarationLines fun declaration within => ?_
      obtain ⟨property, isProperty, rfl⟩ := List.mem_map.mp within
      have plain := readable.properties property isProperty
      have inName : '}' ∉ property.name := fun within =>
        absurd (plain.name_plain '}' within) (by decide)
      exact ⟨by simp [variableAsDeclaration, inName],
        fun inValue => (plain.value_clear '}' inValue).2.2 rfl⟩
    rw [bracedFrom_ruleBlock (by decide) linesClear, List.reverse_reverse,
      List.filterMap_cons_none (ruleOf?_root headerDropped _)]
    exact filterMap_bracedFrom_rules readable.rules isDropped_lineBreaks

end Selector

/-! ## Reading the variables -/

namespace AtBlock

open Css

/-- ASCII letters, digits, underscores and dashes can stand in a variable's name. -/
theorem isNameChar_of_plain {c : Char}
    (plain : ComponentName.isIdentifierChar c = true ∨ c = '-') : isNameChar c = true := by
  rcases plain with identifier | rfl
  · rcases Bool.or_eq_true _ _ ▸ identifier with alphanum | underscore
    · have ascii : c.toNat < 128 := by
        have code : c.toNat = c.val.toNat := rfl
        rcases Text.isAlphanum_iff.mp alphanum with (upper | lower) | digit
        · have := Text.isUpper_iff.mp upper
          omega
        · have := Text.isLower_iff.mp lower
          omega
        · simp [Char.isDigit, UInt32.le_iff_toNat_le] at digit
          omega
      simp [isNameChar, Text.isWordChar, ascii, alphanum]
    · obtain rfl : c = '_' := by simpa using underscore
      decide
  · decide

/-- A variable begins with two dashes. -/
theorem variableDeclaration_eq_none {text : Text} (unopened : ¬ ['-', '-'] <+: text) :
    variableDeclaration text = none := by
  unfold variableDeclaration
  split
  · next rest => exact absurd ⟨rest, rfl⟩ unopened
  · rfl

/-- A text without dashes holds no variable. -/
theorem skips_of_no_dash {gap : Text} (noDash : '-' ∉ gap) (rest : Text) :
    variableDeclaration.Skips gap rest := by
  refine Pattern.skips_of_not_pair_isInfix (fun _ => variableDeclaration_eq_none) ?_ (Or.inl ?_)
  · exact fun within => noDash (within.subset List.mem_cons_self)
  · exact fun last => noDash (List.mem_of_getLast? last)

/-- A written variable up to its semicolon. -/
def variableText (property : CustomProperty) : Text :=
  '-' :: '-' :: property.name ++ ':' :: ' ' :: property.value ++ [';']

/-- A written variable is read as it was. -/
theorem variableDeclaration_append {property : CustomProperty} (readable : property.IsReadable)
    (rest : Text) :
    variableDeclaration (variableText property ++ rest) =
      some (property, (variableText property).length) := by
  let written : WrittenVariable := ⟨property.name, ' ' :: property.value⟩
  have blank : ∀ c ∈ [' '], Text.isBlank c = true := by decide
  have trimmed : Text.trim (' ' :: property.value) = property.value :=
    (Text.trim_blank_append blank property.value).trans readable.value_trimmed
  have taken : written.IsTaken := by
    refine ⟨readable.name_full, fun c within => isNameChar_of_plain (readable.name_plain c within),
      List.cons_ne_nil _ _, fun within => ?_⟩
    rcases List.mem_cons.mp within with isBlank | inValue
    · exact absurd isBlank (by decide)
    · exact (readable.value_clear ';' inValue).1 rfl
  have isRead : written.property = property := by
    rw [WrittenVariable.property, trimmed]
  have spelled : variableText property = written.text := rfl
  rw [spelled, taken.variableDeclaration_append, isRead]

/-- Written variables are found one by one, in front of those of the rest. -/
theorem all_declarationLines {properties : List CustomProperty}
    (readable : ∀ property ∈ properties, property.IsReadable) (rest : Text) :
    variableDeclaration.all (declarationLines (properties.map variableAsDeclaration) ++ rest) =
      properties ++ variableDeclaration.all rest := by
  induction properties with
  | nil => rfl
  | cons property others ih =>
      obtain ⟨first, later⟩ := List.forall_mem_cons.mp readable
      have shape : declarationLines ((property :: others).map variableAsDeclaration) ++ rest =
          [' ', ' '] ++ (variableText property ++ (['\n'] ++
            (declarationLines (others.map variableAsDeclaration) ++ rest))) := by
        simp [declarationLines, declarationLine, variableAsDeclaration, variableText]
      rw [shape, Pattern.all_append_of_skips (skips_of_no_dash (by decide) _),
        Pattern.all_append_of_match (by simp [variableText]) (variableDeclaration_append first _),
        Pattern.all_append_of_skips (skips_of_no_dash (by decide) _), ih later,
        List.cons_append]

/-- The variables of a written sheet are the first ones found in it. -/
theorem isPrefix_customProperties_ofSheet {sheet : StyleSheet} (readable : sheet.IsReadable) :
    sheet.customProperties <+: customProperties (Css.ofSheet sheet) := by
  by_cases none : sheet.customProperties = []
  · rw [none]
    exact List.nil_prefix
  · have written : Css.ofSheet sheet =
        (header sheet.componentName ++ (":root \x7b\n" : Text)) ++
          (declarationLines (sheet.customProperties.map variableAsDeclaration) ++
            (("\x7d\n\n" : Text) ++ (sheet.rules.map ruleText).flatten)) := by
      delta Css.ofSheet header variableBlock ruleBlock
      simp [readable.noMediaBlocks, readable.noAnimations, none]
    have noDash : '-' ∉ header sheet.componentName ++ (":root \x7b\n" : Text) := by
      have inName : '-' ∉ sheet.componentName := fun within =>
        absurd (readable.name '-' within) (by decide)
      delta header
      simp [inName]
    rw [customProperties, written, Pattern.all_append_of_skips (skips_of_no_dash noDash _),
      all_declarationLines readable.properties]
    exact List.prefix_append _ _

end AtBlock

/-- Reading undoes writing: the rules of a readable sheet are read back in order, and its
variables are the first ones that are found, in order. -/
theorem reads_written_sheet {sheet : StyleSheet} (readable : sheet.IsReadable) :
    Selector.rules (Css.ofSheet sheet) =
        sheet.rules.map (fun rule => { rule with layer := none }) ∧
      sheet.customProperties <+: AtBlock.customProperties (Css.ofSheet sheet) :=
  ⟨Selector.rules_ofSheet readable, AtBlock.isPrefix_customProperties_ofSheet readable⟩

/-- Two rules, one of them from a layer and one with a value that looks like a comment,
behind two variables; a third variable is found inside a rule. -/
theorem reads_written_sheet_two_rules :
    let sheet : StyleSheet :=
      { componentName := "Card_2"
        rules :=
          [⟨".card > a", [⟨"color", "var(--ink)"⟩, ⟨"", "/* x */"⟩], some "Card"⟩,
           ⟨"p::before", [⟨"--gap", "4px"⟩], none⟩]
        customProperties := [⟨"ink", "#fff"⟩, ⟨"-a-b", "url(x:y)"⟩] }
    Selector.rules (Css.ofSheet sheet) =
        [⟨".card > a", [⟨"color", "var(--ink)"⟩, ⟨"", "/* x */"⟩], none⟩,
         ⟨"p::before", [⟨"--gap", "4px"⟩], none⟩] ∧
      AtBlock.customProperties (Css.ofSheet sheet) =
        [⟨"ink", "#fff"⟩, ⟨"-a-b", "url(x:y)"⟩, ⟨"gap", "4px"⟩] := by
  intro sheet
  have readable : sheet.IsReadable := by decide
  exact ⟨(reads_written_sheet readable).1, by decide⟩

end DesignExport
