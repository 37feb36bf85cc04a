/-
# What the rules of a sheet can hold

However malformed a text is, a rule that is read off it keeps to its own place in a
written sheet. Its selector is trimmed and holds no brace and no semicolon, and its
declarations hold no closing brace, so the first closing brace of the written rule is
the rule's own.

Rules from layers and braced rules come from different scans. Labels and the lines of a
layer hold what their comment and their line leave in them; a braced rule ends where the
scan comes to its closing brace, and its body is split at semicolons.
-/

import DesignExport.Proofs.Sheet.NestedRules
import DesignExport.Proofs.Sheet.RuleBraces
import DesignExport.Proofs.Sheet.WrittenSheet

namespace DesignExport

namespace StyleRule

/-- A rule that keeps to its own place: a selector, and declarations that cannot end it. -/
structure IsContained (rule : StyleRule) : Prop where
  selector_full : rule.selector ≠ []
  selector_trimmed : Text.trim rule.selector = rule.selector
  selector_clear : ∀ c ∈ rule.selector, c ≠ '{' ∧ c ≠ '}' ∧ c ≠ ';'
  declarations : ∀ declaration ∈ rule.declarations, declaration.IsContained

/-- A rule of a layer with the label: the label can stand in a comment and means something. -/
structure IsLayered (rule : StyleRule) (label : Text) : Prop where
  label_full : label ≠ []
  label_trimmed : Text.trim label = label
  label_clear : '*' ∉ label
  label_plain : Layer.isNoise label = false
  declarations : ∀ declaration ∈ rule.declarations, declaration.IsLayered

/-- A braced rule: its selector begins no at-rule and names something, and its
declarations were split at semicolons. -/
structure IsBraced (rule : StyleRule) : Prop where
  plain : ¬ ['@'] <+: rule.selector
  specific : ['.'] <:+: rule.selector ∨ ['#'] <:+: rule.selector ∨ [':', ':'] <:+: rule.selector
  declarations : ∀ declaration ∈ rule.declarations, declaration.IsUnended

end StyleRule

/-! ## Layers -/

/-- The inside of a label comment holds no star. -/
theorem Layer.not_mem_of_comment {text inside : Text} {covered : Nat}
    (hit : Layer.comment text = some (inside, covered)) : '*' ∉ inside := by
  unfold Layer.comment at hit
  split at hit
  case h_2 => simp at hit
  case h_1 rest =>
  split at hit
  case h_2 => simp at hit
  case h_1 c label _ isInside _ =>
  obtain ⟨rfl, -⟩ := Prod.mk.inj (Option.some.inj hit)
  rw [← isInside]
  intro within
  simpa using List.mem_takeWhile_imp within

/-- The label of a layer can stand in a comment and means something. -/
theorem Layer.label_of_mem_ofText {text : Text} {layer : Layer} (isLayer : layer ∈ ofText text) :
    layer.label ≠ [] ∧ Text.trim layer.label = layer.label ∧ '*' ∉ layer.label ∧
      Layer.isNoise layer.label = false := by
  obtain ⟨pair, isFound, made⟩ := List.mem_filterMap.mp isLayer
  obtain ⟨later, covered, -, hit⟩ := Pattern.exists_of_mem_all (List.mem_map_of_mem isFound)
  have clear := Layer.not_mem_of_comment hit
  rw [ofPair?] at made
  split at made
  case isTrue => simp at made
  case isFalse kept =>
  obtain rfl := Option.some.inj made
  simp only [Bool.not_eq_true, Bool.or_eq_false_iff, List.isEmpty_eq_false_iff] at kept
  exact ⟨kept.1.1, Text.trim_trim pair.1, fun within => clear (Text.trim_subset _ within), kept.2⟩

/-- The class name of a label holds no blank, and nothing that would end a selector. -/
theorem Layer.clear_of_mem_className {label : Text} {c : Char}
    (within : c ∈ Layer.className label) :
    (c ≠ '{' ∧ c ≠ '}' ∧ c ≠ ';') ∧ Text.isBlank c = false := by
  have allowed := Layer.isClassChar_of_mem_className within
  refine ⟨⟨?_, ?_, ?_⟩, ?_⟩
  · rintro rfl
    exact absurd allowed (by decide)
  · rintro rfl
    exact absurd allowed (by decide)
  · rintro rfl
    exact absurd allowed (by decide)
  · rcases Bool.or_eq_true_iff.mp allowed with alphanum | dash
    · exact Text.isBlank_eq_false_of_isAlphanum alphanum
    · obtain rfl : c = '-' := by simpa using dash
      decide

namespace StyleRule

theorem isContained_of_mem_ofLayers {text : Text} {rule : StyleRule}
    (isRule : rule ∈ ofLayers text) :
    rule.IsContained ∧ ∃ label, rule.layer = some label ∧ rule.IsLayered label := by
  obtain ⟨layer, isLayer, selector, declarations, isLabel⟩ := exists_layer_of_mem_ofLayers isRule
  obtain ⟨full, trimmed, clear, plain⟩ := Layer.label_of_mem_ofText isLayer
  have each : ∀ declaration ∈ rule.declarations, declaration.FitsLine := by
    rw [declarations]
    exact fun declaration => Declaration.fitsLine_of_mem_ofLayerBody
  have selectorClear : ∀ c ∈ rule.selector,
      (c ≠ '{' ∧ c ≠ '}' ∧ c ≠ ';') ∧ Text.isBlank c = false := by
    rw [selector]
    exact List.forall_mem_cons.mpr ⟨by decide, fun c => Layer.clear_of_mem_className⟩
  constructor
  · exact
      { selector_full := by simp [selector]
        selector_trimmed := Text.stripOf_eq_self _
          (fun c head => (selectorClear c (List.mem_of_mem_head? head)).2)
          (fun c last => (selectorClear c (List.mem_of_getLast? last)).2)
        selector_clear := fun c within => (selectorClear c within).1
        declarations := fun declaration within => (each declaration within).contained }
  · exact ⟨layer.label, isLabel, full, trimmed, clear, plain,
      fun declaration within => (each declaration within).layered⟩

end StyleRule

/-! ## Braced rules -/

theorem Selector.isContained_of_mem_rules {text : Text} {rule : StyleRule}
    (isRule : rule ∈ rules text) : rule.IsContained ∧ rule.layer = none ∧ rule.IsBraced := by
  obtain ⟨pair, isRead, plain, specific, rfl⟩ := exists_pair_of_mem_rules isRule
  obtain ⟨headClear, bodyClear⟩ := not_mem_of_mem_braced isRead
  have each := fun declaration =>
    @Declaration.isContained_of_mem_ofRuleBody pair.2 bodyClear declaration
  refine ⟨?_, rfl, ?_⟩
  · exact
      { selector_full := ne_nil_of_isPlain plain
        selector_trimmed := Text.trim_trim _
        selector_clear := fun c within =>
          ⟨fun opening => headClear (opening ▸ clean_subset pair.1 within),
            (not_stop_of_mem_clean within).2, (not_stop_of_mem_clean within).1⟩
        declarations := fun declaration within => (each declaration within).1 }
  · refine ⟨?_, ?_, fun declaration within => (each declaration within).2⟩
    · exact fun atRule => by simp [isPlain, List.isPrefixOf_iff_prefix.mpr atRule] at plain
    · simpa [isSpecific, Text.occursAny, Text.occurs_iff_isInfix, or_assoc] using specific

/-! ## Written rules -/

/-- The first closing brace of a written rule is the one behind its declarations. -/
theorem Css.exists_ruleText_eq {rule : StyleRule} (contained : rule.IsContained)
    (full : rule.declarations ≠ []) :
    ∃ inside, '}' ∉ inside ∧
      ruleText rule = (rule.selector ++ [' ']) ++ '{' :: inside ++ '}' :: ['\n', '\n'] := by
  have written : ruleText rule = ruleBlock rule.selector rule.declarations := by
    rw [ruleText, if_neg (by simp [contained.selector_full, full])]
  have linesClear : '}' ∉ declarationLines rule.declarations :=
    not_mem_declarationLines fun declaration within =>
      ⟨(contained.declarations declaration within).property_unclosed,
        (contained.declarations declaration within).value_unclosed⟩
  exact ⟨'\n' :: declarationLines rule.declarations, by simp [linesClear],
    written.trans (ruleBlock_eq _ _)⟩

/-- Whatever text a sheet is read from, each of its rules keeps to its own place, a rule of a
layer to its lines and a braced rule to its body. So the first closing brace that is written
for a rule is the one that ends it. -/
theorem rules_ofText_contained {text : Text} {rule : StyleRule}
    (isRule : rule ∈ (StyleSheet.ofText text).rules) :
    rule.IsContained ∧
    (∀ label, rule.layer = some label → rule.IsLayered label) ∧
    (rule.layer = none → rule.IsBraced) ∧
    (rule.declarations ≠ [] →
      Css.ruleText rule <:+: Css.ofSheet (StyleSheet.ofText text) ∧
      ∃ inside, '}' ∉ inside ∧
        Css.ruleText rule = (rule.selector ++ [' ']) ++ '{' :: inside ++ '}' :: ['\n', '\n']) := by
  have isPrinted := Css.ruleText_isInfix_ofSheet isRule
  rcases List.mem_append.mp isRule with isLayer | isBraced
  · obtain ⟨contained, label, isLabel, layered⟩ := StyleRule.isContained_of_mem_ofLayers isLayer
    refine ⟨contained, fun other isOther => ?_, fun none => ?_,
      fun full => ⟨isPrinted, Css.exists_ruleText_eq contained full⟩⟩
    · obtain rfl := Option.some.inj (isLabel.symm.trans isOther)
      exact layered
    · simp [isLabel] at none
  · obtain ⟨contained, noLabel, braced⟩ := Selector.isContained_of_mem_rules isBraced
    refine ⟨contained, fun label isLabel => ?_, fun _ => braced,
      fun full => ⟨isPrinted, Css.exists_ruleText_eq contained full⟩⟩
    simp [noLabel] at isLabel

/-- A text in which a layer is cut off by a rule with a group inside, and the first rule is
not closed before the second. -/
theorem rules_ofText_contained_unclosed_group :
    let text : Text := "/* Card: top */\ncolor: red,\n  blue;\n.a \x7b .b \x7b c: d; e:f \x7d \x7d x; #g\x7bh:\x7d"
    let layered : StyleRule := ⟨".card--top", [⟨"color", "red, blue"⟩], some "Card: top"⟩
    let braced : StyleRule := ⟨".a", [⟨".b \x7b c", "d"⟩, ⟨"e", "f"⟩], none⟩
    (StyleSheet.ofText text).rules = [layered, braced, ⟨"#g", [⟨"h", ""⟩], none⟩] ∧
      layered.IsLayered "Card: top" ∧ braced.IsBraced ∧
      ∃ inside, '}' ∉ inside ∧
        Css.ruleText braced = (".a" ++ [' ']) ++ '{' :: inside ++ '}' :: ['\n', '\n'] := by
  intro text layered braced
  have isLayered : layered ∈ (StyleSheet.ofText text).rules := by decide
  have isBraced : braced ∈ (StyleSheet.ofText text).rules := by decide
  exact ⟨by decide, (rules_ofText_contained isLayered).2.1 _ rfl,
    (rules_ofText_contained isBraced).2.2.1 rfl,
    ((rules_ofText_contained isBraced).2.2.2 (by decide)).2⟩

end DesignExport
