/-
# The class names of layers

The rule of a layer has a class for its selector, made from the layer's label. What the label
holds apart from ASCII letters and digits becomes dashes, and dashes at the ends go. So the
name never begins or ends with a dash, and it is empty exactly when the label holds no ASCII
letter and no digit: the labels that pass as labels include those of any other script.
-/

import DesignExport.Proofs.Sheet.Containment

namespace DesignExport

namespace Layer

/-- A name that a layer's class can have: small ASCII letters, digits and dashes, with no dash
at either end, and at least one character. -/
structure IsClassName (name : Text) : Prop where
  full : name ≠ []
  clear : ∀ c ∈ name, c.isLower = true ∨ c.isDigit = true ∨ c = '-'
  head : name.head? ≠ some '-'
  last : name.getLast? ≠ some '-'

instance (name : Text) : Decidable (IsClassName name) :=
  decidable_of_iff
    (name ≠ [] ∧ (∀ c ∈ name, c.isLower = true ∨ c.isDigit = true ∨ c = '-') ∧
      name.head? ≠ some '-' ∧ name.getLast? ≠ some '-')
    ⟨fun ⟨full, clear, head, last⟩ => ⟨full, clear, head, last⟩,
     fun isName => ⟨isName.full, isName.clear, isName.head, isName.last⟩⟩

/-- The label with its ASCII letters and digits as they are and dashes for the rest. -/
def dashed (label : Text) : Text := label.map fun c => if c.isAlphanum then c else '-'

theorem className_eq (label : Text) :
    className label = (Text.stripOf (· == '-') (dashed label)).map Char.toLower := rfl

theorem isAlphanum_of_mem_dashed {label : Text} {c : Char} (within : c ∈ dashed label) :
    c.isAlphanum = true ∨ c = '-' := by
  obtain ⟨d, -, rfl⟩ := List.mem_map.mp within
  split
  · next alphanum => exact Or.inl alphanum
  · exact Or.inr rfl

theorem mem_className_clear {label : Text} {c : Char} (within : c ∈ className label) :
    c.isLower = true ∨ c.isDigit = true ∨ c = '-' := by
  obtain ⟨d, kept, rfl⟩ := List.mem_map.mp within
  rcases isAlphanum_of_mem_dashed ((Text.stripOf_sublist _ _).subset kept) with alphanum | rfl
  · rcases Text.isLower_or_isDigit_toLower alphanum with lower | digit
    · exact Or.inl lower
    · exact Or.inr (Or.inl digit)
  · exact Or.inr (Or.inr rfl)

/-- Only a dash becomes a dash in lower case. -/
theorem eq_dash_of_toLower {c : Char} (dash : c.toLower = '-') : c = '-' := by
  have other : c.toLower.isAlphanum = false := by rw [dash]; rfl
  rw [← Text.toLower_eq_self_of_toLower other, dash]

theorem head?_className_ne_dash (label : Text) : (className label).head? ≠ some '-' := by
  intro dash
  rw [className_eq, List.head?_map, Option.map_eq_some_iff] at dash
  obtain ⟨c, isHead, lower⟩ := dash
  have kept := Text.of_head?_stripOf _ isHead
  simp [eq_dash_of_toLower lower] at kept

theorem getLast?_className_ne_dash (label : Text) : (className label).getLast? ≠ some '-' := by
  intro dash
  rw [className_eq, List.getLast?_map, Option.map_eq_some_iff] at dash
  obtain ⟨c, isLast, lower⟩ := dash
  have kept := Text.of_getLast?_stripOf _ isLast
  simp [eq_dash_of_toLower lower] at kept

/-- Nothing is left of a label in which no ASCII letter or digit stands, and of no other. -/
theorem className_eq_nil_iff {label : Text} :
    className label = [] ↔ ∀ c ∈ label, c.isAlphanum = false := by
  rw [className_eq, List.map_eq_nil_iff, Text.stripOf_eq_nil_iff, dashed, List.forall_mem_map]
  refine forall₂_congr fun c _ => ?_
  cases alphanum : c.isAlphanum with
  | false => simp
  | true =>
      have notDash : c ≠ '-' := fun dash => by simp [dash] at alphanum
      simpa using notDash

theorem isClassName_iff {label : Text} :
    IsClassName (className label) ↔ ∃ c ∈ label, c.isAlphanum = true := by
  have named : className label ≠ [] ↔ ∃ c ∈ label, c.isAlphanum = true := by
    simp [className_eq_nil_iff]
  rw [← named]
  exact ⟨fun isName => isName.full, fun full =>
    ⟨full, fun c => mem_className_clear, head?_className_ne_dash label,
      getLast?_className_ne_dash label⟩⟩

end Layer

/-- A selector that is the class of a layer: a dot and a class name. -/
def Selector.IsLayerClass (selector : Text) : Prop :=
  ∃ name, selector = '.' :: name ∧ Layer.IsClassName name

namespace StyleRule

theorem isLayerClass_iff_of_mem_ofLayers {text : Text} {rule : StyleRule}
    (isRule : rule ∈ ofLayers text) :
    Selector.IsLayerClass rule.selector ↔ ∃ label ∈ rule.layer, ∃ c ∈ label, c.isAlphanum := by
  obtain ⟨layer, -, selector, -, isLabel⟩ := exists_layer_of_mem_ofLayers isRule
  rw [selector, isLabel, Selector.IsLayerClass]
  simp [Layer.isClassName_iff]

/-- A layer makes a rule as soon as it has a declaration. -/
theorem exists_mem_ofLayers {text : Text} {layer : Layer} (isLayer : layer ∈ Layer.ofText text)
    (full : Declaration.ofLayerBody layer.body ≠ []) :
    ∃ rule ∈ ofLayers text, rule.layer = some layer.label := by
  obtain ⟨first, more, isRead⟩ := List.exists_cons_of_ne_nil full
  have made : ofLayer? layer =
      some ⟨'.' :: Layer.className layer.label, first :: more, some layer.label⟩ := by
    rw [ofLayer?, isRead]
  exact ⟨_, List.mem_filterMap.mpr ⟨layer, isLayer, made⟩, rfl⟩

/-- A layer without declarations makes no rule. -/
theorem declarations_ne_nil_of_mem_ofLayers {text : Text} {rule : StyleRule}
    (isRule : rule ∈ ofLayers text) : rule.declarations ≠ [] := by
  obtain ⟨layer, -, made⟩ := List.mem_filterMap.mp isRule
  rw [ofLayer?] at made
  split at made
  case h_1 => simp at made
  case h_2 first more _ =>
  obtain rfl := Option.some.inj made
  exact List.cons_ne_nil first more

/-- A rule whose label gives no name has the lone dot for its selector, and is written so. -/
theorem lone_dot_of_mem_ofLayers {text : Text} {rule : StyleRule} (isRule : rule ∈ ofLayers text)
    (unnamed : ¬ Selector.IsLayerClass rule.selector) :
    rule.selector = ['.'] ∧ ['.', ' ', '{', '\n'] <:+: Css.ofSheet (StyleSheet.ofText text) := by
  obtain ⟨layer, -, selector, -, isLabel⟩ := exists_layer_of_mem_ofLayers isRule
  have noName : Layer.className layer.label = [] := by
    rw [isLayerClass_iff_of_mem_ofLayers isRule, isLabel] at unnamed
    simpa [Layer.className_eq_nil_iff] using unnamed
  have loneDot : rule.selector = ['.'] := by rw [selector, noName]
  have full := declarations_ne_nil_of_mem_ofLayers isRule
  have written : Css.ruleText rule = Css.ruleBlock ['.'] rule.declarations := by
    rw [Css.ruleText, if_neg (by simp [loneDot, full]), loneDot]
  have isPrinted := @Css.ruleText_isInfix_ofSheet (StyleSheet.ofText text) rule
    (List.mem_append_left _ isRule)
  rw [written, Css.ruleBlock_eq] at isPrinted
  exact ⟨loneDot, List.IsInfix.trans ⟨[], _, rfl⟩ isPrinted⟩

/-- The rules of the layers have class selectors exactly when in the label of every layer with
a declaration an ASCII letter or digit stands. Any other rule has the lone dot for its selector,
and the written sheet holds it with its brace. -/
theorem selectors_ofLayers_isLayerClass_iff (text : Text) :
    ((∀ rule ∈ ofLayers text, Selector.IsLayerClass rule.selector) ↔
      ∀ layer ∈ Layer.ofText text, Declaration.ofLayerBody layer.body ≠ [] →
        ∃ c ∈ layer.label, c.isAlphanum = true) ∧
    ∀ rule ∈ ofLayers text, ¬ Selector.IsLayerClass rule.selector →
      rule.selector = ['.'] ∧ ['.', ' ', '{', '\n'] <:+: Css.ofSheet (StyleSheet.ofText text) := by
  refine ⟨⟨fun named layer isLayer full => ?_, fun named rule isRule => ?_⟩,
    fun rule => lone_dot_of_mem_ofLayers⟩
  · obtain ⟨rule, isRule, isLabel⟩ := exists_mem_ofLayers isLayer full
    simpa [isLabel] using (isLayerClass_iff_of_mem_ofLayers isRule).mp (named rule isRule)
  · obtain ⟨layer, isLayer, -, declarations, isLabel⟩ := exists_layer_of_mem_ofLayers isRule
    have full := declarations_ne_nil_of_mem_ofLayers isRule
    rw [declarations] at full
    rw [isLayerClass_iff_of_mem_ofLayers isRule, isLabel]
    exact ⟨layer.label, rfl, named layer isLayer full⟩

/-- A label in another script passes as a label, and no class is left of it. -/
theorem not_isLayerClass_other_script :
    let text : Text := "/* 按钮 */\ncolor: red;"
    ofLayers text = [⟨['.'], [⟨"color", "red"⟩], some "按钮"⟩] ∧
      ¬ ∀ rule ∈ ofLayers text, Selector.IsLayerClass rule.selector := by
  intro text
  have rules : ofLayers text = [⟨['.'], [⟨"color", "red"⟩], some "按钮"⟩] := by decide
  refine ⟨rules, fun named => ?_⟩
  rw [rules] at named
  obtain ⟨name, selector, isName⟩ := named _ List.mem_cons_self
  obtain rfl : [] = name := (List.cons.inj selector).2
  exact isName.full rfl

end StyleRule

end DesignExport
