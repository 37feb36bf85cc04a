/-
# Braces in rules

The scan for braced rules ends a head at an opening brace and a body at a closing
one. A selector that it reads therefore holds no brace, and a declaration holds no
closing one, but a declaration can hold opening braces. A rule that comes from a
layer holds no brace at all, and neither does the name of a variable.
-/

import DesignExport.Proofs.Erasure
import DesignExport.Proofs.Sheet.BracedRules
import DesignExport.Proofs.Sheet.Declarations
import DesignExport.Proofs.Sheet.Variables
import DesignExport.Sheet.Reading

namespace DesignExport

namespace Selector

/-! ## Braced rules -/

/-- The scan remembers a head without opening braces and a body without closing ones. -/
structure Memory.IsClear (memory : Memory) : Prop where
  head : '{' ∉ memory.1
  body : ∀ body ∈ memory.2, '}' ∉ body

theorem Memory.IsClear.next {memory : Memory} (clear : memory.IsClear) (c : Char) :
    (memory.next c).IsClear := by
  obtain ⟨head, state⟩ := memory
  have headClear : '{' ∉ head := clear.head
  cases state with
  | none =>
      by_cases opens : c = '{'
      · by_cases empty : head = []
        · constructor <;> simp [Memory.next, opens, empty]
        · constructor <;> simp [Memory.next, opens, empty, headClear]
      · constructor <;> simp [Memory.next, opens, Ne.symm opens, headClear]
  | some body =>
      have bodyClear : '}' ∉ body := clear.body body rfl
      by_cases closes : c = '}'
      · by_cases empty : body = []
        · constructor <;> simp [Memory.next, closes, empty]
        · constructor <;> simp [Memory.next, closes, empty]
      · constructor <;> simp [Memory.next, closes, Ne.symm closes, headClear, bodyClear]

/-- A rule that ends is what the scan remembers. -/
theorem Memory.IsClear.of_mem_ended {memory : Memory} (clear : memory.IsClear) {c : Char}
    {pair : Text × Text} (ends : pair ∈ memory.ended c) : '{' ∉ pair.1 ∧ '}' ∉ pair.2 := by
  obtain ⟨head, state⟩ := memory
  cases state with
  | none => simp [Memory.ended] at ends
  | some body =>
      simp only [Memory.ended] at ends
      split at ends
      · simp at ends
      · obtain rfl := List.mem_singleton.mp ends
        exact ⟨by simpa using clear.head, by simpa using clear.body body rfl⟩

theorem Memory.IsClear.of_mem_bracedFrom {memory : Memory} (clear : memory.IsClear) {text : Text}
    {pair : Text × Text} (isRead : pair ∈ bracedFrom memory.1 memory.2 text) :
    '{' ∉ pair.1 ∧ '}' ∉ pair.2 := by
  induction text generalizing memory with
  | nil =>
      obtain ⟨head, state⟩ := memory
      cases state <;> simp [bracedFrom] at isRead
  | cons c rest ih =>
      rw [bracedFrom_cons] at isRead
      rcases List.mem_append.mp isRead with ends | isLater
      · exact clear.of_mem_ended ends
      · exact ih (clear.next c) isLater

/-- What stands in front of a brace holds no opening brace, and a body no closing one. -/
theorem not_mem_of_mem_braced {text : Text} {pair : Text × Text} (isRead : pair ∈ braced text) :
    '{' ∉ pair.1 ∧ '}' ∉ pair.2 := by
  have start : Memory.IsClear ([], none) := ⟨List.not_mem_nil, by simp⟩
  exact start.of_mem_bracedFrom isRead

theorem clean_subset (raw : Text) : clean raw ⊆ raw := by
  intro c within
  have isLast := (Text.afterLast_suffix _ _).subset (Text.trim_subset _ within)
  exact Pattern.erase_sublist raw |>.subset isLast

/-- Cleaning leaves no semicolon and no closing brace. -/
theorem not_stop_of_mem_clean {raw : Text} {c : Char} (within : c ∈ clean raw) :
    c ≠ ';' ∧ c ≠ '}' := by
  have kept := Text.eq_false_of_mem_afterLast (Text.trim_subset _ within)
  simpa using kept

/-- A kept rule has the cleaned selector of what the scan took, and the declarations of
the body behind it. -/
theorem exists_pair_of_mem_rules {text : Text} {rule : StyleRule} (isRule : rule ∈ rules text) :
    ∃ pair ∈ braced text, isPlain (clean pair.1) = true ∧ isSpecific (clean pair.1) = true ∧
      rule = { selector := clean pair.1, declarations := Declaration.ofRuleBody pair.2 } := by
  obtain ⟨pair, isRead, kept⟩ := List.mem_filterMap.mp isRule
  rw [ruleOf?, Declaration.ofRuleBody_trim] at kept
  split at kept
  case isFalse => simp at kept
  case isTrue isKept =>
  obtain ⟨plain, specific⟩ := Bool.and_eq_true_iff.mp isKept
  exact ⟨pair, isRead, plain, specific, (Option.some.inj kept).symm⟩

theorem ne_nil_of_isPlain {selector : Text} (plain : isPlain selector = true) : selector ≠ [] := by
  rintro rfl
  simp [isPlain] at plain

/-- A kept rule has a selector without braces, and no closing brace in its declarations. -/
theorem braces_of_mem_rules {text : Text} {rule : StyleRule} (isRule : rule ∈ rules text) :
    rule.selector ≠ [] ∧ Text.IsBraceFree rule.selector ∧
      ∀ declaration ∈ rule.declarations, '}' ∉ declaration.text := by
  obtain ⟨pair, isRead, plain, -, rfl⟩ := exists_pair_of_mem_rules isRule
  obtain ⟨headClear, bodyClear⟩ := not_mem_of_mem_braced isRead
  refine ⟨ne_nil_of_isPlain plain, ⟨?_, ?_⟩, fun declaration isDeclaration => ?_⟩
  · exact fun within => headClear (clean_subset pair.1 within)
  · exact fun within => (not_stop_of_mem_clean within).2 rfl
  · exact (Declaration.isContained_of_mem_ofRuleBody bodyClear isDeclaration).1.text_unclosed

end Selector

/-! ## Layers and variables -/

/-- The class name of a label is made of ASCII letters, digits and dashes. -/
theorem Layer.isClassChar_of_mem_className {label : Text} {c : Char}
    (within : c ∈ Layer.className label) : (c.isAlphanum || c == '-') = true := by
  obtain ⟨d, stripped, rfl⟩ := List.mem_map.mp within
  obtain ⟨e, -, rfl⟩ := List.mem_map.mp ((Text.stripOf_sublist _ _).subset stripped)
  split
  · next alphanum => simp [Text.isAlphanum_toLower alphanum]
  · rfl

/-- A rule of a layer has the class name of the label as its selector, and the declarations
of the layer. -/
theorem StyleRule.exists_layer_of_mem_ofLayers {text : Text} {rule : StyleRule}
    (isRule : rule ∈ StyleRule.ofLayers text) :
    ∃ layer ∈ Layer.ofText text, rule.selector = '.' :: Layer.className layer.label ∧
      rule.declarations = Declaration.ofLayerBody layer.body ∧ rule.layer = some layer.label := by
  obtain ⟨layer, isLayer, made⟩ := List.mem_filterMap.mp isRule
  rw [StyleRule.ofLayer?] at made
  split at made
  case h_1 => simp at made
  case h_2 first more isRead =>
  obtain rfl := Option.some.inj made
  exact ⟨layer, isLayer, rfl, isRead.symm, rfl⟩

/-- A rule of a layer holds no brace. -/
theorem StyleRule.braces_of_mem_ofLayers {text : Text} {rule : StyleRule}
    (isRule : rule ∈ StyleRule.ofLayers text) :
    rule.selector ≠ [] ∧ Text.IsBraceFree rule.selector ∧
      ∀ declaration ∈ rule.declarations, Text.IsBraceFree declaration.text := by
  obtain ⟨layer, -, selector, declarations, -⟩ := exists_layer_of_mem_ofLayers isRule
  have name : Text.IsBraceFree (Layer.className layer.label) :=
    Text.isBraceFree_of_forall (p := fun c => c.isAlphanum || c == '-') (by decide) (by decide)
      fun _ => Layer.isClassChar_of_mem_className
  rw [selector, declarations]
  refine ⟨List.cons_ne_nil _ _, ⟨by simp [name.1], by simp [name.2]⟩, ?_⟩
  intro declaration isDeclaration
  have fits := Declaration.fitsLine_of_mem_ofLayerBody isDeclaration
  exact fits.layered.isBraceFree_text fits.contained

/-- A variable's name is made of word characters and dashes. -/
theorem AtBlock.isNameChar_of_mem_name {text : Text} {property : CustomProperty}
    (isFound : property ∈ AtBlock.customProperties text) :
    ∀ c ∈ property.name, AtBlock.isNameChar c = true := by
  obtain ⟨-, -, written, taken, -, rfl⟩ := AtBlock.exists_of_mem_customProperties isFound
  exact taken.named

/-- No name of a variable holds a brace; its value may. -/
theorem AtBlock.isBraceFree_name {text : Text} {property : CustomProperty}
    (isFound : property ∈ AtBlock.customProperties text) : Text.IsBraceFree property.name :=
  Text.isBraceFree_of_forall (p := AtBlock.isNameChar) (by decide) (by decide)
    (AtBlock.isNameChar_of_mem_name isFound)

end DesignExport
