/-
# Utility classes of rules put together

What becomes of a declaration depends on the declaration alone. So the classes and the
literal styles of a sheet are those of its declarations one after the other, wherever its
rules begin and end and whatever they select.

The classes pass through one line of text on their way. They are read back from it because
every row of classes that a declaration can be given is its words with single spaces
between them, and rows without a word are left out of the line.
-/

import DesignExport.Proofs.Code.UtilityClasses

namespace DesignExport

namespace Styling

/-- The single classes that a declaration is given. -/
def singleClasses (declaration : Declaration) : List Text :=
  Text.words (ofDeclaration declaration).classNames

/-- The literal styles that a declaration is kept as, at most one. -/
def literalStyles (declaration : Declaration) : List Text :=
  match ofDeclaration declaration with
  | style text => [text]
  | _ => []

/-- A declaration that has classes is not kept as a literal style. -/
theorem singleClasses_or_literalStyles (declaration : Declaration) :
    singleClasses declaration = [] ∨ literalStyles declaration = [] := by
  rw [singleClasses, literalStyles]
  cases ofDeclaration declaration with
  | classes names => exact .inr rfl
  | style text => exact .inl rfl
  | dropped => exact .inl rfl

theorem byProperty_ne_style_nil (declaration : Declaration) :
    byProperty declaration ≠ style [] := by
  rw [byProperty]
  split
  · rw [ofRadius]
    split <;> exact Styling.noConfusion
  split
  · rw [ofPadding]
    split <;> exact Styling.noConfusion
  split
  · rw [ofGap]
    split
    · exact Styling.noConfusion
    · split <;> exact Styling.noConfusion
  split
  · split <;> exact fun same => by simpa using Styling.style.inj same
  split
  · exact fun same => by simpa [Declaration.text] using Styling.style.inj same
  · exact Styling.noConfusion

/-- A literal style is never empty. -/
theorem ofDeclaration_ne_style_nil (declaration : Declaration) :
    ofDeclaration declaration ≠ style [] := by
  rw [ofDeclaration]
  split
  · exact Styling.noConfusion
  · exact byProperty_ne_style_nil declaration

/-- A row of classes is its words with single spaces between them. -/
theorem joinWith_words_of_mem_rows :
    ∀ row ∈ rows,
      Text.joinWith [' '] (Text.words row) = row ∧ (row ≠ [] → Text.words row ≠ []) := by
  decide +kernel

end Styling

namespace UtilityStyle

open Styling

/-- A style that has the classes and the literal styles of the declarations in their order,
and whose line is its classes with single spaces between them. -/
structure IsMadeOf (utility : UtilityStyle) (declarations : List Declaration) : Prop where
  classList : utility.classList = declarations.flatMap singleClasses
  customStyles : utility.customStyles = declarations.flatMap literalStyles
  line : utility.mainClasses = Text.joinWith [' '] utility.classList
  spaced : Text.IsSpaced utility.mainClasses

/-- The rows of classes that are put on the line. -/
def lineRows (declarations : List Declaration) : List Text :=
  ((declarations.map ofDeclaration).map classNames).filter fun names => !names.isEmpty

theorem mainClasses_ofRules (rules : List StyleRule) :
    (ofRules rules).mainClasses =
      Text.joinWith [' '] (lineRows (StyleRule.allDeclarations rules)) := rfl

/-- Every declaration adds its own classes to the line. -/
theorem classList_ofRules (rules : List StyleRule) :
    (ofRules rules).classList = (StyleRule.allDeclarations rules).flatMap singleClasses := by
  rw [UtilityStyle.classList, mainClasses_ofRules, Text.words_joinWith (by decide)]
  induction StyleRule.allDeclarations rules with
  | nil => rfl
  | cons declaration more ih =>
      rw [List.flatMap_cons, ← ih, lineRows, List.map_cons, List.map_cons, List.filter_cons,
        singleClasses]
      split
      · rfl
      · next empty =>
          -- a row without words is not put on the line
          have noClasses : (ofDeclaration declaration).classNames = [] := by simpa using empty
          rw [noClasses]
          rfl

/-- Every declaration adds its own literal style. -/
theorem customStyles_ofRules (rules : List StyleRule) :
    (ofRules rules).customStyles = (StyleRule.allDeclarations rules).flatMap literalStyles := by
  rw [ofRules]
  dsimp only
  induction StyleRule.allDeclarations rules with
  | nil => rfl
  | cons declaration more ih =>
      have full := ofDeclaration_ne_style_nil declaration
      rw [List.flatMap_cons, ← ih, List.map_cons, List.map_cons, literalStyles]
      generalize ofDeclaration declaration = styling at full ⊢
      cases styling with
      | style text =>
          have isFull : text ≠ [] := fun empty => full (congrArg style empty)
          exact List.filter_cons_of_pos (by simpa [literalStyle] using isFull)
      | classes | dropped => rfl

/-- The line is its classes with single spaces between them. -/
theorem mainClasses_eq_joinWith (rules : List StyleRule) :
    (ofRules rules).mainClasses = Text.joinWith [' '] (ofRules rules).classList := by
  have stock (row : Text) (isRow : row ∈ lineRows (StyleRule.allDeclarations rules)) :=
    joinWith_words_of_mem_rows row (mem_rows isRow)
  have full : ∀ words ∈ (lineRows (StyleRule.allDeclarations rules)).map Text.words,
      words ≠ [] := by
    refine List.forall_mem_map.mpr fun row isRow => (stock row isRow).2 ?_
    simpa using (List.mem_filter.mp isRow).2
  calc
    (ofRules rules).mainClasses
    _ = Text.joinWith [' '] (lineRows (StyleRule.allDeclarations rules)) := rfl
    _ = Text.joinWith [' '] (((lineRows (StyleRule.allDeclarations rules)).map Text.words).map
          (Text.joinWith [' '])) := by
      have same : ∀ row ∈ lineRows (StyleRule.allDeclarations rules),
          (Text.joinWith [' '] ∘ Text.words) row = row := fun row isRow => (stock row isRow).1
      rw [List.map_map, List.map_congr_left same, List.map_id']
    _ = Text.joinWith [' '] ((lineRows (StyleRule.allDeclarations rules)).map Text.words).flatten :=
      Text.joinWith_map_joinWith [' '] full
    _ = Text.joinWith [' '] (ofRules rules).classList := by
      rw [UtilityStyle.classList, mainClasses_ofRules, Text.words_joinWith (by decide),
        List.flatMap_def]

theorem isMadeOf_ofRules (rules : List StyleRule) :
    (ofRules rules).IsMadeOf (StyleRule.allDeclarations rules) where
  classList := classList_ofRules rules
  customStyles := customStyles_ofRules rules
  line := mainClasses_eq_joinWith rules
  spaced := by
    rw [mainClasses_eq_joinWith]
    exact Text.isSpaced_joinWith fun _ => Text.clear_of_mem_words

/-- The classes and the literal styles of rules that are put together are those of the first
ones and behind them those of the others. They are made of the declarations alone: one rule
with any selector that holds all of them gives the same. No declaration adds both to the
classes and to the literal styles. -/
theorem ofRules_of_declarations (first second : List StyleRule) (selector : Text)
    (layer : Option Text) :
    (ofRules (first ++ second)).classList =
        (ofRules first).classList ++ (ofRules second).classList ∧
      (ofRules (first ++ second)).customStyles =
        (ofRules first).customStyles ++ (ofRules second).customStyles ∧
      ofRules first = ofRules [⟨selector, StyleRule.allDeclarations first, layer⟩] ∧
      (ofRules first).IsMadeOf (StyleRule.allDeclarations first) ∧
      ∀ declaration, singleClasses declaration = [] ∨ literalStyles declaration = [] := by
  have together : StyleRule.allDeclarations (first ++ second) =
      StyleRule.allDeclarations first ++ StyleRule.allDeclarations second :=
    List.flatMap_append
  have oneRule : StyleRule.allDeclarations
      [⟨selector, StyleRule.allDeclarations first, layer⟩] = StyleRule.allDeclarations first :=
    List.flatMap_singleton ..
  refine ⟨?_, ?_, ?_, isMadeOf_ofRules first, singleClasses_or_literalStyles⟩
  · rw [classList_ofRules, together, List.flatMap_append, classList_ofRules, classList_ofRules]
  · rw [customStyles_ofRules, together, List.flatMap_append, customStyles_ofRules,
      customStyles_ofRules]
  · rw [ofRules, ofRules, oneRule]

end UtilityStyle

end DesignExport
