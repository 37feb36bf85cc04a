/-
# The classes of a sheet

Whatever a text declares, the line of utility classes is put together from a fixed
stock: the classes of the table, and those that the rules of thumb give for radii,
padding and gaps. No text of a declaration goes into the line.
-/

import DesignExport.Code.Utility
import DesignExport.Proofs.JoinedText

namespace DesignExport

namespace Styling

/-- The rows of classes that the rules of thumb give. -/
def thumbRows : List Text :=
  ["rounded-full", "rounded-lg", "p-4", "py-3 px-6", "gap-2.5", "gap-2"]

/-- The single classes of the rules of thumb. -/
def thumbClasses : List Text :=
  ["rounded-full", "rounded-lg", "p-4", "py-3", "px-6", "gap-2.5", "gap-2"]

/-- The classes that there are: those of the table and those of the rules of thumb. -/
def vocabulary : List Text := table.map Prod.snd ++ thumbClasses

/-- The rows of classes that a declaration can be given; the empty one stands for none. -/
def rows : List Text := table.map Prod.snd ++ [] :: thumbRows

theorem classNames_byProperty (declaration : Declaration) :
    (byProperty declaration).classNames ∈ [] :: thumbRows := by
  rw [byProperty]
  split
  · rw [ofRadius]
    split <;> decide
  split
  · rw [ofPadding]
    split <;> decide
  split
  · rw [ofGap]
    split
    · decide
    · split <;> decide
  split
  · split <;> exact List.mem_cons_self
  split <;> exact List.mem_cons_self

/-- A declaration is given a class of the table, classes by a rule of thumb, or none. -/
theorem classNames_ofDeclaration (declaration : Declaration) :
    (ofDeclaration declaration).classNames ∈ rows := by
  rw [ofDeclaration]
  split
  · next row found =>
      exact List.mem_append_left _ (List.mem_map_of_mem (List.mem_of_find?_eq_some found))
  · exact List.mem_append_right _ (classNames_byProperty declaration)

end Styling

namespace UtilityStyle

/-- Every row of the line of classes is one that a declaration can be given. -/
theorem mem_rows {rules : List StyleRule} {row : Text}
    (isRow : row ∈ (((StyleRule.allDeclarations rules).map Styling.ofDeclaration).map
      Styling.classNames).filter fun names => !names.isEmpty) :
    row ∈ Styling.rows := by
  obtain ⟨styling, isStyling, rfl⟩ := List.mem_map.mp (List.mem_filter.mp isRow).1
  obtain ⟨declaration, -, rfl⟩ := List.mem_map.mp isStyling
  exact Styling.classNames_ofDeclaration declaration

/-- Every single class of a sheet is in the vocabulary. -/
theorem mem_vocabulary {rules : List StyleRule} {token : Text}
    (isToken : token ∈ Text.words (ofRules rules).mainClasses) : token ∈ Styling.vocabulary := by
  have stock : ∀ row ∈ Styling.rows,
      ∀ token ∈ Text.words row, token ∈ Styling.vocabulary := by decide +kernel
  change token ∈ Text.words (Text.joinWith [' '] _) at isToken
  rw [Text.words_joinWith (by decide)] at isToken
  obtain ⟨row, isRow, inRow⟩ := List.mem_flatMap.mp isToken
  exact stock row (mem_rows isRow) token inRow

/-- The line of classes has the characters of the rows, and blanks between them. -/
theorem forall_mem_mainClasses {p : Char → Prop} (blank : p ' ')
    (stock : ∀ row ∈ Styling.rows, ∀ c ∈ row, p c) {rules : List StyleRule} :
    ∀ c ∈ (ofRules rules).mainClasses, p c := by
  refine Text.forall_mem_joinWith ?_ fun row isRow => stock row (mem_rows isRow)
  intro c isBlank
  obtain rfl := List.mem_singleton.mp isBlank
  exact blank

end UtilityStyle

end DesignExport
