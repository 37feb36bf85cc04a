/-
# Declarations that are written and read again

A style sheet is written with one declaration on a line. Both readers of declarations take
such lines back as the declarations they are, under conditions of their own: a rule's body is
cut at semicolons and colons only, a layer at line breaks, where a line must not look like
part of a comment or of a braced rule.

Whatever a reader returns meets its conditions. So writing what was read and reading it again
changes nothing, for any text at all: values with semicolons inside, empty halves of a
declaration, or values that were wrapped.
-/

import DesignExport.Code.Css
import DesignExport.Proofs.Sheet.Declarations

namespace DesignExport.Declaration

/-! ## Bodies of braced rules -/

/-- The lines of declarations are read as the declarations they are. -/
theorem ofRuleBody_declarationLines {declarations : List Declaration}
    (fit : ∀ declaration ∈ declarations, declaration.FitsSegment) :
    ofRuleBody (Css.declarationLines declarations) = declarations := by
  have lineBreak (body : Text) : ofRuleBody ('\n' :: body) = ofRuleBody body :=
    ofRuleBody_blank_append (by decide : ∀ c ∈ ['\n'], Text.isBlank c = true) body
  induction declarations with
  | nil => rfl
  | cons declaration rest ih =>
      obtain ⟨first, others⟩ := List.forall_mem_cons.mp fit
      -- The line break of a line belongs to the segment of the next one.
      have shape : Css.declarationLines (declaration :: rest) =
          ([' ', ' '] ++ declaration.property ++ ':' :: ' ' :: declaration.value) ++
            ';' :: ('\n' :: Css.declarationLines rest) := by
        simp [Css.declarationLines, Css.declarationLine]
      have clear : ';' ∉ [' ', ' '] ++ declaration.property ++ ':' :: ' ' :: declaration.value := by
        simp [first.unended.property, first.unended.value]
      have property : Text.trim ([' ', ' '] ++ declaration.property) = declaration.property :=
        (Text.trim_blank_append (by decide) _).trans first.property_trimmed
      have value : Text.trim (' ' :: declaration.value) = declaration.value :=
        (Text.trim_blank_append (by decide : ∀ c ∈ [' '], Text.isBlank c = true) _).trans
          first.value_trimmed
      rw [shape, ofRuleBody_append_semicolon, lineBreak, ih others, ofRuleBody_of_not_mem clear,
        ofSegment?_append_colon (by simp [first.noColon]), property, value]
      rfl

/-! ## Layers -/

variable {declaration : Declaration}

theorem FitsLine.isProperty (fits : declaration.FitsLine) :
    Text.IsProperty declaration.property where
  named := fits.layered.named
  trimmed := fits.contained.property_trimmed
  noColon := fits.contained.noColon
  free := ⟨fits.layered.property_clear.2, fits.contained.property_unclosed⟩
  noComment := fits.noComment

/-- The line of a declaration begins it, with the semicolon at the end of its value. -/
theorem FitsLine.ofText_line (fits : declaration.FitsLine) {lead : Text}
    (blank : ∀ c ∈ lead, Text.isBlank c = true) :
    LayerLine.ofText (lead ++ declaration.text ++ [';']) =
      .beginning declaration.property (declaration.value ++ [';']) := by
  have space : ∀ c ∈ [' '], Text.isBlank c = true := by decide
  have ending : Text.trim [';'] = [';'] := by decide
  have shape : declaration.text ++ [';'] =
      declaration.property ++ ':' :: ([' '] ++ (declaration.value ++ [';'])) := by
    simp [text]
  have value : Text.trim ([' '] ++ (declaration.value ++ [';'])) = declaration.value ++ [';'] := by
    rw [Text.trim_blank_append space]
    by_cases empty : declaration.value = []
    · rw [empty]
      exact ending
    · simpa using Text.trim_append_of_trimmed empty fits.contained.value_trimmed
        (List.cons_ne_nil _ _) ending []
  have free : Text.IsBraceFree ([' '] ++ (declaration.value ++ [';'])) := by
    simp [Text.IsBraceFree, fits.layered.value_clear.2, fits.contained.value_unclosed]
  have unclosed : ¬ ['*', '/'] <:+ declaration.value ++ [';'] := by
    rintro ⟨front, whole⟩
    have last := congrArg List.getLast? whole
    simp at last
  calc
    LayerLine.ofText (lead ++ declaration.text ++ [';']) =
        LayerLine.ofText (declaration.text ++ [';']) := by
      rw [List.append_assoc]
      exact LayerLine.ofText_congr (Text.trim_blank_append blank _)
    _ = .beginning declaration.property (declaration.value ++ [';']) := by
      rw [shape, LayerLine.ofText_property fits.isProperty free (by rwa [value]), value]

/-- Without the semicolon at the end of its value, a declaration is finished as it was. -/
theorem FitsLine.finished_line (fits : declaration.FitsLine) :
    (OpenDeclaration.mk declaration.property (declaration.value ++ [';'])).finished =
      [declaration] := by
  have withoutSemicolon : dropSemicolon (declaration.value ++ [';']) = declaration.value := by
    simp [dropSemicolon]
  rw [OpenDeclaration.finished_of_full _ fits.layered.named (by simp)]
  simp only [withoutSemicolon, fits.contained.property_trimmed, fits.contained.value_trimmed]

/-- The lines of declarations end the declaration before them and are read as what they are. -/
theorem readOn_lines {lead : Text} (blank : ∀ c ∈ lead, Text.isBlank c = true)
    {declarations : List Declaration} (fit : ∀ declaration ∈ declarations, declaration.FitsLine)
    (current : OpenDeclaration) :
    current.readOn (declarations.map fun declaration => lead ++ declaration.text ++ [';']) =
      current.finished ++ declarations := by
  induction declarations generalizing current with
  | nil => simp
  | cons declaration rest ih =>
      obtain ⟨first, others⟩ := List.forall_mem_cons.mp fit
      rw [List.map_cons, OpenDeclaration.readOn_cons, first.ofText_line blank]
      show current.finished ++ OpenDeclaration.readOn ⟨_, _⟩ _ = _
      rw [ih others, first.finished_line, List.singleton_append]

/-- In a style sheet, every line of a declaration is indented and has a line break. -/
theorem ofLayerBody_declarationLines {declarations : List Declaration}
    (fit : ∀ declaration ∈ declarations, declaration.FitsLine) :
    ofLayerBody (Css.declarationLines declarations) = declarations := by
  let line (declaration : Declaration) : Text := [' ', ' '] ++ declaration.text ++ [';']
  have unbroken : ∀ row ∈ declarations.map line, '\n' ∉ row := by
    refine List.forall_mem_map.mpr fun declaration within => ?_
    have layered := (fit declaration within).layered
    simp [line, text, layered.property_clear.1, layered.value_clear.1]
  have written (declaration : Declaration) :
      line declaration ++ ['\n'] = Css.declarationLine declaration := by
    simp [Css.declarationLine, line, text]
  have shape : (declarations.map line).flatMap (· ++ ['\n']) = Css.declarationLines declarations := by
    rw [List.flatMap_map, Css.declarationLines, ← List.flatMap_def]
    exact List.flatMap_congr fun declaration _ => written declaration
  have nothing : OpenDeclaration.nothing.finished = [] :=
    OpenDeclaration.nothing.finished_eq_nil (Or.inl rfl)
  rw [OpenDeclaration.ofLayerBody_eq_readOn, ← shape, Text.splitOn_flatMap_append_mark unbroken,
    OpenDeclaration.readOn_concat_blank _ _ (List.forall_mem_nil _),
    readOn_lines (by decide) fit, nothing, List.nil_append]

/-- Reading is stable under writing: the declarations of any rule's body and of any layer, on
lines of their own, are read as the same declarations. -/
theorem declarationLines_read_again (text : Text) :
    ofRuleBody (Css.declarationLines (ofRuleBody text)) = ofRuleBody text ∧
      ofLayerBody (Css.declarationLines (ofLayerBody text)) = ofLayerBody text := by
  exact ⟨ofRuleBody_declarationLines fun _ => fitsSegment_of_mem_ofRuleBody,
    ofLayerBody_declarationLines fun _ => fitsLine_of_mem_ofLayerBody⟩

end DesignExport.Declaration
