/-
# Declarations and the text they come from

The body of a braced rule is read segment by segment, and every segment on its
own: a semicolon separates two bodies, and blanks around a segment do not
matter. A layer is read line by line, and every line keeps what holds of the declaration
that is open; lines with a brace are passed over. From both follows which characters a
declaration can hold.
-/

import DesignExport.Proofs.Sheet.LayerLines

namespace DesignExport

namespace Declaration

/-! ## Bodies of braced rules -/

/-- A segment is cut at its first colon, and its two halves are trimmed. -/
theorem ofSegment?_append_colon {before : Text} (clear : ':' ∉ before) (after : Text) :
    ofSegment? (before ++ ':' :: after) = some ⟨Text.trim before, Text.trim after⟩ := by
  rw [ofSegment?, Text.cut_append_mark clear]

theorem ofSegment?_of_not_mem {segment : Text} (clear : ':' ∉ segment) :
    ofSegment? segment = none := by
  rw [ofSegment?, Text.cut_of_not_mem clear]

/-- Blanks around a segment do not matter. -/
theorem ofSegment?_append_blank {lead trail : Text}
    (leadBlank : ∀ c ∈ lead, Text.isBlank c = true)
    (trailBlank : ∀ c ∈ trail, Text.isBlank c = true) (segment : Text) :
    ofSegment? (lead ++ segment ++ trail) = ofSegment? segment := by
  have leadClear := Text.not_mem_of_blank (by decide : Text.isBlank ':' = false) leadBlank
  have trailClear := Text.not_mem_of_blank (by decide : Text.isBlank ':' = false) trailBlank
  rcases Text.cut_cases ':' segment with ⟨clear, -⟩ | ⟨before, after, rfl, clear, -⟩
  · rw [ofSegment?_of_not_mem clear, ofSegment?_of_not_mem]
    simp [leadClear, trailClear, clear]
  · have whole : lead ++ (before ++ ':' :: after) ++ trail =
        (lead ++ before) ++ ':' :: (after ++ trail) := by simp
    rw [whole, ofSegment?_append_colon (by simp [leadClear, clear]),
      ofSegment?_append_colon clear, Text.trim_blank_append leadBlank,
      Text.trim_append_blank trailBlank]

/-- A semicolon ends a declaration: what stands before it and behind it is read apart. -/
theorem ofRuleBody_append_semicolon (before after : Text) :
    ofRuleBody (before ++ ';' :: after) = ofRuleBody before ++ ofRuleBody after := by
  rw [ofRuleBody, Text.splitOn_append_mark, List.filterMap_append]
  rfl

/-- A body without a semicolon is one segment. -/
theorem ofRuleBody_of_not_mem {body : Text} (clear : ';' ∉ body) :
    ofRuleBody body = (ofSegment? body).toList := by
  rw [ofRuleBody, Text.splitOn_of_not_mem clear]
  cases read : ofSegment? body with
  | none => simp [read]
  | some declaration => simp [read]

theorem ofRuleBody_segment_append_blank {lead trail segment : Text}
    (leadBlank : ∀ c ∈ lead, Text.isBlank c = true)
    (trailBlank : ∀ c ∈ trail, Text.isBlank c = true) (clear : ';' ∉ segment) :
    ofRuleBody (lead ++ segment ++ trail) = ofRuleBody segment := by
  have leadClear := Text.not_mem_of_blank (by decide : Text.isBlank ';' = false) leadBlank
  have trailClear := Text.not_mem_of_blank (by decide : Text.isBlank ';' = false) trailBlank
  rw [ofRuleBody_of_not_mem clear, ofRuleBody_of_not_mem (by simp [leadClear, clear, trailClear]),
    ofSegment?_append_blank leadBlank trailBlank]

/-- Blanks in front of a body belong to its first segment, which is trimmed. -/
theorem ofRuleBody_blank_append {lead : Text} (leadBlank : ∀ c ∈ lead, Text.isBlank c = true)
    (body : Text) : ofRuleBody (lead ++ body) = ofRuleBody body := by
  have single {segment : Text} (clear : ';' ∉ segment) :
      ofRuleBody (lead ++ segment) = ofRuleBody segment := by
    simpa using @ofRuleBody_segment_append_blank lead [] segment leadBlank (by simp) clear
  by_cases within : ';' ∈ body
  · obtain ⟨first, after, rfl, clear⟩ := List.eq_append_cons_of_mem within
    rw [← List.append_assoc, ofRuleBody_append_semicolon, single clear,
      ofRuleBody_append_semicolon]
  · exact single within

/-- Blanks behind a body belong to its last segment, which is trimmed. -/
theorem ofRuleBody_append_blank {trail : Text} (trailBlank : ∀ c ∈ trail, Text.isBlank c = true)
    (body : Text) : ofRuleBody (body ++ trail) = ofRuleBody body := by
  have single {segment : Text} (clear : ';' ∉ segment) :
      ofRuleBody (segment ++ trail) = ofRuleBody segment := by
    simpa using @ofRuleBody_segment_append_blank [] trail segment (by simp) trailBlank clear
  by_cases within : ';' ∈ body
  · obtain ⟨before, last, rfl, clear⟩ := exists_last_of_mem within
    rw [List.append_assoc, List.cons_append, ofRuleBody_append_semicolon, single clear,
      ofRuleBody_append_semicolon]
  · exact single within

/-- Trimming a body does not change its declarations. -/
theorem ofRuleBody_trim (body : Text) : ofRuleBody (Text.trim body) = ofRuleBody body := by
  obtain ⟨lead, trail, leadBlank, trailBlank, whole⟩ :=
    Text.exists_eq_append_stripOf Text.isBlank body
  calc
    ofRuleBody (Text.trim body) = ofRuleBody (lead ++ Text.trim body ++ trail) := by
      rw [ofRuleBody_append_blank trailBlank, ofRuleBody_blank_append leadBlank]
    _ = ofRuleBody body := congrArg ofRuleBody whole.symm

/-- Every declaration of a body comes from a segment that is cut at its first colon. -/
theorem exists_segment_of_mem_ofRuleBody {body : Text} {declaration : Declaration}
    (isRead : declaration ∈ ofRuleBody body) :
    ∃ before after, before ++ ':' :: after ∈ Text.splitOn ';' body ∧ ':' ∉ before ∧
      declaration = ⟨Text.trim before, Text.trim after⟩ := by
  obtain ⟨segment, isSegment, read⟩ := List.mem_filterMap.mp isRead
  rcases Text.cut_cases ':' segment with ⟨clear, -⟩ | ⟨before, after, rfl, clear, -⟩
  · rw [ofSegment?_of_not_mem clear] at read
    exact absurd read (by simp)
  · rw [ofSegment?_append_colon clear, Option.some.injEq] at read
    exact ⟨before, after, isSegment, clear, read.symm⟩

/-- Both halves of a declaration hold characters of the body only, and no semicolon. -/
theorem mem_of_mem_ofRuleBody {body : Text} {declaration : Declaration}
    (isRead : declaration ∈ ofRuleBody body) {c : Char}
    (within : c ∈ declaration.property ∨ c ∈ declaration.value) : c ∈ body ∧ c ≠ ';' := by
  obtain ⟨before, after, isSegment, -, rfl⟩ := exists_segment_of_mem_ofRuleBody isRead
  apply Text.mem_and_ne_of_mem_splitOn isSegment
  rcases within with inProperty | inValue
  · simp [Text.trim_subset before inProperty]
  · simp [Text.trim_subset after inValue]

/-! ## Declarations that keep to their place -/

/-- A declaration that cannot end its rule: its halves are trimmed and hold no closing
brace, and the colon behind its property is the first one. -/
structure IsContained (declaration : Declaration) : Prop where
  property_trimmed : Text.trim declaration.property = declaration.property
  value_trimmed : Text.trim declaration.value = declaration.value
  property_unclosed : '}' ∉ declaration.property
  value_unclosed : '}' ∉ declaration.value
  noColon : ':' ∉ declaration.property

/-- A declaration of a layer names a property, and it stands on one line and in no group. -/
structure IsLayered (declaration : Declaration) : Prop where
  named : declaration.property ≠ []
  property_clear : '\n' ∉ declaration.property ∧ '{' ∉ declaration.property
  value_clear : '\n' ∉ declaration.value ∧ '{' ∉ declaration.value

/-- A declaration that holds no semicolon. -/
structure IsUnended (declaration : Declaration) : Prop where
  property : ';' ∉ declaration.property
  value : ';' ∉ declaration.value

/-- A declaration that is one segment of a rule's body: its halves are trimmed and hold no
semicolon, and the colon behind its property is the first one. -/
structure FitsSegment (declaration : Declaration) : Prop where
  property_trimmed : Text.trim declaration.property = declaration.property
  value_trimmed : Text.trim declaration.value = declaration.value
  unended : declaration.IsUnended
  noColon : ':' ∉ declaration.property

/-- A declaration that is one line of a layer: it keeps to its line, and the line does not
begin a comment. -/
structure FitsLine (declaration : Declaration) : Prop where
  contained : declaration.IsContained
  layered : declaration.IsLayered
  noComment : ¬ ['/', '*'] <+: declaration.property

/-- A declaration holds a closing brace only where one of its halves does. -/
theorem IsContained.text_unclosed {declaration : Declaration}
    (contained : declaration.IsContained) : '}' ∉ declaration.text := by
  simp [Declaration.text, contained.property_unclosed, contained.value_unclosed]

/-- A declaration of a layer holds no brace at all. -/
theorem IsLayered.isBraceFree_text {declaration : Declaration} (layered : declaration.IsLayered)
    (contained : declaration.IsContained) : Text.IsBraceFree declaration.text := by
  refine ⟨?_, contained.text_unclosed⟩
  simp [Declaration.text, layered.property_clear.2, layered.value_clear.2]

/-- Whatever is read in a body is one segment of a body. -/
theorem fitsSegment_of_mem_ofRuleBody {body : Text} {declaration : Declaration}
    (isRead : declaration ∈ ofRuleBody body) : declaration.FitsSegment := by
  have kept {c : Char} := mem_of_mem_ofRuleBody isRead (c := c)
  obtain ⟨before, after, -, clear, rfl⟩ := exists_segment_of_mem_ofRuleBody isRead
  exact
    { property_trimmed := Text.trim_trim before
      value_trimmed := Text.trim_trim after
      unended := ⟨fun within => (kept (.inl within)).2 rfl, fun within => (kept (.inr within)).2 rfl⟩
      noColon := fun within => clear (Text.trim_subset before within) }

/-- A body without closing braces gives declarations that keep to their place. -/
theorem isContained_of_mem_ofRuleBody {body : Text} (unclosed : '}' ∉ body)
    {declaration : Declaration} (isRead : declaration ∈ ofRuleBody body) :
    declaration.IsContained ∧ declaration.IsUnended := by
  have fits := fitsSegment_of_mem_ofRuleBody isRead
  have contained : declaration.IsContained :=
    { property_trimmed := fits.property_trimmed
      value_trimmed := fits.value_trimmed
      property_unclosed := fun within => unclosed (mem_of_mem_ofRuleBody isRead (.inl within)).1
      value_unclosed := fun within => unclosed (mem_of_mem_ofRuleBody isRead (.inr within)).1
      noColon := fits.noColon }
  exact ⟨contained, fits.unended⟩

/-! ## Layers -/

theorem dropSemicolon_subset (value : Text) : dropSemicolon value ⊆ value := by
  rw [dropSemicolon]
  split
  · exact List.dropLast_subset value
  · exact List.Subset.refl value

end Declaration

namespace OpenDeclaration

/-- What is open while a layer is read: a property that a colon has ended, and nothing from
another line, from a comment or from a group. -/
structure IsPending (current : OpenDeclaration) : Prop where
  trimmed : Text.trim current.property = current.property
  noColon : ':' ∉ current.property
  noComment : ¬ ['/', '*'] <+: current.property
  property_clear : '\n' ∉ current.property ∧ Text.IsBraceFree current.property
  value_clear : '\n' ∉ current.value ∧ Text.IsBraceFree current.value

variable {current : OpenDeclaration}

theorem isPending_nothing : nothing.IsPending := by
  constructor <;> simp [nothing, Text.trim, Text.stripOf, Text.IsBraceFree]

/-- A line that is looked at holds no brace and no comment, and neither do its parts. -/
theorem IsPending.next (pending : current.IsPending) {raw : Text} (isLine : '\n' ∉ raw) :
    (current.next (LayerLine.ofText raw)).IsPending := by
  have unbroken : '\n' ∉ Text.trim raw := fun within => isLine (Text.trim_subset raw within)
  rcases LayerLine.ofText_cases raw with
    ⟨-, meaning⟩ | ⟨looked, before, after, whole, clear, meaning⟩ | ⟨looked, -, meaning⟩
  · rwa [meaning]
  · obtain ⟨noComment, -, free⟩ :=
      LayerLine.isStructural_eq_false_iff.mp (LayerLine.isSignificant_iff.mp looked).2
    have front : Text.trim before ⊆ Text.trim raw := fun c within => by
      rw [whole]
      simp [Text.trim_subset before within]
    have behind : Text.trim after ⊆ Text.trim raw := fun c within => by
      rw [whole]
      simp [Text.trim_subset after within]
    -- The line begins with its property.
    have begins : Text.trim before <+: Text.trim raw := by
      have unblank : ∀ c ∈ before.head?, Text.isBlank c = false := by
        intro c isHead
        refine (Text.trim_eq_self_iff.mp (Text.trim_trim raw)).1 c ?_
        rw [whole]
        exact List.mem_head?_append_of_mem_head? isHead
      rw [whole]
      exact (Text.trim_isPrefix unblank).trans (List.prefix_append _ _)
    rw [meaning]
    exact
      { trimmed := Text.trim_trim before
        noColon := fun within => clear (Text.trim_subset before within)
        noComment := fun opens => noComment (opens.trans begins)
        property_clear := ⟨fun within => unbroken (front within), free.subset front⟩
        value_clear := ⟨fun within => unbroken (behind within), free.subset behind⟩ }
  · obtain ⟨-, -, free⟩ :=
      LayerLine.isStructural_eq_false_iff.mp (LayerLine.isSignificant_iff.mp looked).2
    rw [meaning, OpenDeclaration.next]
    split
    · exact pending
    · have glued := Text.trim_subset (current.value ++ ' ' :: Text.trim raw)
      have gluedFree : Text.IsBraceFree (current.value ++ ' ' :: Text.trim raw) := by
        constructor
        · simp [pending.value_clear.2.1, free.1]
        · simp [pending.value_clear.2.2, free.2]
      refine { pending with value_clear := ⟨fun within => ?_, gluedFree.subset glued⟩ }
      simpa [pending.value_clear.1, unbroken] using glued within

/-- A declaration that ends is one line of a layer. -/
theorem IsPending.fitsLine (pending : current.IsPending) {declaration : Declaration}
    (isRead : declaration ∈ current.finished) : declaration.FitsLine := by
  have full : current.property ≠ [] ∧ current.value ≠ [] := by
    by_contra lacks
    rw [current.finished_eq_nil (by tauto)] at isRead
    simp at isRead
  rw [current.finished_of_full full.1 full.2, List.mem_singleton, pending.trimmed] at isRead
  subst isRead
  have kept : Text.trim (Declaration.dropSemicolon current.value) ⊆ current.value :=
    List.Subset.trans (Text.trim_subset _) (Declaration.dropSemicolon_subset current.value)
  exact
    { contained :=
        { property_trimmed := pending.trimmed
          value_trimmed := Text.trim_trim _
          property_unclosed := pending.property_clear.2.2
          value_unclosed := fun within => pending.value_clear.2.2 (kept within)
          noColon := pending.noColon }
      layered :=
        { named := full.1
          property_clear := ⟨pending.property_clear.1, pending.property_clear.2.1⟩
          value_clear := ⟨fun within => pending.value_clear.1 (kept within),
            fun within => pending.value_clear.2.1 (kept within)⟩ }
      noComment := pending.noComment }

end OpenDeclaration

/-- Whatever is read in a layer is one line of a layer. -/
theorem Declaration.fitsLine_of_mem_ofLayerBody {body : Text} {declaration : Declaration}
    (isRead : declaration ∈ ofLayerBody body) : declaration.FitsLine := by
  rw [OpenDeclaration.ofLayerBody_eq_readOn] at isRead
  have kept : ∀ raw ∈ Text.splitOn '\n' body, ∀ pending : OpenDeclaration,
      pending.IsPending → (pending.next (LayerLine.ofText raw)).IsPending :=
    fun raw isLine _ pending => pending.next fun within =>
      (Text.mem_and_ne_of_mem_splitOn isLine within).2 rfl
  obtain ⟨current, pending, ends⟩ :=
    OpenDeclaration.exists_finished_of_mem_readOn kept OpenDeclaration.isPending_nothing isRead
  exact pending.fitsLine ends

end DesignExport
