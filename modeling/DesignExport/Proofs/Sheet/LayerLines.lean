/-
# The lines of a layer

A layer is read line by line. A line is passed over, begins a declaration, or goes on with
the declaration that is open. The loop over the lines is stated here as that: what a line
says, what it does to the open declaration, and which declaration it ends.

Reading is then one equation for a line and one for a run of lines. Statements about layers
are proved from these two and do not open the loop again.
-/

import DesignExport.Proofs.Braces
import DesignExport.Proofs.JoinedText
import DesignExport.Sheet.Declarations

namespace DesignExport

/-- A property as a line of a layer names it: it is trimmed and not empty, it holds no colon and
no brace, and no comment begins with it. -/
structure Text.IsProperty (property : Text) : Prop where
  named : property ≠ []
  trimmed : trim property = property
  noColon : ':' ∉ property
  free : IsBraceFree property
  noComment : ¬ ['/', '*'] <+: property

instance (property : Text) : Decidable (Text.IsProperty property) :=
  decidable_of_iff
    (property ≠ [] ∧ Text.trim property = property ∧ ':' ∉ property ∧
      Text.IsBraceFree property ∧ ¬ ['/', '*'] <+: property)
    ⟨fun ⟨named, trimmed, noColon, free, noComment⟩ => ⟨named, trimmed, noColon, free, noComment⟩,
     fun isProperty => ⟨isProperty.named, isProperty.trimmed, isProperty.noColon,
      isProperty.free, isProperty.noComment⟩⟩

/-! ## What a line says -/

/-- What a line of a layer says. -/
inductive LayerLine where
  /-- Nothing: the line is blank, or it belongs to a comment or to a braced rule. -/
  | skipped
  /-- A declaration begins. -/
  | beginning (property value : Text)
  /-- The value of the open declaration goes on. -/
  | continuing (more : Text)
deriving DecidableEq

namespace LayerLine

/-- A line that is looked at: it is not blank, and belongs to no comment and no braced rule. -/
def isSignificant (raw : Text) : Bool :=
  !((Text.trim raw).isEmpty || Declaration.isStructural (Text.trim raw))

/-- The meaning of a line: a colon begins a declaration. -/
def ofText (raw : Text) : LayerLine :=
  if isSignificant raw then
    match Text.cut ':' (Text.trim raw) with
    | (before, some after) => beginning (Text.trim before) (Text.trim after)
    | (_, none) => continuing (Text.trim raw)
  else skipped

variable {raw : Text}

theorem isStructural_eq_false_iff {line : Text} :
    Declaration.isStructural line = false ↔
      ¬ ['/', '*'] <+: line ∧ ¬ ['*', '/'] <:+ line ∧ Text.IsBraceFree line := by
  have opening : ("/*" : Text) = ['/', '*'] := rfl
  have closing : ("*/" : Text) = ['*', '/'] := rfl
  rw [← Bool.not_eq_true, Declaration.isStructural, opening, closing]
  simp only [Bool.or_eq_true, List.isPrefixOf_iff_prefix, List.isSuffixOf_iff_suffix,
    List.contains_iff_mem, Text.IsBraceFree, not_or, and_assoc]

theorem isSignificant_iff :
    isSignificant raw = true ↔
      Text.trim raw ≠ [] ∧ Declaration.isStructural (Text.trim raw) = false := by
  simp [isSignificant]

theorem ofText_of_not_isSignificant (passed : isSignificant raw = false) :
    ofText raw = skipped := by
  simp [ofText, passed]

/-- A line is split at its first colon, and its two halves are trimmed. -/
theorem ofText_of_colon (looked : isSignificant raw = true) {before after : Text}
    (whole : Text.trim raw = before ++ ':' :: after) (clear : ':' ∉ before) :
    ofText raw = beginning (Text.trim before) (Text.trim after) := by
  rw [ofText, if_pos looked, whole, Text.cut_append_mark clear]

theorem ofText_of_noColon (looked : isSignificant raw = true) (clear : ':' ∉ Text.trim raw) :
    ofText raw = continuing (Text.trim raw) := by
  rw [ofText, if_pos looked, Text.cut_of_not_mem clear]

/-- Every line says one of the three things. -/
theorem ofText_cases (raw : Text) :
    (isSignificant raw = false ∧ ofText raw = skipped) ∨
    (isSignificant raw = true ∧ ∃ before after, Text.trim raw = before ++ ':' :: after ∧
      ':' ∉ before ∧ ofText raw = beginning (Text.trim before) (Text.trim after)) ∨
    (isSignificant raw = true ∧ ':' ∉ Text.trim raw ∧ ofText raw = continuing (Text.trim raw)) := by
  by_cases looked : isSignificant raw = true
  · rcases Text.cut_cases ':' (Text.trim raw) with ⟨clear, -⟩ | ⟨before, after, whole, clear, -⟩
    · exact Or.inr (Or.inr ⟨looked, clear, ofText_of_noColon looked clear⟩)
    · exact Or.inr (Or.inl ⟨looked, before, after, whole, clear,
        ofText_of_colon looked whole clear⟩)
  · rw [Bool.not_eq_true] at looked
    exact Or.inl ⟨looked, ofText_of_not_isSignificant looked⟩

/-- Blanks around a line do not matter. -/
theorem ofText_congr {other : Text} (same : Text.trim raw = Text.trim other) :
    ofText raw = ofText other := by
  rw [ofText, ofText, isSignificant, isSignificant, same]

/-- A line with a property and a colon begins a declaration, unless what stands behind the
colon holds a brace or ends a comment. -/
theorem ofText_property {property value : Text} (isProperty : Text.IsProperty property)
    (free : Text.IsBraceFree value) (unclosed : ¬ ['*', '/'] <:+ Text.trim value) :
    ofText (property ++ ':' :: value) = beginning property (Text.trim value) := by
  obtain ⟨rest, trimmedLine, trimmed, isPrefix⟩ :=
    Text.exists_trim_append_cons isProperty.named isProperty.trimmed
      (by decide : Text.isBlank ':' = false) value
  have looked : isSignificant (property ++ ':' :: value) = true := by
    rw [isSignificant_iff, trimmedLine, isStructural_eq_false_iff]
    refine ⟨by simp, fun begins => ?_, fun ends => ?_, ?_⟩
    · exact isProperty.noComment ((Text.prefix_append_cons_iff (by decide) _ _).mp begins)
    · have endsRest := Text.isSuffix_of_append_cons (by decide) ends
      exact unclosed (trimmed ▸ Text.isSuffix_trim (by decide) endsRest)
    · have colon : Text.IsBraceFree [':'] := by decide
      have restFree := free.subset isPrefix.subset
      have parts := Text.isBraceFree_append.mpr
        ⟨isProperty.free, Text.isBraceFree_append.mpr ⟨colon, restFree⟩⟩
      simpa using parts
  rw [ofText_of_colon looked trimmedLine isProperty.noColon, isProperty.trimmed, trimmed]

theorem ofText_of_blank (blank : ∀ c ∈ raw, Text.isBlank c = true) : ofText raw = skipped := by
  have trimmed : Text.trim raw = [] := Text.trim_eq_nil_iff.mpr blank
  exact ofText_of_not_isSignificant (by simp [isSignificant, trimmed])

/-- A line with a brace belongs to a braced rule. -/
theorem ofText_of_brace (brace : ¬ Text.IsBraceFree raw) : ofText raw = skipped := by
  apply ofText_of_not_isSignificant
  rw [Bool.eq_false_iff, ne_eq, isSignificant_iff, isStructural_eq_false_iff]
  rintro ⟨-, -, -, free⟩
  refine brace ⟨fun within => free.1 ?_, fun within => free.2 ?_⟩
  · exact (Text.mem_trim_iff (by decide)).mpr within
  · exact (Text.mem_trim_iff (by decide)).mpr within

end LayerLine

/-! ## The open declaration -/

/-- The declaration that a line may still continue; there is none while the property is
empty. -/
structure OpenDeclaration where
  property : Text
  value : Text

namespace OpenDeclaration

/-- No declaration is open at the beginning of a layer. -/
def nothing : OpenDeclaration := ⟨[], []⟩

/-- What is read of the open declaration when it ends. -/
def finished (current : OpenDeclaration) : List Declaration :=
  Declaration.finished current.property current.value

/-- The open declaration behind a line. -/
def next (current : OpenDeclaration) : LayerLine → OpenDeclaration
  | .skipped => current
  | .beginning property value => ⟨property, value⟩
  | .continuing more =>
    if current.property.isEmpty then current
    else ⟨current.property, Text.trim (current.value ++ ' ' :: more)⟩

/-- The declaration that a line ends; only the beginning of another one does. -/
def ended (current : OpenDeclaration) : LayerLine → List Declaration
  | .beginning _ _ => current.finished
  | .skipped | .continuing _ => []

/-- The open declaration behind some lines. -/
def after (current : OpenDeclaration) (lines : List Text) : OpenDeclaration :=
  lines.foldl (fun current raw => current.next (LayerLine.ofText raw)) current

/-- The declarations that end within some lines. -/
def endedWithin (current : OpenDeclaration) : List Text → List Declaration
  | [] => []
  | raw :: rest =>
    current.ended (LayerLine.ofText raw) ++
      (current.next (LayerLine.ofText raw)).endedWithin rest

/-- The declarations that are read from here on to the end of the layer. -/
def readOn (current : OpenDeclaration) (lines : List Text) : List Declaration :=
  Declaration.ofLines current.property current.value lines

variable (current : OpenDeclaration)

theorem ofLayerBody_eq_readOn (body : Text) :
    Declaration.ofLayerBody body = nothing.readOn (Text.splitOn '\n' body) := rfl

@[simp] theorem readOn_nil : current.readOn [] = current.finished := rfl

theorem after_cons (raw : Text) (rest : List Text) :
    current.after (raw :: rest) = (current.next (LayerLine.ofText raw)).after rest := rfl

/-- A declaration without a property or without a value is none. -/
theorem finished_eq_nil (lacks : current.property = [] ∨ current.value = []) :
    current.finished = [] := by
  rcases lacks with noProperty | noValue
  · simp [finished, Declaration.finished, noProperty]
  · simp [finished, Declaration.finished, noValue]

theorem finished_of_full (named : current.property ≠ []) (valued : current.value ≠ []) :
    current.finished =
      [⟨Text.trim current.property, Text.trim (Declaration.dropSemicolon current.value)⟩] := by
  simp [finished, Declaration.finished, named, valued]

/-- One line of a layer. -/
theorem readOn_cons (raw : Text) (rest : List Text) :
    current.readOn (raw :: rest) =
      current.ended (LayerLine.ofText raw) ++
        (current.next (LayerLine.ofText raw)).readOn rest := by
  have passes : ((Text.trim raw).isEmpty || Declaration.isStructural (Text.trim raw)) =
      !LayerLine.isSignificant raw := (Bool.not_not _).symm
  rw [readOn, Declaration.ofLines]
  rcases LayerLine.ofText_cases raw with
    ⟨passed, meaning⟩ | ⟨looked, before, after, whole, clear, meaning⟩ | ⟨looked, clear, meaning⟩
  · simp only [passes, passed, meaning, Bool.not_false, if_true]
    rfl
  · have isCut : Text.cut ':' (Text.trim raw) = (before, some after) := by
      rw [whole, Text.cut_append_mark clear]
    simp only [passes, looked, meaning, isCut, Bool.not_true, Bool.false_eq_true, if_false]
    rfl
  · simp only [passes, looked, meaning, Text.cut_of_not_mem clear, Bool.not_true,
      Bool.false_eq_true, if_false, next, ended, List.nil_append]
    split <;> rfl

/-- A run of lines: what ends within it is read, and then what follows is read with the
declaration that the run leaves open. -/
theorem readOn_append (front rest : List Text) :
    current.readOn (front ++ rest) =
      current.endedWithin front ++ (current.after front).readOn rest := by
  induction front generalizing current with
  | nil => rfl
  | cons raw more ih =>
      rw [List.cons_append, readOn_cons, ih, endedWithin, after_cons, List.append_assoc]

/-- Lines up to the end of the layer. -/
theorem readOn_eq (lines : List Text) :
    current.readOn lines = current.endedWithin lines ++ (current.after lines).finished := by
  simpa using current.readOn_append lines []

theorem readOn_cons_of_skipped {raw : Text} (skipped : LayerLine.ofText raw = .skipped)
    (rest : List Text) : current.readOn (raw :: rest) = current.readOn rest := by
  rw [readOn_cons, skipped]
  rfl

/-- What every line keeps of the open declaration holds of each declaration when it ends. -/
theorem exists_finished_of_mem_readOn {P : OpenDeclaration → Prop} {lines : List Text}
    {declaration : Declaration}
    (kept : ∀ raw ∈ lines, ∀ pending : OpenDeclaration,
      P pending → P (pending.next (LayerLine.ofText raw)))
    {current : OpenDeclaration} (start : P current) (isRead : declaration ∈ current.readOn lines) :
    ∃ pending : OpenDeclaration, P pending ∧ declaration ∈ pending.finished := by
  induction lines generalizing current with
  | nil => exact ⟨current, start, isRead⟩
  | cons raw rest ih =>
      obtain ⟨first, others⟩ := List.forall_mem_cons.mp kept
      rw [readOn_cons, List.mem_append] at isRead
      rcases isRead with ends | later
      · -- Only the beginning of another declaration ends this one.
        cases meaning : LayerLine.ofText raw with
        | beginning property value =>
            rw [meaning] at ends
            exact ⟨current, start, ends⟩
        | skipped => simp [meaning, ended] at ends
        | continuing more => simp [meaning, ended] at ends
      · exact ih others (first current start) later

/-- A blank last line does not matter. -/
theorem readOn_concat_blank (lines : List Text) {last : Text}
    (blank : ∀ c ∈ last, Text.isBlank c = true) :
    current.readOn (lines ++ [last]) = current.readOn lines := by
  rw [readOn_append, readOn_cons_of_skipped _ (LayerLine.ofText_of_blank blank), readOn_nil,
    ← readOn_eq]

/-- Blanks and blank lines in front of what follows do not matter. -/
theorem readOn_splitOn_blank_append {lead : Text} (blank : ∀ c ∈ lead, Text.isBlank c = true)
    (rest : Text) :
    current.readOn (Text.splitOn '\n' (lead ++ rest)) =
      current.readOn (Text.splitOn '\n' rest) := by
  induction lead with
  | nil => rfl
  | cons c more ih =>
      obtain ⟨isBlank, moreBlank⟩ := List.forall_mem_cons.mp blank
      rw [List.cons_append, ← ih moreBlank]
      by_cases lineBreak : c = '\n'
      · subst lineBreak
        rw [← List.nil_append ('\n' :: _), Text.splitOn_append_cons (by simp),
          readOn_cons_of_skipped _ (LayerLine.ofText_of_blank (by simp))]
      · -- Otherwise the blank belongs to the first line, which is trimmed.
        obtain ⟨first, others, pieces⟩ :=
          List.exists_cons_of_ne_nil (Text.splitOn_ne_nil '\n' (more ++ rest))
        have longer : Text.splitOn '\n' (c :: (more ++ rest)) = (c :: first) :: others := by
          rw [Text.splitOn_eq_list_splitOn, List.splitOn_cons_eq_if_modifyHead,
            ← Text.splitOn_eq_list_splitOn, pieces]
          simp [lineBreak]
        have same : LayerLine.ofText (c :: first) = LayerLine.ofText first :=
          LayerLine.ofText_congr
            (Text.trim_blank_append (by simpa using isBlank : ∀ d ∈ [c], Text.isBlank d = true)
              first)
        rw [longer, pieces, readOn_cons, readOn_cons, same]

/-- Blanks and blank lines behind a text do not matter. -/
theorem readOn_splitOn_append_blank {trail : Text} (blank : ∀ c ∈ trail, Text.isBlank c = true)
    (text : Text) :
    current.readOn (Text.splitOn '\n' (text ++ trail)) = current.readOn (Text.splitOn '\n' text) := by
  induction trail generalizing text with
  | nil => rw [List.append_nil]
  | cons c more ih =>
      obtain ⟨isBlank, moreBlank⟩ := List.forall_mem_cons.mp blank
      have one : text ++ c :: more = text ++ [c] ++ more := by simp
      rw [one, ih moreBlank]
      by_cases lineBreak : c = '\n'
      · rw [lineBreak, Text.splitOn_append_mark]
        exact current.readOn_concat_blank (Text.splitOn '\n' text) (by simp)
      · -- Otherwise the blank belongs to the last line, which is trimmed.
        have same (last : Text) : LayerLine.ofText (last ++ [c]) = LayerLine.ofText last :=
          LayerLine.ofText_congr (Text.trim_append_blank (by simpa using isBlank) last)
        have lastLine {last : Text} (clear : '\n' ∉ last) :
            Text.splitOn '\n' (last ++ [c]) = [last ++ [c]] :=
          Text.splitOn_of_not_mem (by simp [clear, Ne.symm lineBreak])
        by_cases within : '\n' ∈ text
        · obtain ⟨front, last, rfl, clear⟩ := exists_last_of_mem within
          rw [List.append_assoc, List.cons_append, Text.splitOn_append_mark,
            Text.splitOn_append_mark, lastLine clear, Text.splitOn_of_not_mem clear, readOn_append,
            readOn_append, readOn_cons, readOn_cons, same]
        · rw [lastLine within, Text.splitOn_of_not_mem within, readOn_cons, readOn_cons, same]

/-- A value that goes on is not empty. -/
theorem value_next_continuing_ne_nil (named : current.property ≠ []) {more : Text}
    (full : Text.trim more ≠ []) : (current.next (.continuing more)).value ≠ [] := by
  intro empty
  have nothing : Text.trim (current.value ++ ' ' :: more) = [] := by simpa [next, named] using empty
  rw [Text.trim_eq_nil_iff, List.forall_mem_append, List.forall_mem_cons] at nothing
  exact full (Text.trim_eq_nil_iff.mpr nothing.2.2)

/-- A value that is joined from trimmed lines grows by one more of them. -/
theorem next_continuing {property : Text} (named : property ≠ []) {read : List Text}
    (readFull : ∀ row ∈ read, row ≠ []) (readTrimmed : ∀ row ∈ read, Text.trim row = row)
    {more : Text} (full : more ≠ []) (trimmed : Text.trim more = more) :
    (OpenDeclaration.mk property (Text.joinWith [' '] read)).next (.continuing more) =
      ⟨property, Text.joinWith [' '] (read ++ [more])⟩ := by
  have value : Text.trim (Text.joinWith [' '] read ++ ' ' :: more) =
      Text.joinWith [' '] (read ++ [more]) := by
    by_cases empty : read = []
    · have space : ∀ c ∈ [' '], Text.isBlank c = true := by decide
      rw [empty]
      simpa [Text.joinWith, trimmed] using Text.trim_blank_append space more
    · rw [Text.joinWith_append _ empty (List.cons_ne_nil _ _)]
      simpa [Text.joinWith] using
        Text.trim_append_of_trimmed (Text.joinWith_ne_nil _ empty readFull)
          (Text.trim_joinWith [' '] readFull readTrimmed) full trimmed [' ']
  simp [next, named, value]

end OpenDeclaration

/-- Trimming the text of a layer does not change its declarations. -/
theorem Declaration.ofLayerBody_trim (body : Text) :
    ofLayerBody (Text.trim body) = ofLayerBody body := by
  obtain ⟨lead, trail, leadBlank, trailBlank, whole⟩ :=
    Text.exists_eq_append_stripOf Text.isBlank body
  calc
    ofLayerBody (Text.trim body) = ofLayerBody (lead ++ Text.trim body ++ trail) := by
      simp only [OpenDeclaration.ofLayerBody_eq_readOn]
      rw [OpenDeclaration.readOn_splitOn_append_blank _ trailBlank,
        OpenDeclaration.readOn_splitOn_blank_append _ leadBlank]
    _ = ofLayerBody body := congrArg ofLayerBody whole.symm

end DesignExport
