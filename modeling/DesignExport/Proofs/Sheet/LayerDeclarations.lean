/-
# The declarations that lines begin

A line with a colon begins a declaration, and the lines behind it that are looked at go on with
its value, up to the next one with a colon. So the declarations of a layer are found line by
line, each from the line that begins it and what follows, without a declaration that is open.

Whether a declaration is one is decided by the value as its lines give it. What is read of that
value lost one semicolon, and only then the blanks around it. So a value that is a lone
semicolon is read as nothing, and one with two semicolons at its end still ends with one.
-/

import DesignExport.Proofs.Sheet.Declarations
import DesignExport.Proofs.Sheet.LayerBoundaries

namespace DesignExport

open Text

namespace OpenDeclaration

/-! ## The lines of one declaration -/

/-- The lines that go on with a value: those that are looked at, up to the first with a colon. -/
def goingOn (lines : List Text) : List Text :=
  (lines.filter LayerLine.isSignificant).takeWhile fun raw => !raw.contains ':'

/-- The declaration as it is when it ends, behind the lines that go on with it. -/
def whole (current : OpenDeclaration) (lines : List Text) : OpenDeclaration :=
  current.withLine (joinedLines (goingOn lines))

/-- The declarations that some lines begin, each as it is when it ends. -/
def begunBy : List Text → List OpenDeclaration
  | [] => []
  | raw :: rest =>
    match LayerLine.ofText raw with
    | .beginning property value => (OpenDeclaration.mk property value).whole rest :: begunBy rest
    | .skipped | .continuing _ => begunBy rest

variable (current : OpenDeclaration)

/-- Lines that are passed over do not matter. -/
theorem readOn_filter (lines : List Text) :
    current.readOn (lines.filter LayerLine.isSignificant) = current.readOn lines := by
  induction lines generalizing current with
  | nil => rfl
  | cons raw rest ih =>
      cases looked : LayerLine.isSignificant raw with
      | true => rw [List.filter_cons_of_pos looked, readOn_cons, readOn_cons, ih]
      | false =>
          rw [List.filter_cons_of_neg (by simp [looked]), ih,
            readOn_cons_of_skipped _ (LayerLine.ofText_of_not_isSignificant looked)]

/-- No line goes on with a declaration that is not there. -/
theorem finished_whole_nothing (lines : List Text) : (nothing.whole lines).finished = [] := by
  apply finished_eq_nil
  rw [whole, withLine]
  split <;> exact Or.inl rfl

/-- A line that goes on with a value has no colon and is no part of a comment or of a rule. -/
theorem plain_of_mem_goingOn {lines : List Text} {raw : Text} (within : raw ∈ goingOn lines) :
    ':' ∉ raw ∧ Declaration.isStructural (trim raw) = false := by
  have isLooked := List.mem_filter.mp ((List.takeWhile_prefix _).subset within)
  have noColon := List.mem_takeWhile_imp within
  exact ⟨by simpa using noColon, (LayerLine.isSignificant_iff.mp isLooked.2).2⟩

/-- Behind the lines that go on with a value comes a boundary. -/
theorem exists_filter_eq_goingOn (lines : List Text) :
    ∃ back, lines.filter LayerLine.isSignificant = goingOn lines ++ back ∧ StartsAfresh back := by
  refine ⟨_, (List.takeWhile_append_dropWhile ..).symm, fun raw isFirst => ?_⟩
  have stops := List.head?_dropWhile_not (fun raw : Text => !raw.contains ':')
    (lines.filter LayerLine.isSignificant)
  have looked := List.dropWhile_sublist (l := lines.filter LayerLine.isSignificant)
    fun raw => !raw.contains ':'
  cases back : (lines.filter LayerLine.isSignificant).dropWhile fun raw => !raw.contains ':' with
  | nil =>
      rw [back] at isFirst
      simp at isFirst
  | cons first more =>
      rw [back] at stops looked isFirst
      rw [List.find?_cons_of_pos (List.mem_filter.mp (looked.subset List.mem_cons_self)).2] at isFirst
      obtain rfl := Option.some.inj isFirst
      simpa using stops

/-- The open declaration ends behind the lines that go on with it. All else is read as if no
declaration were open. -/
theorem readOn_eq_whole (lines : List Text) :
    current.readOn lines = (current.whole lines).finished ++ nothing.readOn lines := by
  obtain ⟨back, cut, afresh⟩ := exists_filter_eq_goingOn lines
  have cutUp (current : OpenDeclaration) :
      current.readOn lines = (current.whole lines).finished ++ nothing.readOn back := by
    obtain ⟨ended, after⟩ := current.after_of_plain fun _ => plain_of_mem_goingOn
    rw [← readOn_filter, cut, readOn_append, ended, after, List.nil_append,
      readOn_of_startsAfresh _ afresh]
    rfl
  rw [cutUp, cutUp nothing, finished_whole_nothing, List.nil_append]

/-- The lines of a layer are read as the declarations that they begin. -/
theorem readOn_nothing (lines : List Text) :
    nothing.readOn lines = (begunBy lines).flatMap finished := by
  induction lines with
  | nil => exact nothing.finished_eq_nil (Or.inl rfl)
  | cons raw rest ih =>
      have nothingEnds : nothing.finished = [] := nothing.finished_eq_nil (Or.inl rfl)
      cases meaning : LayerLine.ofText raw with
      | skipped => simp [readOn_cons_of_skipped _ meaning, begunBy, meaning, ih]
      | continuing more =>
          have nothingGoesOn : nothing.next (.continuing more) = nothing := rfl
          simp [readOn_cons, meaning, ended, nothingGoesOn, begunBy, ih]
      | beginning property value =>
          rw [readOn_cons, meaning, ended, nothingEnds, List.nil_append, next, readOn_eq_whole,
            begunBy, meaning, List.flatMap_cons, ih]

theorem trim_value_whole {current : OpenDeclaration} (trimmed : trim current.value = current.value)
    (lines : List Text) : trim (current.whole lines).value = (current.whole lines).value := by
  rw [whole, withLine]
  split
  · exact trimmed
  · rw [next]
    split
    · exact trimmed
    · exact trim_trim _

/-- The value of a declaration is trimmed when it ends. -/
theorem trim_value_of_mem_begunBy {lines : List Text} {written : OpenDeclaration}
    (isBegun : written ∈ begunBy lines) : trim written.value = written.value := by
  induction lines with
  | nil => simp [begunBy] at isBegun
  | cons raw rest ih =>
      rcases LayerLine.ofText_cases raw with
        ⟨-, meaning⟩ | ⟨-, before, after, -, -, meaning⟩ | ⟨-, -, meaning⟩
      · rw [begunBy, meaning] at isBegun
        exact ih isBegun
      · rw [begunBy, meaning, List.mem_cons] at isBegun
        rcases isBegun with rfl | later
        · exact trim_value_whole (trim_trim after) rest
        · exact ih later
      · rw [begunBy, meaning] at isBegun
        exact ih isBegun

end OpenDeclaration

/-! ## Semicolons at the end of a value -/

/-- The characters of a text that are no blanks. -/
def Text.withoutBlanks (text : Text) : Text := text.filter fun c => !isBlank c

theorem Text.withoutBlanks_trim (text : Text) : withoutBlanks (trim text) = withoutBlanks text := by
  obtain ⟨lead, trail, leadBlank, trailBlank, cut⟩ := exists_eq_append_stripOf isBlank text
  have none {blanks : Text} (blank : ∀ c ∈ blanks, isBlank c = true) : withoutBlanks blanks = [] :=
    List.filter_eq_nil_iff.mpr fun c within => by simp [blank c within]
  calc
    withoutBlanks (trim text) = withoutBlanks (lead ++ trim text ++ trail) := by
      simp only [withoutBlanks, List.filter_append] at none ⊢
      rw [none leadBlank, none trailBlank, List.nil_append, List.append_nil]
    _ = withoutBlanks text := congrArg withoutBlanks cut.symm

/-- A trimmed text ends with a character that is no blank. -/
theorem Text.withoutBlanks_of_trimmed {text : Text} (trimmed : trim text = text) :
    (withoutBlanks text = [] ↔ text = []) ∧
      (withoutBlanks text).getLast? = text.getLast? := by
  rcases List.eq_nil_or_concat text with rfl | ⟨front, c, rfl⟩
  · exact ⟨Iff.rfl, rfl⟩
  · have solid : isBlank c = false := (trim_eq_self_iff.mp trimmed).2 c (by simp)
    simp [withoutBlanks, solid]

namespace Declaration

/-- A declaration that says something: it has a property and a value, and no semicolon is left
at the end of the value. -/
structure IsComplete (declaration : Declaration) : Prop where
  named : declaration.property ≠ []
  valued : declaration.value ≠ []
  ended : declaration.value.getLast? ≠ some ';'

/-- A value with at most one semicolon at its end, and with more than that semicolon. Blanks
between semicolons do not matter. -/
structure IsEndedOnce (value : Text) : Prop where
  more : withoutBlanks value ≠ [';']
  once : ¬ [';', ';'] <:+ withoutBlanks value

/-- What stands in a value without its last semicolon. -/
theorem withoutBlanks_dropSemicolon {value : Text} (trimmed : trim value = value) :
    withoutBlanks (dropSemicolon value) = dropSemicolon (withoutBlanks value) := by
  rw [dropSemicolon, dropSemicolon, (withoutBlanks_of_trimmed trimmed).2]
  split
  · next semicolon =>
      obtain ⟨front, rfl⟩ := List.getLast?_eq_some_iff.mp semicolon
      have solid : isBlank ';' = false := by decide
      simp [withoutBlanks, solid]
  · rfl

/-- What is left of a text without one semicolon at its end. -/
theorem dropSemicolon_cases {text : Text} (full : text ≠ []) :
    dropSemicolon text ≠ [] ∧ (dropSemicolon text).getLast? ≠ some ';' ↔
      text ≠ [';'] ∧ ¬ [';', ';'] <:+ text := by
  by_cases semicolon : text.getLast? = some ';'
  · obtain ⟨front, rfl⟩ := List.getLast?_eq_some_iff.mp semicolon
    have twice : [';', ';'] <:+ front ++ [';'] ↔ front.getLast? = some ';' := by
      rw [List.getLast?_eq_some_iff]
      constructor
      · rintro ⟨before, same⟩
        refine ⟨before, ?_⟩
        have shape : before ++ [';', ';'] = (before ++ [';']) ++ [';'] := by simp
        rw [shape, List.append_cancel_right_eq] at same
        exact same.symm
      · rintro ⟨before, rfl⟩
        exact ⟨before, by simp⟩
    rw [OpenDeclaration.dropSemicolon_append_semicolon, twice]
    simp
  · have kept : dropSemicolon text = text := if_neg semicolon
    have other : ¬ [';', ';'] <:+ text := by
      rintro ⟨before, rfl⟩
      simp at semicolon
    have notLone : text ≠ [';'] := by
      rintro rfl
      simp at semicolon
    simp [kept, full, semicolon, other, notLone]

/-- What is read of a value has more than blanks and no semicolon at its end exactly when the
value is ended once. -/
theorem isEndedOnce_iff {value : Text} (full : value ≠ []) (trimmed : trim value = value) :
    trim (dropSemicolon value) ≠ [] ∧ (trim (dropSemicolon value)).getLast? ≠ some ';' ↔
      IsEndedOnce value := by
  obtain ⟨empty, last⟩ := withoutBlanks_of_trimmed (trim_trim (dropSemicolon value))
  have solid : withoutBlanks value ≠ [] := mt (withoutBlanks_of_trimmed trimmed).1.mp full
  rw [← last, ne_eq, ← empty, withoutBlanks_trim, withoutBlanks_dropSemicolon trimmed, ← ne_eq,
    dropSemicolon_cases solid]
  exact ⟨fun ⟨more, once⟩ => ⟨more, once⟩, fun ended => ⟨ended.more, ended.once⟩⟩

/-- The declarations of a layer are complete exactly when each value that its lines give to a
property is ended once: no value is a lone semicolon, and none has two semicolons at its end,
on one line or on several. -/
theorem ofLayerBody_complete_iff (body : Text) :
    (∀ declaration ∈ ofLayerBody body, declaration.IsComplete) ↔
      ∀ written ∈ OpenDeclaration.begunBy (splitOn '\n' body), written.property ≠ [] →
        IsEndedOnce written.value := by
  have read : ofLayerBody body =
      (OpenDeclaration.begunBy (splitOn '\n' body)).flatMap OpenDeclaration.finished :=
    OpenDeclaration.readOn_nothing _
  constructor
  · intro complete written isBegun named
    by_cases valued : written.value = []
    · constructor <;> simp [valued, withoutBlanks]
    · have isRead : ⟨trim written.property, trim (dropSemicolon written.value)⟩ ∈
          ofLayerBody body := by
        rw [read]
        refine List.mem_flatMap.mpr ⟨written, isBegun, ?_⟩
        rw [written.finished_of_full named valued]
        exact List.mem_singleton_self _
      have isComplete := complete _ isRead
      exact (isEndedOnce_iff valued (OpenDeclaration.trim_value_of_mem_begunBy isBegun)).mp
        ⟨isComplete.valued, isComplete.ended⟩
  · intro endedOnce declaration isRead
    have named := (fitsLine_of_mem_ofLayerBody isRead).layered.named
    rw [read] at isRead
    obtain ⟨written, isBegun, ends⟩ := List.mem_flatMap.mp isRead
    have full : written.property ≠ [] ∧ written.value ≠ [] := by
      by_contra lacks
      rw [written.finished_eq_nil (by tauto)] at ends
      simp at ends
    rw [written.finished_of_full full.1 full.2, List.mem_singleton] at ends
    obtain ⟨valued, ended⟩ :=
      (isEndedOnce_iff full.2 (OpenDeclaration.trim_value_of_mem_begunBy isBegun)).mpr
        (endedOnce written isBegun full.1)
    rw [ends] at named ⊢
    exact ⟨named, valued, ended⟩

/-- A value that is a lone semicolon is read as nothing, and of two semicolons one stays. -/
theorem not_isComplete_semicolons :
    let body : Text := "color: ;\nwidth: 1px;;"
    ofLayerBody body = [⟨"color", ""⟩, ⟨"width", "1px;"⟩] ∧
      ∀ declaration ∈ ofLayerBody body, ¬ declaration.IsComplete := by
  intro body
  have read : ofLayerBody body = [⟨"color", ""⟩, ⟨"width", "1px;"⟩] := by decide
  refine ⟨read, ?_⟩
  rw [read]
  refine List.forall_mem_cons.mpr ⟨fun complete => complete.valued rfl,
    List.forall_mem_singleton.mpr fun complete => complete.ended ?_⟩
  decide

end Declaration

end DesignExport
