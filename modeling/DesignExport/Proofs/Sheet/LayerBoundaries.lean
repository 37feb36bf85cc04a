/-
# What stands below a layer

A layer is read line by line, and the declaration that is open at the end of one text may go on
in the text below it. Two texts one below the other are read apart, whatever stands above,
exactly when the first line below that is looked at begins a declaration.

The lines of a braced rule are looked at too, except those with a brace. So the lines of a
selector in front of its last one are taken as lines of the open value. All of them together
act as one such line, and the layer above is read as before only if that line says nothing, if
no declaration is open, or if the line is the semicolon that the open value lacked.
-/

import DesignExport.Proofs.Sheet.LayerLines

namespace DesignExport

open Text

namespace OpenDeclaration

/-! ## Boundaries between declarations -/

/-- Lines that begin at a boundary: the first one that is looked at, if there is one, has a
colon. -/
def StartsAfresh (lines : List Text) : Prop :=
  ∀ raw ∈ lines.find? LayerLine.isSignificant, ':' ∈ raw

/-- At a boundary the open declaration ends, and what follows is read as if nothing stood
above. -/
theorem readOn_of_startsAfresh (current : OpenDeclaration) {lines : List Text}
    (afresh : StartsAfresh lines) :
    current.readOn lines = current.finished ++ nothing.readOn lines := by
  induction lines generalizing current with
  | nil => simp [nothing.finished_eq_nil (Or.inl rfl)]
  | cons raw rest ih =>
      rcases LayerLine.ofText_cases raw with
        ⟨passed, meaning⟩ | ⟨-, before, after, -, -, meaning⟩ | ⟨looked, noColon, -⟩
      · have later : StartsAfresh rest := by
          simpa [StartsAfresh, passed] using afresh
        rw [readOn_cons_of_skipped _ meaning, readOn_cons_of_skipped _ meaning, ih current later]
      · have nothingEnds : nothing.finished = [] := nothing.finished_eq_nil (Or.inl rfl)
        simp only [readOn_cons, meaning, ended, next, nothingEnds, List.nil_append]
      · have colon : ':' ∈ raw := by simpa [StartsAfresh, looked] using afresh
        exact absurd ((mem_trim_iff (by decide)).mpr colon) noColon

/-- An open declaration with a value is read as one declaration more. -/
theorem length_readOn_of_full {current : OpenDeclaration} (named : current.property ≠ [])
    (valued : current.value ≠ []) (lines : List Text) :
    (current.readOn lines).length = (nothing.readOn lines).length + 1 := by
  induction lines generalizing current with
  | nil => simp [finished_of_full _ named valued, nothing.finished_eq_nil (Or.inl rfl)]
  | cons raw rest ih =>
      rcases LayerLine.ofText_cases raw with
        ⟨-, meaning⟩ | ⟨-, before, after, -, -, meaning⟩ | ⟨looked, -, meaning⟩
      · rw [readOn_cons_of_skipped _ meaning, readOn_cons_of_skipped _ meaning, ih named valued]
      · have nothingEnds : nothing.finished = [] := nothing.finished_eq_nil (Or.inl rfl)
        simp [readOn_cons, meaning, ended, next, nothingEnds, finished_of_full _ named valued,
          Nat.add_comm]
      · have full : trim (trim raw) ≠ [] := by
          rw [trim_trim]
          exact (LayerLine.isSignificant_iff.mp looked).1
        have nothingGoesOn : nothing.next (.continuing (trim raw)) = nothing := rfl
        simp only [readOn_cons, meaning, ended, nothingGoesOn, List.nil_append]
        exact ih (by simp [next, named]) (current.value_next_continuing_ne_nil named full)

/-- Anywhere else, a property without a value finds its value below. -/
theorem length_readOn_of_not_startsAfresh {property : Text} (named : property ≠ [])
    {lines : List Text} (inside : ¬ StartsAfresh lines) :
    ((OpenDeclaration.mk property []).readOn lines).length = (nothing.readOn lines).length + 1 := by
  induction lines with
  | nil => simp [StartsAfresh] at inside
  | cons raw rest ih =>
      rcases LayerLine.ofText_cases raw with
        ⟨passed, meaning⟩ | ⟨looked, before, after, whole, -, -⟩ | ⟨looked, -, meaning⟩
      · have later : ¬ StartsAfresh rest := by
          simpa [StartsAfresh, passed] using inside
        rw [readOn_cons_of_skipped _ meaning, readOn_cons_of_skipped _ meaning, ih later]
      · have noColon : ':' ∉ raw := by simpa [StartsAfresh, looked] using inside
        have colon : ':' ∈ trim raw := by simp [whole]
        exact absurd (trim_subset raw colon) noColon
      · have full := (LayerLine.isSignificant_iff.mp looked).1
        have space : ∀ c ∈ [' '], isBlank c = true := by decide
        have value : trim ([] ++ ' ' :: trim raw) = trim raw :=
          (trim_blank_append space (trim raw)).trans (trim_trim raw)
        have nothingGoesOn : nothing.next (.continuing (trim raw)) = nothing := rfl
        have goesOn : (OpenDeclaration.mk property []).next (.continuing (trim raw)) =
            ⟨property, trim raw⟩ := by
          simp only [next, value]
          simp [named]
        simp only [readOn_cons, meaning, ended, nothingGoesOn, goesOn, List.nil_append]
        exact length_readOn_of_full named full rest

end OpenDeclaration

namespace Declaration

open OpenDeclaration

/-- The lines of two texts one below the other are read one after the other. -/
theorem ofLayerBody_append_lineBreak (body rest : Text) :
    ofLayerBody (body ++ '\n' :: rest) =
      nothing.endedWithin (splitOn '\n' body) ++
        (nothing.after (splitOn '\n' body)).readOn (splitOn '\n' rest) := by
  rw [ofLayerBody_eq_readOn, splitOn_append_mark, readOn_append]

/-- Two texts one below the other are read apart, whatever stands above, exactly when the
lower one begins at a boundary between declarations. -/
theorem ofLayerBody_append_iff (rest : Text) :
    (∀ body, ofLayerBody (body ++ '\n' :: rest) = ofLayerBody body ++ ofLayerBody rest) ↔
      StartsAfresh (splitOn '\n' rest) := by
  constructor
  · intro apart
    by_contra inside
    have longer := length_readOn_of_not_startsAfresh (List.cons_ne_nil 'p' []) inside
    have above : ofLayerBody ['p', ':'] = [] := by decide
    have same := congrArg List.length (apart ['p', ':'])
    have lines : splitOn '\n' (['p', ':'] ++ '\n' :: rest) = ['p', ':'] :: splitOn '\n' rest :=
      splitOn_append_cons (by decide) rest
    have meaning : LayerLine.ofText ['p', ':'] = .beginning ['p'] [] := by decide
    have nothingEnds : nothing.finished = [] := nothing.finished_eq_nil (Or.inl rfl)
    rw [above, ofLayerBody_eq_readOn, ofLayerBody_eq_readOn, lines, readOn_cons, meaning, ended,
      nothingEnds, next, List.nil_append, List.nil_append, longer] at same
    omega
  · intro afresh body
    rw [ofLayerBody_append_lineBreak, readOn_of_startsAfresh _ afresh, ← List.append_assoc,
      ← readOn_eq]
    rfl

end Declaration

/-! ## Lines of selectors -/

namespace OpenDeclaration

variable (current : OpenDeclaration)

/-- The open declaration behind a line of its value; an empty line says nothing. -/
def withLine (more : Text) : OpenDeclaration :=
  if more.isEmpty then current else current.next (.continuing more)

/-- Two lines of a value act as one. -/
theorem next_next_continuing {first : Text} (full : first ≠ []) (trimmed : trim first = first)
    (second : Text) :
    (current.next (.continuing first)).next (.continuing second) =
      current.next (.continuing (first ++ ' ' :: second)) := by
  by_cases unnamed : current.property = []
  · simp [next, unnamed]
  · have last : ∀ c ∈ (current.value ++ ' ' :: first).getLast?, isBlank c = false := by
      have ending : (current.value ++ [' '] ++ first).getLast? = first.getLast? :=
        List.getLast?_append_of_ne_nil _ full
      rw [List.append_assoc, List.singleton_append] at ending
      rw [ending]
      exact (trim_eq_self_iff.mp trimmed).2
    have value := trim_trim_append last (' ' :: second)
    simp only [List.append_assoc, List.cons_append] at value
    simp [next, unnamed, value]

/-- The lines that hold more than blanks, joined to one. -/
def joinedLines (lines : List Text) : Text :=
  joinWith [' '] ((lines.map trim).filter (!·.isEmpty))

theorem joinedLines_full {lines : List Text} :
    ∀ row ∈ (lines.map trim).filter (!·.isEmpty), row ≠ [] := by
  intro row within
  simpa using (List.mem_filter.mp within).2

theorem trim_joinedLines (lines : List Text) : trim (joinedLines lines) = joinedLines lines := by
  refine trim_joinWith _ joinedLines_full fun row within => ?_
  obtain ⟨raw, -, rfl⟩ := List.mem_map.mp (List.mem_filter.mp within).1
  exact trim_trim raw

theorem joinedLines_cons_of_blank {raw : Text} (blank : trim raw = []) (rest : List Text) :
    joinedLines (raw :: rest) = joinedLines rest := by
  simp [joinedLines, blank]

theorem joinedLines_cons_of_full {raw : Text} (full : trim raw ≠ []) (rest : List Text) :
    joinedLines (raw :: rest) =
      if (joinedLines rest).isEmpty then trim raw else trim raw ++ ' ' :: joinedLines rest := by
  have kept : ((raw :: rest).map trim).filter (!·.isEmpty) =
      trim raw :: (rest.map trim).filter (!·.isEmpty) := by
    simp [full]
  rw [joinedLines, kept, joinedLines]
  cases others : (rest.map trim).filter (!·.isEmpty) with
  | nil => simp [joinWith]
  | cons second more =>
      have restFull : joinWith [' '] (second :: more) ≠ [] :=
        joinWith_ne_nil _ (List.cons_ne_nil _ _) (others ▸ joinedLines_full)
      simp [joinWith_cons_cons, restFull]

/-- Lines without a colon that belong to no comment and no braced rule end nothing, and they
act on the open declaration as one line. -/
theorem after_of_plain {lines : List Text}
    (plain : ∀ raw ∈ lines, ':' ∉ raw ∧ Declaration.isStructural (trim raw) = false) :
    current.endedWithin lines = [] ∧ current.after lines = current.withLine (joinedLines lines) := by
  induction lines generalizing current with
  | nil => exact ⟨rfl, rfl⟩
  | cons raw rest ih =>
      obtain ⟨⟨noColon, unstructured⟩, plain⟩ := List.forall_mem_cons.mp plain
      by_cases blank : trim raw = []
      · have meaning : LayerLine.ofText raw = .skipped :=
          LayerLine.ofText_of_blank (trim_eq_nil_iff.mp blank)
        rw [endedWithin, after_cons, meaning, joinedLines_cons_of_blank blank]
        exact ih current plain
      · have looked := LayerLine.isSignificant_iff.mpr ⟨blank, unstructured⟩
        have meaning : LayerLine.ofText raw = .continuing (trim raw) :=
          LayerLine.ofText_of_noColon looked fun within => noColon (trim_subset raw within)
        obtain ⟨ended, after⟩ := ih (current.next (.continuing (trim raw))) plain
        rw [endedWithin, after_cons, meaning, joinedLines_cons_of_full blank]
        refine ⟨ended, after.trans ?_⟩
        by_cases last : joinedLines rest = []
        · simp [withLine, last, blank]
        · simp [withLine, last, current.next_next_continuing blank (trim_trim raw)]

/-! ## What a line adds to a value -/

/-- The value of the open declaration is trimmed. -/
theorem trim_value_after (lines : List Text) (trimmed : trim current.value = current.value) :
    trim (current.after lines).value = (current.after lines).value := by
  induction lines generalizing current with
  | nil => exact trimmed
  | cons raw rest ih =>
      rw [after_cons]
      apply ih
      rcases LayerLine.ofText_cases raw with
        ⟨-, meaning⟩ | ⟨-, before, after, -, -, meaning⟩ | ⟨-, -, meaning⟩
      · rwa [meaning]
      · rw [meaning]
        exact trim_trim after
      · rw [meaning, next]
        split
        · exact trimmed
        · exact trim_trim _

theorem length_trim_dropSemicolon_le (value : Text) :
    (trim (Declaration.dropSemicolon value)).length ≤ value.length := by
  have trimmed := (stripOf_sublist isBlank (Declaration.dropSemicolon value)).length_le
  refine trimmed.trans ?_
  rw [Declaration.dropSemicolon]
  split <;> simp

/-- A value loses something with its semicolon exactly when it has one. -/
theorem trim_dropSemicolon_eq_self_iff {value : Text} (full : value ≠ [])
    (trimmed : trim value = value) :
    trim (Declaration.dropSemicolon value) = value ↔ value.getLast? ≠ some ';' := by
  rw [Declaration.dropSemicolon]
  split
  · next semicolon =>
      have shorter := (stripOf_sublist isBlank value.dropLast).length_le
      have positive := List.length_pos_iff.mpr full
      rw [List.length_dropLast] at shorter
      refine ⟨fun same => ?_, fun lacks => absurd semicolon lacks⟩
      have lengths : (stripOf isBlank value.dropLast).length = value.length :=
        congrArg List.length same
      omega
  · next lacks => simp [trimmed, lacks]

theorem dropSemicolon_append_semicolon (value : Text) :
    Declaration.dropSemicolon (value ++ [';']) = value := by
  simp [Declaration.dropSemicolon]

/-- A line behind a value makes it longer, unless the line is a semicolon. -/
theorem length_lt_trim_dropSemicolon_append {value more : Text} (valueFull : value ≠ [])
    (valueTrimmed : trim value = value) (full : more ≠ []) (trimmed : trim more = more)
    (noSemicolon : more ≠ [';']) :
    value.length < (trim (Declaration.dropSemicolon (value ++ ' ' :: more))).length := by
  by_cases ends : more.getLast? = some ';'
  · obtain ⟨front, rfl⟩ := List.getLast?_eq_some_iff.mp ends
    cases front with
    | nil => exact absurd rfl noSemicolon
    | cons c rest =>
        -- The first character of the line is no blank, so it stays behind the value.
        have solid : isBlank c = false := (trim_eq_self_iff.mp trimmed).1 c rfl
        have stays : value ++ [' ', c] <:+: trim (value ++ ' ' :: c :: rest) := by
          have within : value ++ [' ', c] <:+: value ++ ' ' :: c :: rest := ⟨[], rest, by simp⟩
          obtain ⟨first, others, rfl⟩ := List.exists_cons_of_ne_nil valueFull
          have firstSolid : isBlank first = false := (trim_eq_self_iff.mp valueTrimmed).1 first rfl
          have last : (first :: others ++ [' ', c]).getLast? = some c :=
            List.getLast?_append_of_ne_nil _ (List.cons_ne_nil _ _)
          exact isInfix_stripOf isBlank ⟨first, rfl, firstSolid⟩ ⟨c, last, solid⟩ within
        have shape : value ++ ' ' :: (c :: rest ++ [';']) = value ++ ' ' :: c :: rest ++ [';'] := by
          simp
        have longer := stays.length_le
        rw [List.length_append, List.length_cons] at longer
        rw [shape, dropSemicolon_append_semicolon]
        omega
  · have last : (value ++ ' ' :: more).getLast? = more.getLast? := by
      rw [List.getLast?_append_of_ne_nil _ (List.cons_ne_nil _ _),
        List.getLast?_cons_of_ne_nil full]
    have kept : Declaration.dropSemicolon (value ++ ' ' :: more) = value ++ [' '] ++ more := by
      rw [Declaration.dropSemicolon, last, if_neg ends]
      simp
    rw [kept, trim_append_of_trimmed valueFull valueTrimmed full trimmed]
    simp only [List.length_append, List.length_singleton]
    omega

/-- A value is read the same with a line behind it only if the line is the semicolon that the
value lacks. -/
theorem trim_dropSemicolon_append_iff {value more : Text} (valueFull : value ≠ [])
    (valueTrimmed : trim value = value) (full : more ≠ []) (trimmed : trim more = more) :
    trim (Declaration.dropSemicolon (value ++ ' ' :: more)) =
        trim (Declaration.dropSemicolon value) ↔
      more = [';'] ∧ value.getLast? ≠ some ';' := by
  by_cases semicolon : more = [';']
  · subst semicolon
    have blank : ∀ c ∈ [' '], isBlank c = true := by decide
    have ended : trim (Declaration.dropSemicolon (value ++ [' ', ';'])) = value := by
      rw [← List.singleton_append, ← List.append_assoc, dropSemicolon_append_semicolon,
        trim_append_blank blank, valueTrimmed]
    rw [ended, eq_comm, trim_dropSemicolon_eq_self_iff valueFull valueTrimmed]
    simp
  · have longer :=
      length_lt_trim_dropSemicolon_append valueFull valueTrimmed full trimmed semicolon
    have short := length_trim_dropSemicolon_le value
    refine ⟨fun same => ?_, fun line => absurd line.1 semicolon⟩
    rw [same] at longer
    omega

/-- One more line changes what is read, unless it is the semicolon that ends the value. -/
theorem finished_next_continuing_eq_iff (named : current.property ≠ [])
    (valueTrimmed : trim current.value = current.value) {more : Text} (full : more ≠ [])
    (trimmed : trim more = more) :
    (current.next (.continuing more)).finished = current.finished ↔
      more = [';'] ∧ current.value ≠ [] ∧ current.value.getLast? ≠ some ';' := by
  have longer := current.value_next_continuing_ne_nil named (by rwa [trimmed])
  have nextNamed : (current.next (.continuing more)).property = current.property := by
    simp [next, named]
  by_cases empty : current.value = []
  · rw [finished_of_full _ (by rwa [nextNamed]) longer, finished_eq_nil _ (Or.inr empty)]
    simp [empty]
  · have value : (current.next (.continuing more)).value = current.value ++ ' ' :: more := by
      have joined := trim_append_of_trimmed empty valueTrimmed full trimmed [' ']
      rw [List.append_assoc, List.singleton_append] at joined
      simp [next, named, joined]
    rw [finished_of_full _ (by rwa [nextNamed]) longer, finished_of_full _ named empty, value,
      nextNamed, List.singleton_inj, Declaration.mk.injEq]
    simp [trim_dropSemicolon_append_iff empty valueTrimmed full trimmed, empty]

end OpenDeclaration

namespace Declaration

open OpenDeclaration

/-- A braced rule without declarations, its opening brace right behind the selector. -/
def emptyRule (selector : Text) : Text := selector ++ ['{', '\n', '}']

/-- The lines of a selector in front of the one with the brace, joined to one line. -/
def leadingLine (selector : Text) : Text := joinedLines (splitOn '\n' selector).dropLast

/-- Below a layer, a rule without declarations acts as the line that its selector leads with. -/
theorem ofLayerBody_append_emptyRule (body : Text) {selector : Text} (noColon : ':' ∉ selector)
    (free : IsBraceFree selector) (noOpening : ¬ ['/', '*'] <:+: selector)
    (noClosing : ¬ ['*', '/'] <:+: selector) :
    ofLayerBody (body ++ '\n' :: emptyRule selector) =
      nothing.endedWithin (splitOn '\n' body) ++
        ((nothing.after (splitOn '\n' body)).withLine (leadingLine selector)).finished := by
  obtain ⟨last, lines⟩ := exists_splitOn_append selector (by decide : '\n' ∉ ['{'])
  have shape : emptyRule selector = (selector ++ ['{']) ++ '\n' :: ['}'] := by simp [emptyRule]
  have closing : splitOn '\n' ['}'] = [['}']] := by decide
  have plain : ∀ raw ∈ (splitOn '\n' selector).dropLast,
      ':' ∉ raw ∧ isStructural (trim raw) = false := by
    intro raw isLine
    have within := isInfix_of_mem_splitOn (List.dropLast_subset _ isLine)
    have trimmedWithin := (trim_isInfix raw).trans within
    rw [LayerLine.isStructural_eq_false_iff]
    exact ⟨fun colon => noColon (within.subset colon),
      fun begins => noOpening (begins.isInfix.trans trimmedWithin),
      fun ends => noClosing (ends.isInfix.trans trimmedWithin),
      free.subset trimmedWithin.subset⟩
  obtain ⟨ended, after⟩ := (nothing.after (splitOn '\n' body)).after_of_plain plain
  have opened : LayerLine.ofText (last ++ ['{']) = .skipped :=
    LayerLine.ofText_of_brace fun isFree => isFree.1 (by simp)
  have closed : LayerLine.ofText ['}'] = .skipped := by decide
  rw [ofLayerBody_append_lineBreak, shape, splitOn_append_mark, closing, lines, List.append_assoc,
    readOn_append, ended, after, List.nil_append, List.singleton_append,
    readOn_cons_of_skipped _ opened, readOn_cons_of_skipped _ closed, readOn_nil, leadingLine]

/-- Below a layer, a rule without declarations leaves the layer as it is exactly when the
layer leaves no declaration open, when the selector stands on one line but for blank lines,
or when the lines in front of its last one are the semicolon that the open value lacks. -/
theorem ofLayerBody_append_emptyRule_iff (body : Text) {selector : Text}
    (noColon : ':' ∉ selector) (free : IsBraceFree selector)
    (noOpening : ¬ ['/', '*'] <:+: selector) (noClosing : ¬ ['*', '/'] <:+: selector) :
    ofLayerBody (body ++ '\n' :: emptyRule selector) = ofLayerBody body ↔
      (nothing.after (splitOn '\n' body)).property = [] ∨ leadingLine selector = [] ∨
        leadingLine selector = [';'] ∧ (nothing.after (splitOn '\n' body)).value ≠ [] ∧
          (nothing.after (splitOn '\n' body)).value.getLast? ≠ some ';' := by
  have trimmed := nothing.trim_value_after (splitOn '\n' body) rfl
  rw [ofLayerBody_append_emptyRule body noColon free noOpening noClosing, ofLayerBody_eq_readOn,
    readOn_eq, List.append_cancel_left_eq]
  generalize nothing.after (splitOn '\n' body) = pending at trimmed
  by_cases noLine : leadingLine selector = []
  · simp [withLine, noLine]
  · by_cases unnamed : pending.property = []
    · simp [withLine, noLine, next, unnamed]
    · have added := pending.finished_next_continuing_eq_iff unnamed trimmed noLine
        (trim_joinedLines _)
      simpa [withLine, noLine, unnamed] using added

/-- A selector on one line, with a blank line above it, is no part of the value. -/
theorem ofLayerBody_append_emptyRule_iff_one_line :
    let selector : Text := "  \n.title "
    (':' ∉ selector ∧ IsBraceFree selector ∧ ¬ ['/', '*'] <:+: selector ∧
      ¬ ['*', '/'] <:+: selector) ∧
      ofLayerBody ("color: red;\n  \n.title \x7b\n\x7d" : Text) =
        ofLayerBody ("color: red;" : Text) := by
  intro selector
  have noOpening : ¬ ['/', '*'] <:+: selector :=
    mt (occurs_iff_isInfix _ _).mpr (by decide)
  have noClosing : ¬ ['*', '/'] <:+: selector :=
    mt (occurs_iff_isInfix _ _).mpr (by decide)
  have oneLine : leadingLine selector = [] := by decide
  exact ⟨⟨by decide, by decide, noOpening, noClosing⟩,
    (ofLayerBody_append_emptyRule_iff "color: red;" (by decide) (by decide) noOpening
      noClosing).mpr (Or.inr (Or.inl oneLine))⟩

/-- A selector of two lines: its first line is taken as a line of the value above, although a
semicolon ended that value. -/
theorem selector_line_joins_value :
    let selector : Text := ".a,\n.b "
    (':' ∉ selector ∧ IsBraceFree selector ∧ ¬ occurs ['/', '*'] selector = true ∧
      ¬ occurs ['*', '/'] selector = true) ∧
      ofLayerBody ("color: red;" : Text) = [⟨"color", "red"⟩] ∧
      ofLayerBody (("color: red;" : Text) ++ '\n' :: emptyRule selector) =
        [⟨"color", "red; .a,"⟩] ∧
      ofLayerBody (("color: red;" : Text) ++ '\n' :: emptyRule selector) ≠
        ofLayerBody ("color: red;" : Text) := by
  decide

end Declaration

end DesignExport
