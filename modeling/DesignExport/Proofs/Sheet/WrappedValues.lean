/-
# Wrapped values

A design tool wraps long values: the words of a value stand on one line or on several, and
blank lines and indentation stand between them. How a value is wrapped does not matter. What
is read is the words with single spaces between them.

The invariant of the loop over the lines is that the value of the open declaration is the
words on the lines that were read, joined. On the line at hand it does not matter whether the
line begins the declaration or continues it (`TakesWords`), so one induction over the words
covers every layout, the value that begins on the line below its property included.
-/

import DesignExport.Proofs.Sheet.LayerLines

namespace DesignExport

/-! ## Words on a line -/

/-- A word that keeps to its place on a line: no blank, no colon and no brace stands in it,
and no mark of a comment. -/
structure Text.IsSolid (word : Text) : Prop where
  full : word ≠ []
  clear : ∀ c ∈ word, isBlank c = false ∧ c ≠ ':' ∧ c ≠ '{' ∧ c ≠ '}'
  noOpening : ¬ ['/', '*'] <:+: word
  noClosing : ¬ ['*', '/'] <:+: word

namespace Text

variable {word : Text} {words : List Text}

theorem IsSolid.trimmed (solid : IsSolid word) : Text.trim word = word :=
  trim_eq_self_iff.mpr
    ⟨fun c isHead => (solid.clear c (List.mem_of_mem_head? isHead)).1,
      fun c isLast => (solid.clear c (List.mem_of_getLast? isLast)).1⟩

/-- A semicolon at its end does not change how a word is taken. -/
theorem IsSolid.append_semicolon (solid : IsSolid word) : IsSolid (word ++ [';']) where
  full := by simp
  clear := List.forall_mem_append.mpr ⟨solid.clear, by decide⟩
  noOpening := not_pair_isInfix_append solid.noOpening (by decide) (Or.inr (by decide))
  noClosing := not_pair_isInfix_append solid.noClosing (by decide) (Or.inr (by decide))

/-- What may stand between two words, or between a colon and the first one: one space, or a
line break with blanks and blank lines around it. -/
def IsGap (gap : Text) : Prop := gap = [' '] ∨ '\n' ∈ gap ∧ ∀ c ∈ gap, isBlank c = true

instance (word : Text) : Decidable (IsSolid word) :=
  decidable_of_iff
    (word ≠ [] ∧ (∀ c ∈ word, isBlank c = false ∧ c ≠ ':' ∧ c ≠ '{' ∧ c ≠ '}') ∧
      ¬ occurs ['/', '*'] word = true ∧ ¬ occurs ['*', '/'] word = true)
    ⟨fun ⟨full, clear, noOpening, noClosing⟩ =>
      ⟨full, clear, mt (occurs_iff_isInfix _ _).mpr noOpening,
        mt (occurs_iff_isInfix _ _).mpr noClosing⟩,
     fun solid => ⟨solid.full, solid.clear, mt (occurs_iff_isInfix _ _).mp solid.noOpening,
      mt (occurs_iff_isInfix _ _).mp solid.noClosing⟩⟩

instance (gap : Text) : Decidable (IsGap gap) :=
  inferInstanceAs (Decidable (gap = [' '] ∨ '\n' ∈ gap ∧ ∀ c ∈ gap, isBlank c = true))

/-- The words of a line, each behind a space. -/
def spaced (words : List Text) : Text := words.flatMap (' ' :: ·)

theorem append_spaced (word : Text) (words : List Text) :
    word ++ spaced words = joinWith [' '] (word :: words) := by
  induction words generalizing word with
  | nil => simp [spaced, joinWith]
  | cons next more ih =>
      rw [joinWith_cons_cons, ← ih next]
      simp [spaced]

/-- The line of solid words is trimmed and holds no colon, no brace and no mark of a
comment. -/
theorem joined_clear (solid : ∀ word ∈ words, IsSolid word) :
    trim (joinWith [' '] words) = joinWith [' '] words ∧
      (∀ c ∈ joinWith [' '] words, c ≠ '\n' ∧ c ≠ ':' ∧ c ≠ '{' ∧ c ≠ '}') ∧
      ¬ ['/', '*'] <:+: joinWith [' '] words ∧ ¬ ['*', '/'] <:+: joinWith [' '] words := by
  refine ⟨trim_joinWith _ (fun word within => (solid word within).full)
    (fun word within => (solid word within).trimmed), ?_, fun stands => ?_, fun stands => ?_⟩
  · refine forall_mem_joinWith (by decide) fun word isWord c within => ?_
    obtain ⟨unblank, clear⟩ := (solid word isWord).clear c within
    exact ⟨by rintro rfl; exact absurd unblank (by decide), clear⟩
  · obtain ⟨word, isWord, within⟩ :=
      exists_isInfix_of_joinWith (List.cons_ne_nil _ _) (by decide) stands
    exact (solid word isWord).noOpening within
  · obtain ⟨word, isWord, within⟩ :=
      exists_isInfix_of_joinWith (List.cons_ne_nil _ _) (by decide) stands
    exact (solid word isWord).noClosing within

theorem isBraceFree_spaced (solid : ∀ word ∈ words, IsSolid word) :
    IsBraceFree (spaced words) := by
  rw [isBraceFree_iff]
  intro c within isBrace
  obtain ⟨word, isWord, inWord⟩ := List.mem_flatMap.mp within
  rcases List.mem_cons.mp inWord with rfl | inWord
  · exact absurd isBrace (by decide)
  · have clear := ((solid word isWord).clear c inWord).2.2
    exact isBrace.elim clear.1 clear.2

theorem trim_spaced (solid : ∀ word ∈ words, IsSolid word) :
    trim (spaced words) = joinWith [' '] words := by
  cases words with
  | nil => rfl
  | cons word more =>
      have space : ∀ c ∈ [' '], isBlank c = true := by decide
      have shape : spaced (word :: more) = [' '] ++ joinWith [' '] (word :: more) := by
        simp [← append_spaced, spaced]
      rw [shape, trim_blank_append space, (joined_clear solid).1]

end Text

/-! ## The value at hand -/

namespace OpenDeclaration

open Text

variable {current : OpenDeclaration} {front property : Text} {read : List Text}

/-- Behind `front`, words on the same line are read as a part of the value of a property: they
are added to the words that were read before. -/
def TakesWords (current : OpenDeclaration) (front property : Text) (read : List Text) : Prop :=
  ∀ words : List Text, (∀ word ∈ words, IsSolid word) →
    ∀ trail : Text, (∀ c ∈ trail, isBlank c = true) →
      current.ended (LayerLine.ofText (front ++ spaced words ++ trail)) = [] ∧
        current.next (LayerLine.ofText (front ++ spaced words ++ trail)) =
          ⟨property, joinWith [' '] (read ++ words)⟩

/-- A word on the line at hand is one of the words that are read. -/
theorem TakesWords.append_word (takes : current.TakesWords front property read) {word : Text}
    (solid : IsSolid word) :
    current.TakesWords (front ++ ' ' :: word) property (read ++ [word]) := by
  intro words others trail blank
  have longer := takes (word :: words) (List.forall_mem_cons.mpr ⟨solid, others⟩) trail blank
  simpa [spaced] using longer

/-- Behind a property and its colon, words are read as its value. -/
theorem takesWords_property (isProperty : IsProperty property) :
    nothing.TakesWords (property ++ [':']) property [] := by
  intro words solid trail blank
  obtain ⟨-, -, -, noClosing⟩ := joined_clear solid
  have value : trim (spaced words ++ trail) = joinWith [' '] words := by
    rw [trim_append_blank blank, trim_spaced solid]
  have free : IsBraceFree (spaced words ++ trail) :=
    isBraceFree_append.mpr ⟨isBraceFree_spaced solid,
      isBraceFree_of_forall (by decide) (by decide) blank⟩
  have shape : property ++ [':'] ++ spaced words ++ trail =
      property ++ ':' :: (spaced words ++ trail) := by simp
  rw [shape, LayerLine.ofText_property isProperty free, value]
  · exact ⟨rfl, rfl⟩
  · rw [value]
    exact fun ends => noClosing ends.isInfix

/-- A line of words continues a value that is joined from words. -/
theorem takesWords_continuing (named : property ≠ []) (readSolid : ∀ word ∈ read, IsSolid word)
    {word : Text} (solid : IsSolid word) :
    (OpenDeclaration.mk property (joinWith [' '] read)).TakesWords word property
      (read ++ [word]) := by
  intro words others trail blank
  have lineSolid : ∀ later ∈ word :: words, IsSolid later :=
    List.forall_mem_cons.mpr ⟨solid, others⟩
  obtain ⟨trimmed, clear, noOpening, noClosing⟩ := joined_clear lineSolid
  have full : joinWith [' '] (word :: words) ≠ [] :=
    joinWith_ne_nil _ (List.cons_ne_nil _ _) fun later within => (lineSolid later within).full
  have trimmedLine : trim (word ++ spaced words ++ trail) = joinWith [' '] (word :: words) := by
    rw [trim_append_blank blank, append_spaced, trimmed]
  have looked : LayerLine.isSignificant (word ++ spaced words ++ trail) = true := by
    rw [LayerLine.isSignificant_iff, trimmedLine, LayerLine.isStructural_eq_false_iff]
    exact ⟨full, fun begins => noOpening begins.isInfix, fun ends => noClosing ends.isInfix,
      fun within => (clear _ within).2.2.1 rfl, fun within => (clear _ within).2.2.2 rfl⟩
  have noColon : ':' ∉ trim (word ++ spaced words ++ trail) := by
    rw [trimmedLine]
    exact fun within => (clear _ within).2.1 rfl
  rw [LayerLine.ofText_of_noColon looked noColon, trimmedLine,
    next_continuing named (fun row within => (readSolid row within).full)
      (fun row within => (readSolid row within).trimmed) full trimmed,
    joinWith_append_joinWith _ _ (List.cons_ne_nil _ _), List.append_assoc]
  exact ⟨rfl, rfl⟩

/-! ## Every layout -/

/-- Words behind gaps. -/
def laidOut (parts : List (Text × Text)) : Text := parts.flatMap fun part => part.1 ++ part.2

/-- However words are laid out behind a place where they are read as a value, the value is the
words with single spaces between them. -/
theorem readOn_laidOut {parts : List (Text × Text)} (named : property ≠ [])
    (gaps : ∀ part ∈ parts, IsGap part.1) (solid : ∀ part ∈ parts, IsSolid part.2)
    (readSolid : ∀ word ∈ read, IsSolid word) (takes : current.TakesWords front property read)
    (unbroken : '\n' ∉ front) :
    current.readOn (splitOn '\n' (front ++ laidOut parts)) =
      finished ⟨property, joinWith [' '] (read ++ parts.map Prod.snd)⟩ := by
  induction parts generalizing current front read with
  | nil =>
      obtain ⟨ended, next⟩ := takes [] (by simp) [] (by simp)
      simp only [spaced, List.flatMap_nil, List.append_nil] at ended next
      rw [laidOut, List.flatMap_nil, List.append_nil, splitOn_of_not_mem unbroken, readOn_cons,
        ended, next]
      simp
  | cons part more ih =>
      obtain ⟨gap, word⟩ := part
      obtain ⟨isGap, others⟩ := List.forall_mem_cons.mp gaps
      obtain ⟨wordSolid, later⟩ := List.forall_mem_cons.mp solid
      have wordUnbroken : '\n' ∉ word := fun within =>
        absurd (wordSolid.clear _ within).1 (by decide)
      have longerSolid : ∀ row ∈ read ++ [word], IsSolid row :=
        List.forall_mem_append.mpr ⟨readSolid, List.forall_mem_singleton.mpr wordSolid⟩
      have together : read ++ ((gap, word) :: more).map Prod.snd =
          (read ++ [word]) ++ more.map Prod.snd := by simp
      rw [together]
      rcases isGap with rfl | ⟨broken, blank⟩
      · have onLine : front ++ laidOut (([' '], word) :: more) =
            (front ++ ' ' :: word) ++ laidOut more := by simp [laidOut]
        rw [onLine]
        exact ih others later longerSolid (takes.append_word wordSolid)
          (by simp [unbroken, wordUnbroken])
      · -- The line ends in the gap, and the word begins a line that continues the value.
        obtain ⟨trail, lead, rfl, trailUnbroken⟩ := List.eq_append_cons_of_mem broken
        obtain ⟨trailBlank, leadBlank⟩ := List.forall_mem_append.mp blank
        obtain ⟨-, leadBlank⟩ := List.forall_mem_cons.mp leadBlank
        obtain ⟨ended, next⟩ := takes [] (by simp) trail trailBlank
        simp only [spaced, List.flatMap_nil, List.append_nil] at ended next
        have acrossLines : front ++ laidOut ((trail ++ '\n' :: lead, word) :: more) =
            (front ++ trail) ++ '\n' :: (lead ++ (word ++ laidOut more)) := by simp [laidOut]
        rw [acrossLines, splitOn_append_cons (by simp [unbroken, trailUnbroken]), readOn_cons,
          ended, next, List.nil_append, readOn_splitOn_blank_append _ leadBlank]
        exact ih others later longerSolid (takesWords_continuing named readSolid wordSolid)
          wordUnbroken

end OpenDeclaration

/-- A declaration as a design tool lays it out: a property with its colon, the words of the
value, each behind a gap, and a semicolon that may be left out. -/
structure WrappedDeclaration where
  property : Text
  parts : List (Text × Text)
  isEnded : Bool

namespace WrappedDeclaration

open Text

/-- The words of the value. -/
def words (wrapped : WrappedDeclaration) : List Text := wrapped.parts.map Prod.snd

/-- The declaration as it is written. -/
def text (wrapped : WrappedDeclaration) : Text :=
  wrapped.property ++ ':' :: (OpenDeclaration.laidOut wrapped.parts ++
    if wrapped.isEnded then [';'] else [])

/-- There is at least one word, no word holds a semicolon, and properties, gaps and words are
such that the lines are read as lines of a value. -/
structure WellFormed (wrapped : WrappedDeclaration) : Prop where
  property : IsProperty wrapped.property
  unbroken : '\n' ∉ wrapped.property
  full : wrapped.parts ≠ []
  gaps : ∀ part ∈ wrapped.parts, IsGap part.1
  solid : ∀ part ∈ wrapped.parts, IsSolid part.2
  unended : ∀ part ∈ wrapped.parts, ';' ∉ part.2

instance (wrapped : WrappedDeclaration) : Decidable wrapped.WellFormed :=
  decidable_of_iff
    (IsProperty wrapped.property ∧ '\n' ∉ wrapped.property ∧ wrapped.parts ≠ [] ∧
      (∀ part ∈ wrapped.parts, IsGap part.1) ∧ (∀ part ∈ wrapped.parts, IsSolid part.2) ∧
      ∀ part ∈ wrapped.parts, ';' ∉ part.2)
    ⟨fun ⟨property, unbroken, full, gaps, solid, unended⟩ =>
      ⟨property, unbroken, full, gaps, solid, unended⟩,
     fun wellFormed => ⟨wellFormed.property, wellFormed.unbroken, wellFormed.full,
      wellFormed.gaps, wellFormed.solid, wellFormed.unended⟩⟩

variable {wrapped : WrappedDeclaration}

/-- The value is read with its semicolon, which belongs to the last word. -/
theorem WellFormed.ofLayerBody_text (wellFormed : wrapped.WellFormed) :
    Declaration.ofLayerBody wrapped.text =
      OpenDeclaration.finished ⟨wrapped.property,
        joinWith [' '] wrapped.words ++ if wrapped.isEnded then [';'] else []⟩ := by
  obtain ⟨property, parts, isEnded⟩ := wrapped
  have takes := OpenDeclaration.takesWords_property wellFormed.property
  have unbroken : '\n' ∉ property ++ [':'] := by simpa using wellFormed.unbroken
  have reads {parts : List (Text × Text)} (gaps : ∀ part ∈ parts, IsGap part.1)
      (solid : ∀ part ∈ parts, IsSolid part.2) :
      Declaration.ofLayerBody (property ++ [':'] ++ OpenDeclaration.laidOut parts) =
        OpenDeclaration.finished ⟨property, joinWith [' '] (parts.map Prod.snd)⟩ :=
    OpenDeclaration.readOn_laidOut wellFormed.property.named gaps solid (by simp) takes unbroken
  cases isEnded with
  | false => simpa [text, words] using reads wellFormed.gaps wellFormed.solid
  | true =>
      obtain ⟨front, ⟨gap, last⟩, rfl⟩ := (List.eq_nil_or_concat' parts).resolve_left wellFormed.full
      obtain ⟨frontGaps, gaps⟩ := List.forall_mem_append.mp wellFormed.gaps
      obtain ⟨frontSolid, solid⟩ := List.forall_mem_append.mp wellFormed.solid
      have lastGap : IsGap gap := gaps (gap, last) List.mem_cons_self
      have lastSolid : IsSolid (last ++ [';']) :=
        (solid (gap, last) List.mem_cons_self).append_semicolon
      have withSemicolon := @reads (front ++ [(gap, last ++ [';'])])
        (List.forall_mem_append.mpr ⟨frontGaps, List.forall_mem_singleton.mpr lastGap⟩)
        (List.forall_mem_append.mpr ⟨frontSolid, List.forall_mem_singleton.mpr lastSolid⟩)
      simpa [text, words, OpenDeclaration.laidOut, joinWith_concat_append] using withSemicolon

/-- How a value is wrapped does not matter: its words are read with single spaces between
them, and a semicolon behind the last one is left out. -/
theorem ofLayerBody_wrapped (wellFormed : wrapped.WellFormed) :
    Declaration.ofLayerBody wrapped.text =
      [⟨wrapped.property, joinWith [' '] wrapped.words⟩] := by
  have solid : ∀ word ∈ wrapped.words, IsSolid word := List.forall_mem_map.mpr wellFormed.solid
  have unended : ∀ word ∈ wrapped.words, ∀ c ∈ word, c ≠ ';' :=
    List.forall_mem_map.mpr fun part isPart _ within isEnd =>
      wellFormed.unended part isPart (isEnd ▸ within)
  have full : joinWith [' '] wrapped.words ≠ [] :=
    joinWith_ne_nil _ (by simpa [words] using wellFormed.full) fun word within =>
      (solid word within).full
  have noSemicolon : ';' ∉ joinWith [' '] wrapped.words := fun within =>
    forall_mem_joinWith (by decide) unended ';' within rfl
  have dropped : Declaration.dropSemicolon
      (joinWith [' '] wrapped.words ++ if wrapped.isEnded then [';'] else []) =
      joinWith [' '] wrapped.words := by
    cases wrapped.isEnded with
    | true => simp [Declaration.dropSemicolon]
    | false =>
        have last : (joinWith [' '] wrapped.words).getLast? ≠ some ';' := fun isLast =>
          noSemicolon (List.mem_of_getLast? isLast)
        simp [Declaration.dropSemicolon, last]
  rw [wellFormed.ofLayerBody_text,
    OpenDeclaration.finished_of_full _ wellFormed.property.named (by simp [full])]
  simp only [dropped, wellFormed.property.trimmed, (joined_clear solid).1]

/-- A shadow that begins below its property and goes on behind an empty line. -/
theorem ofLayerBody_wrapped_below_property :
    let wrapped : WrappedDeclaration :=
      ⟨"box-shadow", [("\n\t", "0px"), (" ", "4px"), ("\n  \n    ", "rgba(0,0,0,.1)")], true⟩
    wrapped.WellFormed ∧
      Declaration.ofLayerBody
          ("box-shadow:\n\t0px 4px\n  \n    rgba(0,0,0,.1);" : Text) =
        [⟨"box-shadow", "0px 4px rgba(0,0,0,.1)"⟩] := by
  intro wrapped
  have wellFormed : wrapped.WellFormed := by decide
  exact ⟨wellFormed, ofLayerBody_wrapped wellFormed⟩

end WrappedDeclaration

end DesignExport
