/-
# Joined texts

What is put together from rows can be counted row by row: a character other than the
mark between the rows stands in a row, and a part that does not hold the mark stands
in one row as a whole. Words do not run on across a blank, so the words of joined
rows are the words of the rows.
-/

import DesignExport.Proofs.Text
import Mathlib.Algebra.BigOperators.Group.List.Basic
import Mathlib.Algebra.Ring.Nat
import Mathlib.Data.List.Chain

namespace DesignExport.Text

theorem joinWith_cons_cons (mark first second : Text) (more : List Text) :
    joinWith mark (first :: second :: more) = first ++ mark ++ joinWith mark (second :: more) := by
  simp [joinWith, List.intercalate]

theorem joinWith_append (mark : Text) {front rest : List Text} (frontFull : front ≠ [])
    (restFull : rest ≠ []) :
    joinWith mark (front ++ rest) = joinWith mark front ++ mark ++ joinWith mark rest := by
  induction front with
  | nil => exact absurd rfl frontFull
  | cons first more ih =>
      cases more with
      | nil =>
          obtain ⟨second, others, rfl⟩ := List.exists_cons_of_ne_nil restFull
          simp [joinWith]
      | cons second others =>
          rw [List.cons_append, List.cons_append, joinWith_cons_cons, ← List.cons_append,
            ih (List.cons_ne_nil _ _), joinWith_cons_cons]
          simp

/-- Rows can be joined in two steps. -/
theorem joinWith_append_joinWith (mark : Text) (front : List Text) {rest : List Text}
    (restFull : rest ≠ []) :
    joinWith mark (front ++ [joinWith mark rest]) = joinWith mark (front ++ rest) := by
  by_cases empty : front = []
  · simp [empty, joinWith]
  · rw [joinWith_append mark empty (List.cons_ne_nil _ _), joinWith_append mark empty restFull]
    simp [joinWith]

/-- Rows that are joined from parts give what all the parts give. -/
theorem joinWith_map_joinWith (mark : Text) {rows : List (List Text)}
    (full : ∀ row ∈ rows, row ≠ []) :
    joinWith mark (rows.map (joinWith mark)) = joinWith mark rows.flatten := by
  induction rows with
  | nil => rfl
  | cons first more ih =>
      obtain ⟨firstFull, moreFull⟩ := List.forall_mem_cons.mp full
      cases more with
      | nil => simp [joinWith]
      | cons second others =>
          have restFull : (second :: others).flatten ≠ [] := by
            simp [moreFull second List.mem_cons_self]
          rw [List.map_cons, List.map_cons, joinWith_cons_cons, ← List.map_cons, ih moreFull]
          exact (joinWith_append mark firstFull restFull).symm

/-- What stands behind the last row stands behind the joined rows. -/
theorem joinWith_concat_append (mark : Text) (front : List Text) (last behind : Text) :
    joinWith mark (front ++ [last ++ behind]) = joinWith mark (front ++ [last]) ++ behind := by
  by_cases empty : front = []
  · simp [empty, joinWith]
  · rw [joinWith_append mark empty (List.cons_ne_nil _ _),
      joinWith_append mark empty (List.cons_ne_nil _ _)]
    simp [joinWith]

/-- Every row stands in the joined rows. -/
theorem isInfix_joinWith {row : Text} {rows : List Text} (within : row ∈ rows) (mark : Text) :
    row <:+: joinWith mark rows := by
  induction rows with
  | nil => simp at within
  | cons first more ih =>
      cases more with
      | nil =>
          obtain rfl := List.mem_singleton.mp within
          simp [joinWith]
      | cons second others =>
          rw [joinWith_cons_cons]
          rcases List.mem_cons.mp within with rfl | later
          · rw [List.append_assoc]
            exact (List.prefix_append _ _).isInfix
          · exact (ih later).trans (List.suffix_append _ _).isInfix

/-- A text is put together again from its pieces. -/
theorem joinWith_splitOn (mark : Char) (text : Text) :
    joinWith [mark] (splitOn mark text) = text := by
  rw [splitOn_eq_list_splitOn]
  exact List.intercalate_splitOn mark

/-- Every piece of a text stands in it. -/
theorem isInfix_of_mem_splitOn {mark : Char} {text piece : Text}
    (isPiece : piece ∈ splitOn mark text) : piece <:+: text := by
  simpa [joinWith_splitOn] using isInfix_joinWith isPiece [mark]

/-- What holds of the characters of all rows and of the mark holds of the joined rows. -/
theorem forall_mem_joinWith {p : Char → Prop} {mark : Text} {rows : List Text}
    (inMark : ∀ c ∈ mark, p c) (inRows : ∀ row ∈ rows, ∀ c ∈ row, p c) :
    ∀ c ∈ joinWith mark rows, p c := by
  induction rows with
  | nil => simp [joinWith]
  | cons first more ih =>
      obtain ⟨inFirst, inMore⟩ := List.forall_mem_cons.mp inRows
      cases more with
      | nil => simpa [joinWith] using inFirst
      | cons second others =>
          rw [joinWith_cons_cons]
          intro c within
          rcases List.mem_append.mp within with inFront | inRest
          · rcases List.mem_append.mp inFront with here | there
            · exact inFirst c here
            · exact inMark c there
          · exact ih inMore c inRest

/-- A part that lacks the mark stands in a row as a whole. -/
theorem exists_isInfix_of_joinWith {part : Text} {mark : Char} (full : part ≠ [])
    (lacks : mark ∉ part) {rows : List Text} (stands : part <:+: joinWith [mark] rows) :
    ∃ row ∈ rows, part <:+: row := by
  induction rows with
  | nil => exact absurd (List.infix_nil.mp stands) full
  | cons first more ih =>
      cases more with
      | nil => exact ⟨first, List.mem_cons_self, by simpa [joinWith] using stands⟩
      | cons second others =>
          rw [joinWith_cons_cons, List.append_assoc, List.singleton_append] at stands
          rcases isInfix_append_cons_of_not_mem lacks stands with inFirst | inRest
          · exact ⟨first, List.mem_cons_self, inFirst⟩
          · obtain ⟨row, isRow, within⟩ := ih inRest
            exact ⟨row, List.mem_cons_of_mem _ isRow, within⟩

theorem joinWith_ne_nil (mark : Text) {rows : List Text} (full : rows ≠ [])
    (each : ∀ row ∈ rows, row ≠ []) : joinWith mark rows ≠ [] := by
  obtain ⟨first, more, rfl⟩ := List.exists_cons_of_ne_nil full
  have firstFull := each first List.mem_cons_self
  cases more with
  | nil => simpa [joinWith] using firstFull
  | cons second others => simp [joinWith_cons_cons, firstFull]

/-- Joined rows are trimmed when the rows are. -/
theorem trim_joinWith (mark : Text) {rows : List Text} (full : ∀ row ∈ rows, row ≠ [])
    (trimmed : ∀ row ∈ rows, trim row = row) : trim (joinWith mark rows) = joinWith mark rows := by
  induction rows with
  | nil => rfl
  | cons first more ih =>
      obtain ⟨firstTrimmed, trimmed⟩ := List.forall_mem_cons.mp trimmed
      obtain ⟨firstFull, full⟩ := List.forall_mem_cons.mp full
      cases more with
      | nil => simpa [joinWith] using firstTrimmed
      | cons second others =>
          rw [joinWith_cons_cons]
          exact trim_append_of_trimmed firstFull firstTrimmed
            (joinWith_ne_nil mark (List.cons_ne_nil _ _) full) (ih full trimmed) mark

/-- What adds up across the mark is for joined rows the sum of what it is for the rows. -/
theorem sum_joinWith {mark : Text} {measure : Text → Nat} (empty : measure [] = 0)
    (across : ∀ front rest, measure (front ++ mark ++ rest) = measure front + measure rest)
    (rows : List Text) : measure (joinWith mark rows) = (rows.map measure).sum := by
  induction rows with
  | nil => simpa [joinWith] using empty
  | cons first more ih =>
      cases more with
      | nil => simp [joinWith]
      | cons second others =>
          rw [joinWith_cons_cons, across, ih]
          rfl

/-- What is read on either side of the mark alone is read row by row from joined rows. -/
theorem flatMap_joinWith {α : Type} {mark : Text} {read : Text → List α} (empty : read [] = [])
    (across : ∀ front rest, read (front ++ mark ++ rest) = read front ++ read rest)
    (rows : List Text) : read (joinWith mark rows) = rows.flatMap read := by
  induction rows with
  | nil => simpa [joinWith] using empty
  | cons first more ih =>
      cases more with
      | nil => simp [joinWith]
      | cons second others =>
          rw [joinWith_cons_cons, across, ih]
          rfl

/-! ## Counting -/

/-- How many places of a text a part stands at. -/
def occurrences (part : Text) : Text → Nat
  | [] => if part.isEmpty then 1 else 0
  | c :: rest => (if part.isPrefixOf (c :: rest) then 1 else 0) + occurrences part rest

/-- A part stands nowhere in a text that lacks one of its characters. -/
theorem occurrences_eq_zero {part text : Text} {c : Char} (needed : c ∈ part) (lacks : c ∉ text) :
    occurrences part text = 0 := by
  induction text with
  | nil => simp [occurrences, List.ne_nil_of_mem needed]
  | cons d rest ih =>
      have misses : ¬ part <+: d :: rest := fun stands => lacks (stands.subset needed)
      have later := ih (fun within => lacks (List.mem_cons_of_mem d within))
      simp [occurrences, misses, later]

/-- A part that lacks a character begins in front of it only if it ends there too. -/
theorem prefix_append_cons_iff {part : Text} {mark : Char} (lacks : mark ∉ part)
    (front rest : Text) : part <+: front ++ mark :: rest ↔ part <+: front := by
  constructor
  · intro stands
    by_cases short : part.length ≤ front.length
    · exact List.prefix_of_prefix_length_le stands (List.prefix_append _ _) short
    · -- Otherwise the part goes beyond the mark.
      have here : front ++ [mark] <+: front ++ mark :: rest := ⟨rest, by simp⟩
      have upToMark : front ++ [mark] <+: part := by
        apply List.prefix_of_prefix_length_le here stands
        simp
        omega
      exact absurd (upToMark.subset (by simp)) lacks
  · exact fun stands => stands.trans (List.prefix_append _ _)

/-- A part that lacks a character ends behind it. -/
theorem isSuffix_of_append_cons {part : Text} {mark : Char} (lacks : mark ∉ part)
    {front rest : Text} (ends : part <:+ front ++ mark :: rest) : part <:+ rest := by
  rcases List.suffix_or_suffix_of_suffix ends (List.suffix_append front _) with within | beyond
  · rcases List.suffix_cons_iff.mp within with rfl | inRest
    · simp at lacks
    · exact inRest
  · exact absurd (beyond.subset List.mem_cons_self) lacks

/-- A part that lacks a character stands in front of it or behind it. -/
theorem occurrences_append_cons {part : Text} {mark : Char} (full : part ≠ [])
    (lacks : mark ∉ part) (front rest : Text) :
    occurrences part (front ++ mark :: rest) = occurrences part front + occurrences part rest := by
  have same (front : Text) : part.isPrefixOf (front ++ mark :: rest) = part.isPrefixOf front := by
    rw [Bool.eq_iff_iff, List.isPrefixOf_iff_prefix, List.isPrefixOf_iff_prefix]
    exact prefix_append_cons_iff lacks front rest
  induction front with
  | nil =>
      have misses : part.isPrefixOf (mark :: rest) = false := by
        have emptyPart : part.isPrefixOf [] = false := by
          rw [Bool.eq_false_iff, ne_eq, List.isPrefixOf_iff_prefix]
          exact fun stands => full (List.prefix_nil.mp stands)
        exact (same []).trans emptyPart
      simp [occurrences, misses, full]
  | cons c more ih =>
      have here := same (c :: more)
      rw [List.cons_append] at here ⊢
      rw [occurrences, ih, occurrences, here, Nat.add_assoc]

/-- No part begins in a text that lacks the part's first character. -/
theorem occurrences_append_of_not_mem {first : Char} {front : Text} (lacks : first ∉ front)
    (more rest : Text) :
    occurrences (first :: more) (front ++ rest) = occurrences (first :: more) rest := by
  induction front with
  | nil => rfl
  | cons c front ih =>
      obtain ⟨differ, lacks⟩ := not_or.mp (List.mem_cons.not.mp lacks)
      simp [occurrences, List.isPrefixOf, differ, ih lacks]

/-- A character that the mark lacks is counted in the rows. -/
theorem count_append_mark {mark : Text} {c : Char} (lacks : c ∉ mark) (front rest : Text) :
    (front ++ mark ++ rest).count c = front.count c + rest.count c := by
  rw [List.count_append, List.count_append, List.count_eq_zero_of_not_mem lacks, Nat.add_zero]

/-! ## Words -/

/-- The word that a text begins with, empty in front of a blank, and the words behind it. -/
def splitWord (text : Text) : Text × List Text :=
  text.foldr
    (fun c (state : Text × List Text) =>
      if isBlank c then
        ([], if state.1.isEmpty then state.2 else state.1 :: state.2)
      else (c :: state.1, state.2))
    ([], [])

theorem words_eq_splitWord (text : Text) :
    words text = if (splitWord text).1.isEmpty then (splitWord text).2
      else (splitWord text).1 :: (splitWord text).2 := rfl

theorem splitWord_cons (c : Char) (rest : Text) :
    splitWord (c :: rest) =
      if isBlank c then ([], words rest)
      else (c :: (splitWord rest).1, (splitWord rest).2) := by
  rw [words_eq_splitWord, splitWord, List.foldr_cons]
  rfl

theorem splitWord_append_blank {blank : Char} (isBlank : isBlank blank = true)
    (front rest : Text) :
    splitWord (front ++ blank :: rest) =
      ((splitWord front).1, (splitWord front).2 ++ words rest) := by
  induction front with
  | nil =>
      rw [List.nil_append, splitWord_cons, if_pos isBlank]
      rfl
  | cons c more ih =>
      rw [List.cons_append, splitWord_cons, splitWord_cons, ih]
      split
      · rw [words_eq_splitWord, ih, words_eq_splitWord more]
        split <;> rfl
      · rfl

/-- A word ends at a blank. -/
theorem words_append_blank {blank : Char} (isBlank : isBlank blank = true) (front rest : Text) :
    words (front ++ blank :: rest) = words front ++ words rest := by
  rw [words_eq_splitWord, splitWord_append_blank isBlank, words_eq_splitWord front]
  split <;> rfl

theorem words_joinWith {blank : Char} (isBlank : isBlank blank = true) (rows : List Text) :
    words (joinWith [blank] rows) = rows.flatMap words :=
  flatMap_joinWith rfl (fun front rest => by
    rw [List.append_assoc, List.singleton_append, words_append_blank isBlank]) rows

/-- The word at the beginning and the words behind it hold no blank, and the words behind it
are not empty. -/
theorem splitWord_clear (text : Text) :
    (∀ c ∈ (splitWord text).1, isBlank c = false) ∧
      ∀ word ∈ (splitWord text).2, word ≠ [] ∧ ∀ c ∈ word, isBlank c = false := by
  induction text with
  | nil => simp [splitWord]
  | cons c rest ih =>
      obtain ⟨firstClear, laterClear⟩ := ih
      rw [splitWord_cons]
      split
      · refine ⟨by simp, fun word isWord => ?_⟩
        rw [words_eq_splitWord] at isWord
        split at isWord
        · exact laterClear word isWord
        · next full =>
            rcases List.mem_cons.mp isWord with rfl | later
            · exact ⟨by simpa using full, firstClear⟩
            · exact laterClear word later
      · next unblank =>
          exact ⟨List.forall_mem_cons.mpr ⟨by simpa using unblank, firstClear⟩, laterClear⟩

/-- A word is not empty and holds no blank. -/
theorem clear_of_mem_words {text word : Text} (isWord : word ∈ words text) :
    word ≠ [] ∧ ∀ c ∈ word, isBlank c = false := by
  have behindBlank := (splitWord_clear (' ' :: text)).2
  rw [splitWord_cons, if_pos (by decide)] at behindBlank
  exact behindBlank word isWord

theorem trim_joinWith_of_clear {words : List Text}
    (clear : ∀ word ∈ words, word ≠ [] ∧ ∀ c ∈ word, isBlank c = false) :
    trim (joinWith [' '] words) = joinWith [' '] words := by
  refine trim_joinWith _ (fun word isWord => (clear word isWord).1) fun word isWord => ?_
  have unblank := (clear word isWord).2
  exact trim_eq_self_iff.mpr ⟨fun c isHead => unblank c (List.mem_of_mem_head? isHead),
    fun c isLast => unblank c (List.mem_of_getLast? isLast)⟩

/-- No blank stands at either end of the text, and no two blanks stand side by side. -/
structure IsSpaced (text : Text) : Prop where
  trimmed : trim text = text
  apart : text.IsChain fun c d => isBlank c = false ∨ isBlank d = false

/-- Words with single spaces between them. -/
theorem isSpaced_joinWith {words : List Text}
    (clear : ∀ word ∈ words, word ≠ [] ∧ ∀ c ∈ word, isBlank c = false) :
    IsSpaced (joinWith [' '] words) where
  trimmed := trim_joinWith_of_clear clear
  apart := by
    induction words with
    | nil => exact .nil
    | cons first more ih =>
        obtain ⟨⟨full, unblank⟩, clearMore⟩ := List.forall_mem_cons.mp clear
        have inFirst : first.IsChain fun c d => isBlank c = false ∨ isBlank d = false :=
          (List.pairwise_of_forall_mem_list fun c isFirst _ _ => .inl (unblank c isFirst)).isChain
        cases more with
        | nil => simpa [joinWith] using inFirst
        | cons second others =>
            -- The characters on either side of the space are no blanks.
            have before : ∀ c ∈ first.getLast?, isBlank c = false :=
              fun c isLast => unblank c (List.mem_of_getLast? isLast)
            have behind : ∀ d ∈ (joinWith [' '] (second :: others)).head?, isBlank d = false :=
              (trim_eq_self_iff.mp (trim_joinWith_of_clear clearMore)).1
            rw [joinWith_cons_cons, List.append_assoc]
            refine inFirst.append (List.isChain_cons.mpr ⟨?_, ih clearMore⟩) ?_
            · exact fun d isHead => .inr (behind d isHead)
            · exact fun c isLast _ _ => .inl (before c isLast)

end DesignExport.Text
