/-
# What erasing leaves

Erasing keeps characters of the text in their order, and so may bring two of
them together that were apart. To tell such a meeting from a part that stood in
one piece all along, the characters carry their places here. The main fact is
that erasing patterns one after the other leaves no match that stood in one
piece in the text: the scan of its pattern would have come to its first
character, or would have passed over it inside an earlier match.
-/

import DesignExport.Proofs.Scan
import Mathlib.Data.List.Nodup
import Mathlib.Data.List.Perm.Subperm

open scoped List

namespace DesignExport

/-- A text whose characters carry their places in the text that they come from. -/
abbrev PlacedText := List (Char × Nat)

namespace PlacedText

/-- The characters without their places. -/
def text (placed : PlacedText) : Text := placed.map Prod.fst

/-- The characters of a text with their places. -/
def ofText (text : Text) : PlacedText := text.zipIdx

theorem text_ofText (text : Text) : (ofText text).text = text := List.zipIdx_map_fst 0 text

theorem nodup_ofText (text : Text) : (ofText text).Nodup := by
  apply List.Nodup.of_map Prod.snd
  rw [ofText, List.zipIdx_map_snd]
  exact List.nodup_range'

end PlacedText

/-- A part that stands in one piece in a text stands in one piece in whatever is
left of the text, as long as all of it is left. -/
theorem isInfix_of_subset {α : Type} {part left whole : List α} (distinct : whole.Nodup)
    (onePiece : part <:+: whole) (isSublist : left <+ whole) (kept : part ⊆ left) :
    part <:+: left := by
  obtain ⟨before, after, rfl⟩ := onePiece
  obtain ⟨front, behind, rfl, isFront, isBehind⟩ := List.sublist_append_iff.mp isSublist
  obtain ⟨left, middle, rfl, isLeft, isMiddle⟩ := List.sublist_append_iff.mp isFront
  -- What is left of the part cannot come from the text around it.
  have inMiddle : part ⊆ middle := by
    intro c within
    have notBefore : c ∉ before := fun there => by
      simp only [List.nodup_append] at distinct
      exact distinct.1.2.2 c there c within rfl
    have notAfter : c ∉ after := fun there => by
      simp only [List.nodup_append] at distinct
      exact distinct.2.2 c (List.mem_append_right _ within) c there rfl
    rcases List.mem_append.mp (kept within) with inFront | inBehind
    · rcases List.mem_append.mp inFront with inLeft | inMiddle
      · exact absurd (isLeft.subset inLeft) notBefore
      · exact inMiddle
    · exact absurd (isBehind.subset inBehind) notAfter
  have partDistinct : part.Nodup := distinct.of_append_left.of_append_right
  have whole : middle = part :=
    isMiddle.eq_of_length_le (partDistinct.subperm inMiddle).length_le
  rw [whole]
  exact List.infix_append left part behind

namespace Pattern

variable {α : Type} {pattern : Pattern α}

/-! ## One pattern -/

theorem erase_cons_of_none {c : Char} {rest : Text} (miss : pattern (c :: rest) = none) :
    pattern.erase (c :: rest) = c :: pattern.erase rest := by
  simp [erase, pieces_cons_of_none miss]

theorem erase_cons_of_some {c : Char} {rest : Text} {value : α} {covered : Nat}
    (hit : pattern (c :: rest) = some (value, covered)) :
    pattern.erase (c :: rest) = pattern.erase (rest.drop (covered - 1)) := by
  simp [erase, pieces_cons_of_some hit]

/-- The characters that erasing keeps, with `covered` characters still belonging to
the last match. -/
def keptAfter (pattern : Pattern α) : Nat → PlacedText → PlacedText
  | _, [] => []
  | covered + 1, _ :: rest => keptAfter pattern covered rest
  | 0, c :: rest =>
    match pattern (c.1 :: PlacedText.text rest) with
    | none => c :: keptAfter pattern 0 rest
    | some (_, covered) => keptAfter pattern (covered - 1) rest

/-- The characters that erasing keeps. -/
def kept (pattern : Pattern α) (placed : PlacedText) : PlacedText := keptAfter pattern 0 placed

theorem text_keptAfter (covered : Nat) (placed : PlacedText) :
    (pattern.keptAfter covered placed).text = pattern.erase (placed.text.drop covered) := by
  induction placed generalizing covered with
  | nil => simp [keptAfter, PlacedText.text, erase]
  | cons c rest ih =>
      cases covered with
      | succ covered => simpa [keptAfter, PlacedText.text] using ih covered
      | zero =>
          have goOn := ih 0
          simp only [PlacedText.text, keptAfter, List.map_cons, List.drop_zero] at ih goOn ⊢
          cases found : pattern (c.1 :: rest.map Prod.fst) with
          | none => rw [erase_cons_of_none found, ← goOn, List.map_cons]
          | some hit =>
              obtain ⟨value, covered⟩ := hit
              rw [erase_cons_of_some found, ← ih (covered - 1)]

/-- What is kept is the text without the matches. -/
theorem text_kept (placed : PlacedText) :
    (pattern.kept placed).text = pattern.erase placed.text :=
  text_keptAfter 0 placed

theorem keptAfter_sublist (covered : Nat) (placed : PlacedText) :
    pattern.keptAfter covered placed <+ placed := by
  induction placed generalizing covered with
  | nil => simp [keptAfter]
  | cons c rest ih =>
      cases covered with
      | succ covered => exact (ih covered).cons c
      | zero =>
          simp only [keptAfter]
          split
          · exact (ih 0).cons_cons c
          · exact (ih _).cons c

/-- Erasing takes characters away and does nothing else. -/
theorem erase_sublist (text : Text) : pattern.erase text <+ text := by
  have characters : (pattern.kept (PlacedText.ofText text)).text <+
      (PlacedText.ofText text).text := (keptAfter_sublist 0 _).map Prod.fst
  rwa [text_kept, PlacedText.text_ofText] at characters

/-- Erasing changes a text exactly when the pattern matches somewhere in it. -/
theorem erase_eq_self_iff (text : Text) : pattern.erase text = text ↔ pattern.Skips text [] := by
  constructor
  · intro same
    induction text with
    | nil => exact fun later full isSuffix => absurd (List.suffix_nil.mp isSuffix) full
    | cons c rest ih =>
        cases found : pattern (c :: rest) with
        | none =>
            rw [erase_cons_of_none found, List.cons.injEq] at same
            intro later full isSuffix
            rcases List.suffix_cons_iff.mp isSuffix with rfl | within
            · rw [List.append_nil, found]
            · exact ih same.2 later full within
        | some hit =>
            obtain ⟨value, covered⟩ := hit
            rw [erase_cons_of_some found] at same
            have shorter : (pattern.erase (rest.drop (covered - 1))).length ≤ rest.length :=
              ((erase_sublist _).trans (List.drop_sublist _ _)).length_le
            rw [same, List.length_cons] at shorter
            omega
  · intro skips
    simpa [erase] using erase_append_of_skips skips

/-- The first character of a match is never kept: either the scan comes to it, or an
earlier match has covered it. -/
theorem not_mem_keptAfter {c : Char × Nat} {before rest : PlacedText}
    (distinct : (before ++ c :: rest).Nodup) (hit : pattern (c.1 :: rest.text) ≠ none)
    (covered : Nat) : c ∉ pattern.keptAfter covered (before ++ c :: rest) := by
  induction before generalizing covered with
  | nil =>
      have elsewhere : c ∉ rest := (List.nodup_cons.mp distinct).1
      have gone (covered : Nat) : c ∉ pattern.keptAfter covered rest :=
        fun within => elsewhere ((keptAfter_sublist covered rest).subset within)
      cases covered with
      | succ covered => exact gone covered
      | zero =>
          simp only [List.nil_append, keptAfter]
          split
          · next miss => exact absurd miss hit
          · exact gone _
  | cons d before ih =>
      obtain ⟨elsewhere, distinct⟩ := List.nodup_cons.mp distinct
      have gone := ih distinct
      cases covered with
      | succ covered => exact gone covered
      | zero =>
          simp only [List.cons_append, keptAfter]
          split
          · rw [List.mem_cons, not_or]
            refine ⟨?_, gone 0⟩
            rintro rfl
            simp at elsewhere
          · exact gone _

/-- The pattern matches a part from its first character to its last. -/
def Covers (pattern : Pattern α) (part : Text) : Prop :=
  ∃ value, pattern part = some (value, part.length)

/-- A local pattern looks only at what it covers: a match covers at least one
character of the text, and stays one whatever stands behind it. -/
structure IsLocal (pattern : Pattern α) : Prop where
  covered_pos : ∀ {text value covered}, pattern text = some (value, covered) → 0 < covered
  covered_le : ∀ {text value covered}, pattern text = some (value, covered) →
    covered ≤ text.length
  ahead : ∀ {part rest value} (other : Text), pattern (part ++ rest) = some (value, part.length) →
    pattern (part ++ other) = some (value, part.length)

/-- A match is covered by the characters that it counts. -/
theorem IsLocal.covers_take (isLocal : pattern.IsLocal) {text : Text} {value : α} {covered : Nat}
    (hit : pattern text = some (value, covered)) : pattern.Covers (text.take covered) := by
  have counted : (text.take covered).length = covered :=
    List.length_take_of_le (isLocal.covered_le hit)
  have whole : pattern (text.take covered ++ text.drop covered) =
      some (value, (text.take covered).length) := by
    rw [List.take_append_drop, counted, hit]
  exact ⟨value, by simpa using isLocal.ahead [] whole⟩

/-- A covered part is matched in front of any text. -/
theorem IsLocal.append_ne_none (isLocal : pattern.IsLocal) {part : Text}
    (covers : pattern.Covers part) (rest : Text) : pattern (part ++ rest) ≠ none := by
  obtain ⟨value, hit⟩ := covers
  have alone : pattern (part ++ []) = some (value, part.length) := by rw [List.append_nil, hit]
  rw [isLocal.ahead rest alone]
  exact Option.some_ne_none _

/-- A match that stands in one piece is not kept. -/
theorem IsLocal.not_subset_kept (isLocal : pattern.IsLocal) {part placed : PlacedText}
    (distinct : placed.Nodup) (onePiece : part <:+: placed) (covers : pattern.Covers part.text) :
    ¬ part ⊆ pattern.kept placed := by
  intro kept
  obtain ⟨before, after, rfl⟩ := onePiece
  cases part with
  | nil =>
      obtain ⟨value, hit⟩ := covers
      exact absurd (isLocal.covered_pos hit) (by simp [PlacedText.text])
  | cons c more =>
      have hit : pattern (c.1 :: PlacedText.text (more ++ after)) ≠ none := by
        simpa [PlacedText.text] using isLocal.append_ne_none covers (PlacedText.text after)
      rw [List.append_assoc, List.cons_append] at distinct kept
      exact not_mem_keptAfter distinct hit 0 (kept List.mem_cons_self)

/-! ## Patterns one after the other -/

/-- The characters that erasing the patterns one after the other keeps. -/
def keptOfAll (patterns : List (Pattern α)) (placed : PlacedText) : PlacedText :=
  patterns.foldl (fun left pattern => pattern.kept left) placed

theorem text_keptOfAll (patterns : List (Pattern α)) (placed : PlacedText) :
    (keptOfAll patterns placed).text =
      patterns.foldl (fun left pattern => pattern.erase left) placed.text := by
  induction patterns generalizing placed with
  | nil => rfl
  | cons pattern more ih =>
      rw [keptOfAll, List.foldl_cons, List.foldl_cons, ← text_kept]
      exact ih (pattern.kept placed)

theorem keptOfAll_sublist (patterns : List (Pattern α)) (placed : PlacedText) :
    keptOfAll patterns placed <+ placed := by
  induction patterns generalizing placed with
  | nil => exact List.Sublist.refl placed
  | cons pattern more ih => exact (ih (pattern.kept placed)).trans (keptAfter_sublist 0 placed)

/-- No match that stands in one piece in the text is kept. -/
theorem not_subset_keptOfAll {patterns : List (Pattern α)}
    (areLocal : ∀ pattern ∈ patterns, pattern.IsLocal) {part placed : PlacedText}
    (distinct : placed.Nodup) (onePiece : part <:+: placed) (isPattern : pattern ∈ patterns)
    (covers : pattern.Covers part.text) : ¬ part ⊆ keptOfAll patterns placed := by
  intro kept
  induction patterns generalizing placed with
  | nil => simp at isPattern
  | cons first more ih =>
      have keptOnce : part ⊆ first.kept placed :=
        List.Subset.trans kept (keptOfAll_sublist more (first.kept placed)).subset
      rcases List.mem_cons.mp isPattern with rfl | later
      · exact (areLocal _ List.mem_cons_self).not_subset_kept distinct onePiece covers keptOnce
      · have isSublist : first.kept placed <+ placed := keptAfter_sublist 0 placed
        exact ih (fun pattern within => areLocal pattern (List.mem_cons_of_mem _ within))
          (distinct.sublist isSublist)
          (isInfix_of_subset distinct onePiece isSublist keptOnce) later kept

theorem eraseAll_sublist (patterns : List (Pattern α)) (text : Text) :
    patterns.foldl (fun left pattern => pattern.erase left) text <+ text := by
  induction patterns generalizing text with
  | nil => exact List.Sublist.refl text
  | cons pattern more ih => exact (ih (pattern.erase text)).trans (erase_sublist text)

/-- Erasing the patterns one after the other changes a text exactly when one of them
matches somewhere in it. -/
theorem eraseAll_eq_self_iff (patterns : List (Pattern α)) (text : Text) :
    patterns.foldl (fun left pattern => pattern.erase left) text = text ↔
      ∀ pattern ∈ patterns, pattern.Skips text [] := by
  induction patterns with
  | nil => simp
  | cons pattern more ih =>
      rw [List.forall_mem_cons, ← erase_eq_self_iff, ← ih, List.foldl_cons]
      constructor
      · intro same
        have isSublist := eraseAll_sublist more (pattern.erase text)
        rw [same] at isSublist
        have nothing : pattern.erase text = text := (erase_sublist text).antisymm isSublist
        rw [nothing] at same
        exact ⟨nothing, same⟩
      · rintro ⟨nothing, same⟩
        rw [nothing, same]

end Pattern

end DesignExport
