/-
# What erasing takes away

Erasing splits the characters of a text into those that it keeps and those that it takes
away. The latter are the matches of the pattern, one after the other, so what is known of
every part that the pattern covers is known of every character that is taken. What counts
characters counts those of the text as kept and taken ones together.
-/

import DesignExport.Proofs.Braces
import DesignExport.Proofs.Erasure

open scoped List

namespace DesignExport

namespace Pattern

variable {α : Type} {pattern : Pattern α}

/-- The characters that erasing takes away, with `covered` characters still belonging to
the last match. -/
def takenAfter (pattern : Pattern α) : Nat → Text → Text
  | _, [] => []
  | covered + 1, c :: rest => c :: takenAfter pattern covered rest
  | 0, c :: rest =>
    match pattern (c :: rest) with
    | none => takenAfter pattern 0 rest
    | some (_, covered) => c :: takenAfter pattern (covered - 1) rest

/-- The characters that erasing takes away. -/
def taken (pattern : Pattern α) (text : Text) : Text := takenAfter pattern 0 text

theorem erase_append_takenAfter_perm (covered : Nat) (text : Text) :
    pattern.erase (text.drop covered) ++ pattern.takenAfter covered text ~ text := by
  induction text generalizing covered with
  | nil => simp [takenAfter, erase]
  | cons c rest ih =>
      cases covered with
      | succ covered => exact List.perm_middle.trans ((ih covered).cons c)
      | zero =>
          rw [List.drop_zero, takenAfter]
          cases found : pattern (c :: rest) with
          | none =>
              rw [erase_cons_of_none found]
              exact (ih 0).cons c
          | some hit =>
              obtain ⟨value, covered⟩ := hit
              rw [erase_cons_of_some found]
              exact List.perm_middle.trans ((ih (covered - 1)).cons c)

/-- Every character is kept or taken away. -/
theorem erase_append_taken_perm (text : Text) :
    pattern.erase text ++ pattern.taken text ~ text :=
  erase_append_takenAfter_perm 0 text

/-- A character that is taken away stands in a part that the pattern covers. -/
theorem IsLocal.exists_covers_of_mem_taken (isLocal : pattern.IsLocal) {text : Text} {c : Char}
    (isTaken : c ∈ pattern.taken text) : ∃ part, pattern.Covers part ∧ c ∈ part := by
  -- Inside a match the character may belong to that match instead.
  suffices general : ∀ covered, c ∈ pattern.takenAfter covered text →
      c ∈ text.take covered ∨ ∃ part, pattern.Covers part ∧ c ∈ part by
    simpa using general 0 isTaken
  clear isTaken
  induction text with
  | nil => simp [takenAfter]
  | cons d rest ih =>
      intro covered isTaken
      cases covered with
      | succ covered =>
          rw [List.take_succ_cons, List.mem_cons]
          rcases List.mem_cons.mp isTaken with rfl | later
          · exact Or.inl (Or.inl rfl)
          · rcases ih covered later with within | found
            · exact Or.inl (Or.inr within)
            · exact Or.inr found
      | zero =>
          rw [takenAfter] at isTaken
          split at isTaken
          · simpa using ih 0 isTaken
          · next value covered hit =>
              have positive := isLocal.covered_pos hit
              have isMatch : (d :: rest).take covered = d :: rest.take (covered - 1) := by
                rw [List.take_cons (by omega)]
              have covers := isLocal.covers_take hit
              rw [isMatch] at covers
              rcases List.mem_cons.mp isTaken with rfl | later
              · exact Or.inr ⟨_, covers, List.mem_cons_self⟩
              · rcases ih (covered - 1) later with within | found
                · exact Or.inr ⟨_, covers, List.mem_cons_of_mem d within⟩
                · exact Or.inr found

/-! ## Braces -/

/-- What is left of a text has the excess of the text less that of what is taken away. -/
theorem braceExcess_erase (text : Text) :
    Text.braceExcess (pattern.erase text) =
      Text.braceExcess text - Text.braceExcess (pattern.taken text) := by
  have split : pattern.erase text ++ pattern.taken text ~ text := erase_append_taken_perm text
  have parts := Text.braceExcess_eq_of_perm split
  rw [Text.braceExcess_append] at parts
  omega

/-- A pattern that covers no braces takes none away. -/
theorem IsLocal.braceExcess_erase_eq (isLocal : pattern.IsLocal)
    (free : ∀ part, pattern.Covers part → Text.IsBraceFree part) (text : Text) :
    Text.braceExcess (pattern.erase text) = Text.braceExcess text := by
  have takenFree : Text.IsBraceFree (pattern.taken text) := by
    refine Text.isBraceFree_iff.mpr fun c isTaken => ?_
    obtain ⟨part, covers, within⟩ := isLocal.exists_covers_of_mem_taken isTaken
    exact Text.isBraceFree_iff.mp (free part covers) c within
  rw [braceExcess_erase, takenFree.braceExcess, Int.sub_zero]

end Pattern

end DesignExport
