/-
# Counting braces

The excess of a text is the number of its opening braces less that of its
closing ones. A text is balanced when there is no excess; the order of the braces
does not matter. Excess adds up over the parts that a text is put together from,
so whether a written sheet is balanced is known from its parts.
-/

import DesignExport.Proofs.Text
import Mathlib.Algebra.BigOperators.Group.List.Basic
import Mathlib.Algebra.Ring.Int.Defs

namespace DesignExport.Text

/-- How many more opening than closing braces a text holds. -/
def braceExcess (text : Text) : Int := (text.count '{' : Int) - (text.count '}' : Int)

/-- A text with as many opening as closing braces. -/
def IsBalanced (text : Text) : Prop := text.count '{' = text.count '}'

instance (text : Text) : Decidable (IsBalanced text) :=
  inferInstanceAs (Decidable (text.count '{' = text.count '}'))

/-- A text without braces. -/
def IsBraceFree (text : Text) : Prop := '{' ∉ text ∧ '}' ∉ text

instance (text : Text) : Decidable (IsBraceFree text) :=
  inferInstanceAs (Decidable ('{' ∉ text ∧ '}' ∉ text))

theorem isBalanced_iff (text : Text) : IsBalanced text ↔ braceExcess text = 0 := by
  rw [IsBalanced, braceExcess]
  omega

@[simp] theorem braceExcess_append (front rest : Text) :
    braceExcess (front ++ rest) = braceExcess front + braceExcess rest := by
  simp only [braceExcess, List.count_append]
  omega

/-- The order of the characters does not matter. -/
theorem braceExcess_eq_of_perm {first second : Text} (same : first.Perm second) :
    braceExcess first = braceExcess second := by
  rw [braceExcess, same.count_eq, same.count_eq, braceExcess]

/-- The excess of texts one after the other is the sum of what each of them has. -/
theorem braceExcess_flatten_map {α : Type} {items : List α} {write : α → Text} {excess : α → Int}
    (each : ∀ item ∈ items, braceExcess (write item) = excess item) :
    braceExcess (items.map write).flatten = (items.map excess).sum := by
  induction items with
  | nil => rfl
  | cons item rest ih =>
      have first := each item List.mem_cons_self
      have others := ih fun later within => each later (List.mem_cons_of_mem item within)
      rw [List.map_cons, List.flatten_cons, braceExcess_append, first, others, List.map_cons,
        List.sum_cons]

/-- Without closing braces, the excess counts the opening ones. -/
theorem braceExcess_of_not_mem {text : Text} (unclosed : '}' ∉ text) :
    braceExcess text = text.count '{' := by
  rw [braceExcess, List.count_eq_zero_of_not_mem unclosed]
  omega

theorem IsBraceFree.braceExcess {text : Text} (free : IsBraceFree text) : braceExcess text = 0 := by
  rw [braceExcess_of_not_mem free.2, List.count_eq_zero_of_not_mem free.1]
  rfl

theorem IsBraceFree.subset {part text : Text} (free : IsBraceFree text) (within : part ⊆ text) :
    IsBraceFree part :=
  ⟨fun opening => free.1 (within opening), fun closing => free.2 (within closing)⟩

theorem isBraceFree_iff {text : Text} :
    IsBraceFree text ↔ ∀ c ∈ text, ¬ (c = '{' ∨ c = '}') := by
  constructor
  · rintro free c within (rfl | rfl)
    · exact free.1 within
    · exact free.2 within
  · intro none
    exact ⟨fun within => none _ within (Or.inl rfl), fun within => none _ within (Or.inr rfl)⟩

theorem isBraceFree_append {front rest : Text} :
    IsBraceFree (front ++ rest) ↔ IsBraceFree front ∧ IsBraceFree rest := by
  simp only [isBraceFree_iff, List.forall_mem_append]

/-- A class of characters without braces. -/
theorem isBraceFree_of_forall {p : Char → Bool} (opening : p '{' = false) (closing : p '}' = false)
    {text : Text} (all : ∀ c ∈ text, p c = true) : IsBraceFree text := by
  constructor
  · intro within
    simp [all _ within] at opening
  · intro within
    simp [all _ within] at closing

end DesignExport.Text
