/-
# Interleavings

Two lists are interleaved when the items of both come one after the other, the
items of each list in their own order. What is picked from an interleaving is an
interleaving of what is picked from the two lists, so a property that no item of
one list has picks exactly what it picks from the other.
-/

import Mathlib.Data.List.Perm.Basic

namespace DesignExport

/-- The third list holds the items of the first two, those of each list in their own order. -/
inductive Interleaves {α : Type} : List α → List α → List α → Prop
  | nil : Interleaves [] [] []
  | left {item : α} {first second both : List α} (more : Interleaves first second both) :
      Interleaves (item :: first) second (item :: both)
  | right {item : α} {first second both : List α} (more : Interleaves first second both) :
      Interleaves first (item :: second) (item :: both)

namespace Interleaves

variable {α : Type} {first second both : List α}

theorem symm (interleaves : Interleaves first second both) : Interleaves second first both := by
  induction interleaves with
  | nil => exact .nil
  | left _ ih => exact ih.right
  | right _ ih => exact ih.left

theorem nil_left (items : List α) : Interleaves [] items items := by
  induction items with
  | nil => exact .nil
  | cons item rest ih => exact ih.right

/-- One list behind the other is an interleaving. -/
theorem append (first second : List α) : Interleaves first second (first ++ second) := by
  induction first with
  | nil => exact nil_left second
  | cons item rest ih => exact ih.left

theorem eq_of_nil (interleaves : Interleaves first [] both) : both = first := by
  generalize isNil : ([] : List α) = second at interleaves
  induction interleaves with
  | nil => rfl
  | left _ ih => rw [ih isNil]
  | right => cases isNil

/-- One interleaving behind another is an interleaving. -/
theorem concat {third fourth more : List α} (interleaves : Interleaves first second both)
    (behind : Interleaves third fourth more) :
    Interleaves (first ++ third) (second ++ fourth) (both ++ more) := by
  induction interleaves with
  | nil => exact behind
  | left _ ih => exact ih.left
  | right _ ih => exact ih.right

/-- An item behind the first list can stand behind the interleaving. -/
theorem snoc_left (interleaves : Interleaves first second both) (item : α) :
    Interleaves (first ++ [item]) second (both ++ [item]) := by
  simpa using interleaves.concat nil.left

theorem map {β : Type} (interleaves : Interleaves first second both) (make : α → β) :
    Interleaves (first.map make) (second.map make) (both.map make) := by
  induction interleaves with
  | nil => exact .nil
  | left _ ih => exact ih.left
  | right _ ih => exact ih.right

theorem filter (interleaves : Interleaves first second both) (holds : α → Bool) :
    Interleaves (first.filter holds) (second.filter holds) (both.filter holds) := by
  induction interleaves with
  | nil => exact .nil
  | @left item _ _ _ _ ih =>
      cases held : holds item with
      | true => simpa [held] using ih.left
      | false => simpa [held] using ih
  | @right item _ _ _ _ ih =>
      cases held : holds item with
      | true => simpa [held] using ih.right
      | false => simpa [held] using ih

/-- What no item of the second list is picked for is picked from the first list alone. -/
theorem filter_eq (interleaves : Interleaves first second both) {holds : α → Bool}
    (never : ∀ item ∈ second, holds item = false) : both.filter holds = first.filter holds := by
  have nothing : second.filter holds = [] :=
    List.filter_eq_nil_iff.mpr fun item within => by simp [never item within]
  have picked := interleaves.filter holds
  rw [nothing] at picked
  exact picked.eq_of_nil

theorem find?_eq (interleaves : Interleaves first second both) {holds : α → Bool}
    (never : ∀ item ∈ second, holds item = false) : both.find? holds = first.find? holds := by
  rw [← List.head?_filter, ← List.head?_filter, interleaves.filter_eq never]

/-- Two interleavings of the same lists show the same items of a kind that only one list has. -/
theorem filter_eq_filter {other : List α} (interleaves : Interleaves first second both)
    (interleavesOther : Interleaves first second other) {holds : α → Bool}
    (apart : (∀ item ∈ first, holds item = false) ∨ ∀ item ∈ second, holds item = false) :
    both.filter holds = other.filter holds := by
  cases apart with
  | inl never => rw [interleaves.symm.filter_eq never, interleavesOther.symm.filter_eq never]
  | inr never => rw [interleaves.filter_eq never, interleavesOther.filter_eq never]

theorem perm (interleaves : Interleaves first second both) : both.Perm (first ++ second) := by
  induction interleaves with
  | nil => exact .nil
  | left _ ih => exact ih.cons _
  | right _ ih => exact (ih.cons _).trans List.perm_middle.symm

end Interleaves

end DesignExport
