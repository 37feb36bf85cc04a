/-
# Stable sorting

Sorting leaves members that are alike to the order where they stand to each other. So a
list that is sorted by a key is decided by its members of each key, in their order: two
sorted lists that have the same ones are equal.
-/

import Mathlib.Data.List.Basic
import Mathlib.Data.List.Pairwise

namespace DesignExport

variable {α β : Type}

/-- Sorting keeps members in their order that are alike to the order. -/
theorem filter_mergeSort {le : α → α → Bool}
    (trans : ∀ a b c, le a b = true → le b c = true → le a c = true)
    (total : ∀ a b, (le a b || le b a) = true) {p : α → Bool}
    (alike : ∀ a b, p a = true → p b = true → le a b = true) (list : List α) :
    (list.mergeSort le).filter p = list.filter p := by
  -- The members that are alike are in order already, and sorting keeps what is in order.
  have ordered : (list.filter p).Pairwise fun a b => le a b = true :=
    List.pairwise_filter.mpr (List.pairwise_of_forall alike)
  have within := (List.sublist_mergeSort trans total ordered List.filter_sublist).filter p
  simp only [List.filter_filter, Bool.and_self] at within
  exact (within.eq_of_length ((List.mergeSort_perm list le).filter p).length_eq.symm).symm

/-- The first key of a sorted list is related to every key of it. -/
theorem rel_head_of_pairwise {key : α → β} (r : β → β → Prop) [Std.Refl r] {a b : α}
    {rest : List α}
    (sorted : (a :: rest).Pairwise fun a b => r (key a) (key b)) (within : b ∈ a :: rest) :
    r (key a) (key b) := by
  rcases List.mem_cons.mp within with rfl | behind
  · exact Std.Refl.refl _
  · exact List.rel_of_pairwise_cons sorted behind

variable [BEq β] [LawfulBEq β] {first second : List α}

theorem mem_of_forall_filter_eq {key : α → β}
    (same : ∀ k, first.filter (fun a => key a == k) = second.filter fun a => key a == k) {a : α}
    (within : a ∈ first) : a ∈ second := by
  have found : a ∈ first.filter fun b => key b == key a := by simp [within]
  rw [same] at found
  exact (List.mem_filter.mp found).1

/-- Sorted lists are equal if their members of each key are. -/
theorem eq_of_forall_filter_eq (key : α → β) (r : β → β → Prop) [Std.Refl r] [Std.Antisymm r]
    (isFirst : first.Pairwise fun a b => r (key a) (key b))
    (isSecond : second.Pairwise fun a b => r (key a) (key b))
    (same : ∀ k, first.filter (fun a => key a == k) = second.filter fun a => key a == k) :
    first = second := by
  induction first generalizing second with
  | nil =>
      cases second with
      | nil => rfl
      | cons b second => simpa using same (key b)
  | cons a first ih =>
      cases second with
      | nil => simpa using same (key a)
      | cons b second =>
          -- Each list has the other's head, so the heads have one key and are its first members.
          have inSecond : a ∈ b :: second := mem_of_forall_filter_eq same List.mem_cons_self
          have inFirst : b ∈ a :: first :=
            mem_of_forall_filter_eq (fun k => (same k).symm) List.mem_cons_self
          have sameKey : key a = key b :=
            Std.Antisymm.antisymm _ _ (rel_head_of_pairwise r isFirst inFirst)
              (rel_head_of_pairwise r isSecond inSecond)
          have heads := same (key a)
          simp only [List.filter_cons, sameKey, beq_self_eq_true, if_true, List.cons.injEq] at heads
          obtain ⟨rfl, -⟩ := heads
          rw [ih isFirst.of_cons isSecond.of_cons fun k => ?_]
          have tails := same k
          rw [List.filter_cons, List.filter_cons] at tails
          split_ifs at tails
          · exact List.tail_eq_of_cons_eq tails
          · exact tails

end DesignExport
