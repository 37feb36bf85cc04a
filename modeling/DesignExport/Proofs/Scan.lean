/-
# Scanning known texts

What a scan finds in a text that is written as gaps and matches one after the
other. A gap is passed over when the pattern matches at none of its places,
and a match is taken whole; behind either, the scan of the rest goes on as if
it stood alone.
-/

import DesignExport.Scan
import Mathlib.Data.List.Forall2

namespace DesignExport

/-- Written texts that stand among gaps, each with the gap behind it. -/
def Text.amongGaps {β : Type} (write : β → Text) (first : Text) (parts : List (β × Text)) : Text :=
  first ++ parts.flatMap fun part => write part.1 ++ part.2

theorem Text.amongGaps_cons {β : Type} (write : β → Text) (first : Text) (part : β × Text)
    (later : List (β × Text)) :
    amongGaps write first (part :: later) =
      first ++ (write part.1 ++ amongGaps write part.2 later) := by
  simp [amongGaps]

namespace Pattern

variable {α : Type} {pattern : Pattern α}

/-- The pattern matches at no place of a gap that `rest` follows. -/
def Skips (pattern : Pattern α) (gap rest : Text) : Prop :=
  ∀ later, later ≠ [] → later <:+ gap → pattern (later ++ rest) = none

/-- A pattern that matches only where a mark of two characters stands skips a gap
in which the mark neither stands nor begins. -/
theorem skips_of_not_pair_isInfix {first second : Char} {gap rest : Text}
    (onlyAtMark : ∀ text, ¬ [first, second] <+: text → pattern text = none)
    (notWithin : ¬ [first, second] <:+: gap)
    (apart : gap.getLast? ≠ some first ∨ rest.head? ≠ some second) :
    pattern.Skips gap rest := by
  intro later full isSuffix
  apply onlyAtMark
  intro stands
  cases later with
  | nil => exact full rfl
  | cons c more =>
      cases more with
      | nil =>
          -- The mark begins with the last character of the gap.
          obtain ⟨before, rfl⟩ := isSuffix
          obtain ⟨after, whole⟩ := stands
          simp only [List.cons_append, List.nil_append, List.cons.injEq] at whole
          obtain ⟨rfl, rfl⟩ := whole
          simp at apart
      | cons d more =>
          have here : [first, second] <+: c :: d :: more := by
            simpa [List.cons_prefix_cons] using stands
          exact notWithin (here.isInfix.trans isSuffix.isInfix)

/-- A pattern that matches only at a keyword skips a gap without the keyword, when the
first character of the keyword does not come again in it and begins what follows. -/
theorem skips_of_not_keyword_isInfix {mark : Char} {more gap rest : Text}
    (onlyAtKeyword : ∀ text, ¬ mark :: more <+: text → pattern text = none) (once : mark ∉ more)
    (notWithin : ¬ mark :: more <:+: gap) (follows : ∀ c ∈ rest.head?, c = mark) :
    pattern.Skips gap rest := by
  intro later full isSuffix
  apply onlyAtKeyword
  rintro ⟨behind, whole⟩
  rcases List.append_eq_append_iff.mp whole with ⟨left, rfl, -⟩ | ⟨left, keyword, rest_eq⟩
  · exact notWithin ((List.prefix_append _ _).isInfix.trans isSuffix.isInfix)
  · cases left with
    | nil =>
        rw [List.append_nil] at keyword
        rw [keyword] at notWithin
        exact notWithin isSuffix.isInfix
    | cons c left =>
        -- The keyword would go on behind the gap, where its first character stands again.
        obtain rfl : c = mark := follows c (by simp [rest_eq])
        obtain ⟨d, later, rfl⟩ := List.exists_cons_of_ne_nil full
        obtain ⟨-, rfl⟩ := List.cons.inj keyword
        exact once (by simp)

/-- A gap belongs to the text in front of the first match of the rest. -/
theorem pieces_append_of_skips {gap rest : Text} (skips : pattern.Skips gap rest) :
    pattern.pieces (gap ++ rest) =
      ⟨gap ++ (pattern.pieces rest).before, (pattern.pieces rest).found⟩ := by
  induction gap with
  | nil => rfl
  | cons c more ih =>
      have miss : pattern (c :: (more ++ rest)) = none :=
        skips (c :: more) (List.cons_ne_nil c more) (List.suffix_refl _)
      have later : pattern.Skips more rest := fun later full isSuffix =>
        skips later full (isSuffix.trans (List.suffix_cons c more))
      rw [List.cons_append, pieces_cons_of_none miss, ih later, List.cons_append]

/-- A match is taken whole, with the gap that the scan of the rest begins with. -/
theorem pieces_append_of_match {taken rest : Text} {value : α} (full : taken ≠ [])
    (hit : pattern (taken ++ rest) = some (value, taken.length)) :
    pattern.pieces (taken ++ rest) =
      ⟨[], (value, (pattern.pieces rest).before) :: (pattern.pieces rest).found⟩ := by
  cases taken with
  | nil => exact absurd rfl full
  | cons c more =>
      have behind : (more ++ rest).drop ((c :: more).length - 1) = rest := by simp
      rw [List.cons_append] at hit ⊢
      rw [pieces_cons_of_some hit, behind]

/-- A gap adds no match. -/
theorem all_append_of_skips {gap rest : Text} (skips : pattern.Skips gap rest) :
    pattern.all (gap ++ rest) = pattern.all rest := by
  simp [all, pieces_append_of_skips skips]

/-- A match comes before those of the rest. -/
theorem all_append_of_match {taken rest : Text} {value : α} (full : taken ≠ [])
    (hit : pattern (taken ++ rest) = some (value, taken.length)) :
    pattern.all (taken ++ rest) = value :: pattern.all rest := by
  simp [all, pieces_append_of_match full hit]

/-- Written texts that begin with a keyword are found one by one, when the pattern takes each
of them, or its beginning, and the keyword does not stand in the gaps or in what is left over
in front of them. -/
theorem forall₂_all_amongGaps {β : Type} {write : β → Text} (fits : β → α → Prop) {mark : Char}
    {more : Text} (onlyAtKeyword : ∀ text, ¬ mark :: more <+: text → pattern text = none)
    (once : mark ∉ more) {parts : List (β × Text)}
    (begins : ∀ part ∈ parts, mark :: more <+: write part.1)
    (hits : ∀ part ∈ parts, ∀ rest, ∃ taken left value, write part.1 = taken ++ left ∧ taken ≠ [] ∧
      pattern (write part.1 ++ rest) = some (value, taken.length) ∧ fits part.1 value ∧
      ¬ mark :: more <:+: left ++ part.2)
    {first : Text} (lacks : ¬ mark :: more <:+: first) :
    List.Forall₂ (fun part => fits part.1) parts
      (pattern.all (Text.amongGaps write first parts)) := by
  induction parts generalizing first with
  | nil =>
      have skips : pattern.Skips first [] :=
        skips_of_not_keyword_isInfix onlyAtKeyword once lacks (by simp)
      rw [Text.amongGaps, List.flatMap_nil, all_append_of_skips skips]
      exact List.Forall₂.nil
  | cons part later ih =>
      obtain ⟨⟨behind, written⟩, begins⟩ := List.forall_mem_cons.mp begins
      obtain ⟨partHits, hits⟩ := List.forall_mem_cons.mp hits
      obtain ⟨taken, left, value, cut, full, hit, isFitting, leftLacks⟩ :=
        partHits (Text.amongGaps write part.2 later)
      have follows : ∀ c ∈ (write part.1 ++ Text.amongGaps write part.2 later).head?, c = mark := by
        simp [← written, eq_comm]
      have skips := skips_of_not_keyword_isInfix onlyAtKeyword once lacks follows
      have goesOn : left ++ Text.amongGaps write part.2 later =
          Text.amongGaps write (left ++ part.2) later := (List.append_assoc _ _ _).symm
      rw [Text.amongGaps_cons, all_append_of_skips skips]
      rw [cut, List.append_assoc] at hit ⊢
      rw [all_append_of_match full hit, goesOn]
      exact List.Forall₂.cons isFitting (ih begins hits leftLacks)

/-- Written matches of a keyword's pattern are found one by one, when no gap between them
holds the keyword. -/
theorem all_amongGaps {β : Type} {write : β → Text} {value : β → α} {mark : Char}
    {more : Text} (onlyAtKeyword : ∀ text, ¬ mark :: more <+: text → pattern text = none)
    (once : mark ∉ more) {parts : List (β × Text)}
    (begins : ∀ part ∈ parts, mark :: more <+: write part.1)
    (hits : ∀ part ∈ parts, ∀ rest,
      pattern (write part.1 ++ rest) = some (value part.1, (write part.1).length))
    {first : Text} (gaps : ∀ gap ∈ first :: parts.map Prod.snd, ¬ mark :: more <:+: gap) :
    pattern.all (Text.amongGaps write first parts) = parts.map fun part => value part.1 := by
  obtain ⟨firstLacks, gaps⟩ := List.forall_mem_cons.mp gaps
  have found := forall₂_all_amongGaps (fun item found => value item = found) onlyAtKeyword once
    begins (fun part within rest => ?_) firstLacks
  · have same : List.Forall₂ Eq (parts.map fun part => value part.1)
        (pattern.all (Text.amongGaps write first parts)) := List.forall₂_map_left_iff.mpr found
    rw [List.forall₂_eq_eq_eq] at same
    exact same.symm
  · obtain ⟨behind, written⟩ := begins part within
    exact ⟨write part.1, [], value part.1, by simp, by simp [← written], hits part within rest,
      rfl, gaps part.2 (List.mem_map_of_mem within)⟩

/-- Every match stands somewhere in the text. -/
theorem exists_of_mem_all {text : Text} {value : α} (isMatch : value ∈ pattern.all text) :
    ∃ later covered, later <:+ text ∧ pattern later = some (value, covered) := by
  -- The scan may be inside a match, so this is shown of every state of the scan.
  suffices general : ∀ covered, value ∈ (pattern.piecesAfter covered text).found.map Prod.fst →
      ∃ later covered, later <:+ text ∧ pattern later = some (value, covered) from
    general 0 isMatch
  clear isMatch
  induction text with
  | nil => simp [piecesAfter]
  | cons c rest ih =>
      intro covered isMatch
      have further {covered : Nat}
          (isMatch : value ∈ (pattern.piecesAfter covered rest).found.map Prod.fst) :
          ∃ later covered, later <:+ c :: rest ∧ pattern later = some (value, covered) := by
        obtain ⟨later, covered, isSuffix, hit⟩ := ih covered isMatch
        exact ⟨later, covered, isSuffix.trans (List.suffix_cons c rest), hit⟩
      cases covered with
      | succ covered => exact further isMatch
      | zero =>
          rw [piecesAfter] at isMatch
          split at isMatch
          · exact further isMatch
          · next found covered hit =>
              rw [List.map_cons, List.mem_cons] at isMatch
              rcases isMatch with rfl | isMatch
              · exact ⟨c :: rest, covered, List.suffix_rfl, hit⟩
              · exact further isMatch

/-- Where the pattern matches, a match is found that begins there or farther in front and
goes on behind that place. -/
theorem exists_mem_all_of_match (before : Text) {later : Text} {value : α} {covered : Nat}
    (full : later ≠ []) (hit : pattern later = some (value, covered)) :
    ∃ front inside found length, before = front ++ inside ∧
      pattern (inside ++ later) = some (found, length) ∧ found ∈ pattern.all (before ++ later) ∧
      (inside = [] ∨ inside.length < length) := by
  -- A match is passed over in one step, so the induction is on the length of what is in front.
  induction size : before.length using Nat.strongRecOn generalizing before with
  | _ size ih =>
      cases before with
      | nil =>
          obtain ⟨c, rest, rfl⟩ := List.exists_cons_of_ne_nil full
          refine ⟨[], [], value, covered, rfl, hit, ?_, Or.inl rfl⟩
          rw [List.nil_append, all, pieces_cons_of_some hit]
          exact List.mem_cons_self
      | cons c more =>
          subst size
          cases atStart : pattern (c :: (more ++ later)) with
          | none =>
              obtain ⟨front, inside, found, length, rfl, around, isFound, reaches⟩ :=
                ih more.length (by simp) more rfl
              refine ⟨c :: front, inside, found, length, rfl, around, ?_, reaches⟩
              rw [List.cons_append, all, pieces_cons_of_none atStart]
              exact isFound
          | some taken =>
              obtain ⟨found, length⟩ := taken
              rw [List.cons_append, all, pieces_cons_of_some atStart]
              by_cases reaches : (c :: more).length < length
              · exact ⟨[], c :: more, found, length, rfl, atStart, List.mem_cons_self,
                  Or.inr reaches⟩
              · have left : (more ++ later).drop (length - 1) = more.drop (length - 1) ++ later :=
                  List.drop_append_of_le_length (by rw [List.length_cons] at reaches; omega)
                have shorter : (more.drop (length - 1)).length < (c :: more).length := by
                  rw [List.length_drop, List.length_cons]
                  omega
                obtain ⟨front, inside, next, width, cut, around, isFound, goesOn⟩ :=
                  ih _ shorter (more.drop (length - 1)) rfl
                refine ⟨c :: more.take (length - 1) ++ front, inside, next, width, ?_, around, ?_,
                  goesOn⟩
                · rw [List.append_assoc, ← cut, List.cons_append, List.take_append_drop]
                · rw [left]
                  exact List.mem_cons_of_mem _ isFound

/-- Erasing keeps a gap as it is. -/
theorem erase_append_of_skips {gap rest : Text} (skips : pattern.Skips gap rest) :
    pattern.erase (gap ++ rest) = gap ++ pattern.erase rest := by
  simp [erase, pieces_append_of_skips skips]

/-- Erasing takes a match away. -/
theorem erase_append_of_match {taken rest : Text} {value : α} (full : taken ≠ [])
    (hit : pattern (taken ++ rest) = some (value, taken.length)) :
    pattern.erase (taken ++ rest) = pattern.erase rest := by
  simp [erase, pieces_append_of_match full hit]

end Pattern

end DesignExport
