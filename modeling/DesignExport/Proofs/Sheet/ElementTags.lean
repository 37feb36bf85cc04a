/-
# Which rows of the tag table decide

The tag of a selector is that of the first row with a part that occurs in the selector, in
whatever word the part stands. So a part keeps its tag in every text around it that adds no
part of an earlier row exactly when it holds no such part itself.

One part of the table does: the row of `p` stands before that of `span`. No selector is
given the tag of a span.
-/

import DesignExport.Proofs.Text
import DesignExport.Sheet.Outline
import Mathlib.Data.List.Nodup

namespace DesignExport

/-- The part stands in the text of the three only inside the middle. -/
def Text.OnlyInside (part front middle behind : Text) : Prop :=
  ∀ before rest, before ++ part ++ rest = front ++ middle ++ behind →
    front.length ≤ before.length ∧ behind.length ≤ rest.length

/-- A part that stands in the whole text and only inside its middle is a part of the middle. -/
theorem Text.OnlyInside.isInfix {part front middle behind : Text}
    (only : Text.OnlyInside part front middle behind)
    (stands : part <:+: front ++ middle ++ behind) : part <:+: middle := by
  obtain ⟨before, rest, whole⟩ := stands
  obtain ⟨frontLe, behindLe⟩ := only before rest whole
  -- The text in front of the part runs on past the front, and that behind it past the end.
  have startsWith : front <+: before := by
    rw [List.append_assoc, List.append_assoc] at whole
    exact List.prefix_of_prefix_length_le ⟨_, rfl⟩ ⟨_, whole⟩ frontLe
  have endsWith : behind <:+ rest :=
    List.suffix_of_suffix_length_le ⟨front ++ middle, rfl⟩ ⟨before ++ part, whole⟩ behindLe
  obtain ⟨left, rfl⟩ := startsWith
  obtain ⟨right, rfl⟩ := endsWith
  have inMiddle : (left ++ part ++ right) ++ behind = middle ++ behind := by
    simpa only [List.append_assoc, List.append_cancel_left_eq] using whole
  exact ⟨left, right, List.append_cancel_right inMiddle⟩

namespace Outline

variable {earlier later : List (List Text × Text)} {row : List Text × Text} {selector : Text}

/-- The tags of the rows differ, and none is that of a selector without any part. -/
theorem tags_differ : (tagRows.map Prod.snd).Nodup ∧ ("div" : Text) ∉ tagRows.map Prod.snd := by
  decide +kernel

theorem ne_tag_of_mem_earlier (isTable : tagRows = earlier ++ row :: later)
    {other : List Text × Text} (isEarlier : other ∈ earlier) : other.2 ≠ row.2 := by
  have differ := tags_differ.1
  rw [isTable, List.map_append, List.nodup_append] at differ
  exact differ.2.2 other.2 (List.mem_map_of_mem isEarlier) row.2 (by simp)

theorem occursAny_of_isInfix {parts : List Text} {part : Text} (isPart : part ∈ parts)
    (stands : part <:+: selector) : Text.occursAny parts selector = true :=
  List.any_eq_true.mpr ⟨part, isPart, (Text.occurs_iff_isInfix part selector).mpr stands⟩

/-- A row decides if it has a part that occurs and no earlier row has one. -/
theorem tagOf_eq_of_first (isTable : tagRows = earlier ++ row :: later)
    (occurs : Text.occursAny row.1 selector = true)
    (silent : ∀ other ∈ earlier, Text.occursAny other.1 selector = false) :
    tagOf selector = row.2 := by
  have noEarlier : earlier.find? (fun other => Text.occursAny other.1 selector) = none :=
    List.find?_eq_none.mpr fun other isEarlier => by simp [silent other isEarlier]
  have found : tagRows.find? (fun row => Text.occursAny row.1 selector) = some row := by
    rw [isTable, List.find?_append, noEarlier, Option.none_or]
    exact List.find?_cons_of_pos occurs
  rw [tagOf, found]

/-- A row does not decide where an earlier row has a part that occurs. -/
theorem tagOf_ne_of_earlier (isTable : tagRows = earlier ++ row :: later)
    {other : List Text × Text} (isEarlier : other ∈ earlier)
    (occurs : Text.occursAny other.1 selector = true) : tagOf selector ≠ row.2 := by
  have isFound : (earlier.find? fun other => Text.occursAny other.1 selector).isSome :=
    List.find?_isSome.mpr ⟨other, isEarlier, occurs⟩
  obtain ⟨first, isFirst⟩ := Option.isSome_iff_exists.mp isFound
  have found : tagRows.find? (fun row => Text.occursAny row.1 selector) = some first := by
    rw [isTable, List.find?_append, isFirst, Option.some_or]
  rw [tagOf, found]
  exact ne_tag_of_mem_earlier isTable (List.mem_of_find?_eq_some isFirst)

/-- A row that decides has a part that occurs. -/
theorem occursAny_of_tagOf_eq (isRow : row ∈ tagRows) (isTag : tagOf selector = row.2) :
    Text.occursAny row.1 selector = true := by
  rw [tagOf] at isTag
  split at isTag
  · next first found =>
      have same : first = row :=
        List.inj_on_of_nodup_map tags_differ.1 (List.mem_of_find?_eq_some found) isRow isTag
      subst same
      simpa using List.find?_some found
  · exact absurd (isTag ▸ List.mem_map_of_mem isRow) tags_differ.2

/-- A part keeps its tag in every text around it that adds no part of an earlier row if and
only if no part of an earlier row stands in it. -/
theorem tagOf_around_iff (isTable : tagRows = earlier ++ row :: later) {needle : Text}
    (isNeedle : needle ∈ row.1) :
    (∀ front behind : Text,
        (∀ other ∈ earlier, ∀ part ∈ other.1, Text.OnlyInside part front needle behind) →
        tagOf (front ++ needle ++ behind) = row.2) ↔
      ∀ other ∈ earlier, ∀ part ∈ other.1, ¬ part <:+: needle := by
  constructor
  · intro keeps other isEarlier part isPart stands
    have alone : tagOf needle = row.2 := by
      simpa using keeps [] [] fun _ _ _ _ _ _ _ => ⟨Nat.zero_le _, Nat.zero_le _⟩
    exact tagOf_ne_of_earlier isTable isEarlier (occursAny_of_isInfix isPart stands) alone
  · intro clear front behind only
    refine tagOf_eq_of_first isTable
      (occursAny_of_isInfix isNeedle ⟨front, behind, rfl⟩) fun other isEarlier => ?_
    refine List.any_eq_false.mpr fun part isPart occurs => ?_
    have stands := (Text.occurs_iff_isInfix part _).mp occurs
    exact clear other isEarlier part isPart ((only other isEarlier part isPart).isInfix stands)

/-- Of all parts of the table only one holds a part of an earlier row. -/
theorem holds_earlier_part_iff (isTable : tagRows = earlier ++ row :: later) {needle : Text}
    (isNeedle : needle ∈ row.1) :
    (∀ other ∈ earlier, ∀ part ∈ other.1, ¬ part <:+: needle) ↔ needle ≠ "span" := by
  have table : ∀ n < 17, ∀ row ∈ (tagRows.drop n).take 1, ∀ needle ∈ row.1,
      (∀ other ∈ tagRows.take n, ∀ part ∈ other.1, Text.occurs part needle = false) ↔
        needle ≠ "span" := by
    decide +kernel
  have size : earlier.length < 17 := by
    have length := congrArg List.length isTable
    rw [List.length_append, List.length_cons] at length
    have rows : tagRows.length = 17 := rfl
    omega
  have at_row := table earlier.length size row (by simp [isTable]) needle isNeedle
  rw [isTable, List.take_left] at at_row
  rw [← at_row]
  refine forall₂_congr fun other isEarlier => forall₂_congr fun part isPart => ?_
  rw [← Text.occurs_iff_isInfix, Bool.not_eq_true]

theorem tagRows_at_span :
    tagRows = tagRows.take 12 ++ ((["span"], "span") : List Text × Text) :: tagRows.drop 13 := rfl

/-- A part keeps the tag of its row in every text around it that adds no part of an earlier
row, unless it is the part of the span row. That row never decides, since the part `p` of an
earlier row occurs wherever its own part does. -/
theorem tagOf_keyword_iff (isTable : tagRows = earlier ++ row :: later) {needle : Text}
    (isNeedle : needle ∈ row.1) :
    ((∀ front behind : Text,
        (∀ other ∈ earlier, ∀ part ∈ other.1, Text.OnlyInside part front needle behind) →
        tagOf (front ++ needle ++ behind) = row.2) ↔ needle ≠ "span") ∧
      ∀ selector, tagOf selector ≠ "span" := by
  refine ⟨(tagOf_around_iff isTable isNeedle).trans (holds_earlier_part_iff isTable isNeedle),
    fun selector isSpan => ?_⟩
  have isRow : ((["span"], "span") : List Text × Text) ∈ tagRows :=
    tagRows_at_span ▸ List.mem_append_right _ List.mem_cons_self
  have occurs := occursAny_of_tagOf_eq isRow isSpan
  obtain ⟨part, isPart, stands⟩ := List.any_eq_true.mp occurs
  obtain rfl := List.mem_singleton.mp isPart
  have inSpan : ("p" : Text) <:+: "span" := ⟨"s", "an", rfl⟩
  have inSelector := inSpan.trans ((Text.occurs_iff_isInfix _ _).mp stands)
  have isEarlier : ((["p", "text"], "p") : List Text × Text) ∈ tagRows.take 12 := by decide +kernel
  exact tagOf_ne_of_earlier tagRows_at_span isEarlier
    (occursAny_of_isInfix List.mem_cons_self inSelector) isSpan

/-- The part `image`, which holds the part `a` of a later row. -/
theorem tagOf_keyword_iff_image :
    let earlier := tagRows.take 13
    let row : List Text × Text := (["img", "image"], "img")
    (tagRows = earlier ++ row :: tagRows.drop 14 ∧ ("image" : Text) ∈ row.1) ∧
      ((∀ front behind : Text,
          (∀ other ∈ earlier, ∀ part ∈ other.1, Text.OnlyInside part front "image" behind) →
          tagOf (front ++ "image" ++ behind) = row.2) ↔ ("image" : Text) ≠ "span") ∧
      ∀ selector, tagOf selector ≠ "span" := by
  intro earlier row
  have isTable : tagRows = earlier ++ row :: tagRows.drop 14 := rfl
  have isNeedle : ("image" : Text) ∈ row.1 := List.mem_cons_of_mem _ List.mem_cons_self
  exact ⟨⟨isTable, isNeedle⟩, tagOf_keyword_iff isTable isNeedle⟩

/-- The selector of a span adds nothing around the part of its row, and is given the tag of
the earlier row whose part stands inside it. -/
theorem span_given_earlier_tag :
    let front : Text := []
    let needle : Text := "span"
    let behind : Text := []
    let row : List Text × Text := ([needle], "span")
    (tagRows = tagRows.take 12 ++ row :: tagRows.drop 13 ∧
      ∀ other ∈ tagRows.take 12, ∀ part ∈ other.1, Text.OnlyInside part front needle behind) ∧
      tagOf (front ++ needle ++ behind) = "p" ∧ tagOf (front ++ needle ++ behind) ≠ row.2 := by
  intro front needle behind row
  have isGiven : tagOf (front ++ needle ++ behind) = "p" := by decide +kernel
  refine ⟨⟨tagRows_at_span, fun _ _ _ _ _ _ _ => ⟨Nat.zero_le _, Nat.zero_le _⟩⟩, isGiven, ?_⟩
  rw [isGiven]
  decide

end Outline

end DesignExport
