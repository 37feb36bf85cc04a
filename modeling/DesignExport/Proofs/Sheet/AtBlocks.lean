/-
# What an at-block captures

A block that the scan for at-blocks takes has a heading, groups in braces and a
closing brace. Between the groups there is no brace, but a group ends at the
first closing brace and may hold opening ones, and so may a heading hold
braces. A captured block is therefore balanced only when these make up for each
other.
-/

import DesignExport.Proofs.Braces
import DesignExport.Proofs.Sheet.NestedRules
import Mathlib.Algebra.BigOperators.Ring.Finset

namespace DesignExport

/-- A heading as the scan takes it: the gaps are blank and neither a condition nor a
name is empty, but a condition may hold braces and a name closing ones. -/
def AtHeading.IsTaken : AtHeading → Prop
  | media gap condition trail =>
    (∀ c ∈ gap ++ trail, Text.isBlank c = true) ∧ condition ≠ [] ∧ ')' ∉ condition
  | keyframes gap name trail =>
    (∀ c ∈ gap ++ trail, Text.isBlank c = true) ∧ gap ≠ [] ∧ name ≠ [] ∧ '{' ∉ name

instance (heading : AtHeading) : Decidable heading.IsTaken :=
  match heading with
  | .media gap condition trail =>
    inferInstanceAs (Decidable ((∀ c ∈ gap ++ trail, Text.isBlank c = true) ∧ condition ≠ [] ∧
      ')' ∉ condition))
  | .keyframes gap name trail =>
    inferInstanceAs (Decidable ((∀ c ∈ gap ++ trail, Text.isBlank c = true) ∧ gap ≠ [] ∧
      name ≠ [] ∧ '{' ∉ name))

/-- The braces of a group are paired, but for those that its body holds. -/
theorem NestedRule.braceExcess_text {rule : NestedRule}
    (selector : Text.IsBraceFree rule.selector) (body : '}' ∉ rule.body) :
    Text.braceExcess rule.text = rule.body.count '{' := by
  have opening : Text.braceExcess ['{'] = 1 := rfl
  have closing : Text.braceExcess ['}'] = -1 := rfl
  have parts : rule.text = rule.selector ++ ['{'] ++ rule.body ++ ['}'] := by simp [text]
  simp only [parts, Text.braceExcess_append, selector.braceExcess,
    Text.braceExcess_of_not_mem body, opening, closing]
  omega

namespace NestedBlock

/-- A block as the scan takes it: between the groups there is no brace, and a group
ends at its first closing brace. -/
structure IsTaken (block : NestedBlock) : Prop where
  heading : block.heading.IsTaken
  selectors : ∀ rule ∈ block.nested, Text.IsBraceFree rule.selector
  bodies : ∀ rule ∈ block.nested, '}' ∉ rule.body
  ending : Text.IsBraceFree block.blanks

instance (block : NestedBlock) : Decidable block.IsTaken :=
  decidable_of_iff
    (block.heading.IsTaken ∧ (∀ rule ∈ block.nested, Text.IsBraceFree rule.selector) ∧
      (∀ rule ∈ block.nested, '}' ∉ rule.body) ∧ Text.IsBraceFree block.blanks)
    ⟨fun ⟨heading, selectors, bodies, ending⟩ => ⟨heading, selectors, bodies, ending⟩,
     fun taken => ⟨taken.heading, taken.selectors, taken.bodies, taken.ending⟩⟩

/-- What stands behind the opening brace of a block with these groups. -/
def bodyText (nested : List NestedRule) (ending : Text) : Text :=
  nested.flatMap NestedRule.text ++ ending ++ ['}']

theorem text_eq (block : NestedBlock) :
    block.text = block.heading.text ++ '{' :: bodyText block.nested block.blanks := by
  simp [text, bodyText]

/-- How many opening braces stand in the groups of a block. -/
def strayBraces (block : NestedBlock) : Nat :=
  (block.nested.map fun rule => rule.body.count '{').sum

/-- A captured block has too many opening braces by those that its groups hold, and by
what its heading has too many. -/
theorem IsTaken.braceExcess_text {block : NestedBlock} (taken : block.IsTaken) :
    Text.braceExcess block.text = Text.braceExcess block.heading.text + block.strayBraces := by
  have opening : Text.braceExcess ['{'] = 1 := rfl
  have closing : Text.braceExcess ['}'] = -1 := rfl
  have groups : Text.braceExcess (block.nested.map NestedRule.text).flatten =
      (block.nested.map fun rule => ((rule.body.count '{' : Nat) : Int)).sum :=
    Text.braceExcess_flatten_map fun rule within =>
      NestedRule.braceExcess_text (taken.selectors rule within) (taken.bodies rule within)
  have parts : block.text = block.heading.text ++ ['{'] ++
      (block.nested.map NestedRule.text).flatten ++ block.blanks ++ ['}'] := by
    simp [text, List.flatMap]
  simp only [parts, Text.braceExcess_append, groups, taken.ending.braceExcess, opening, closing,
    strayBraces, Nat.cast_list_sum, List.map_map, Function.comp_def]
  omega

end NestedBlock

namespace AtBlock

open NestedBlock

/-- The rest of an open group ends at the first closing brace; the body goes on behind it. -/
theorem exists_of_bodyLength?_inGroup {text : Text} {length : Nat}
    (taken : bodyLength? true text = some length) :
    ∃ group rest more, '}' ∉ group ∧ text = group ++ '}' :: rest ∧
      bodyLength? false rest = some more ∧ length = group.length + 1 + more := by
  induction text generalizing length with
  | nil => simp [bodyLength?] at taken
  | cons c later ih =>
      simp only [bodyLength?, if_true, Option.map_eq_some_iff] at taken
      obtain ⟨left, taken, rfl⟩ := taken
      by_cases closes : c = '}'
      · subst closes
        exact ⟨[], later, left, by simp, rfl, taken, by simp; omega⟩
      · have stays : (c != '}') = true := by simpa using closes
        rw [stays] at taken
        obtain ⟨group, rest, more, clear, rfl, goesOn, rfl⟩ := ih taken
        refine ⟨c :: group, rest, more, ?_, rfl, goesOn, by simp; omega⟩
        simp [Ne.symm closes, clear]

/-- What the scan takes behind an opening brace: groups with no brace between them, up
to a closing brace. -/
theorem exists_of_bodyLength? {text : Text} {length : Nat}
    (taken : bodyLength? false text = some length) :
    ∃ nested ending rest,
      (∀ rule ∈ nested, Text.IsBraceFree rule.selector ∧ '}' ∉ rule.body) ∧
      Text.IsBraceFree ending ∧ text = bodyText nested ending ++ rest ∧
      length = (bodyText nested ending).length := by
  -- An open group is taken in one step, so the induction is on the length of the text.
  induction size : text.length using Nat.strong_induction_on generalizing text length with
  | _ size ih =>
      cases text with
      | nil => simp [bodyLength?] at taken
      | cons c later =>
          subst size
          have shorter (rest : Text) (isSuffix : rest <:+ later) :
              rest.length < (c :: later).length := by
            have := isSuffix.length_le
            simp
            omega
          by_cases closes : c = '}'
          · subst closes
            obtain rfl : 1 = length := by simpa [bodyLength?] using taken
            exact ⟨[], [], later, by simp, by simp [Text.IsBraceFree], rfl, rfl⟩
          · by_cases opens : c = '{'
            · subst opens
              obtain ⟨left, inGroup, rfl⟩ : ∃ left, bodyLength? true later = some left ∧
                  left + 1 = length := by simpa [bodyLength?] using taken
              obtain ⟨group, rest, more, clear, rfl, goesOn, rfl⟩ :=
                exists_of_bodyLength?_inGroup inGroup
              obtain ⟨nested, ending, behind, plain, free, rfl, rfl⟩ :=
                ih _ (shorter rest (List.suffix_append_of_suffix (List.suffix_cons _ _))) goesOn rfl
              refine ⟨⟨[], group⟩ :: nested, ending, behind, ?_, free, ?_, ?_⟩
              · simpa [Text.IsBraceFree, clear] using plain
              · simp [bodyText, NestedRule.text]
              · simp [bodyText, NestedRule.text]
                omega
            · obtain ⟨left, goesOn, rfl⟩ : ∃ left, bodyLength? false later = some left ∧
                  left + 1 = length := by
                have stays : (c == '{') = false := by simpa using opens
                simpa [bodyLength?, closes, stays] using taken
              obtain ⟨nested, ending, behind, plain, free, rfl, rfl⟩ :=
                ih _ (shorter later List.suffix_rfl) goesOn rfl
              -- The character belongs to the text in front of the first group, if there is one.
              cases nested with
              | nil =>
                  refine ⟨[], c :: ending, behind, by simp, ?_, rfl, rfl⟩
                  simpa [Text.IsBraceFree, Ne.symm closes, Ne.symm opens] using free
              | cons first others =>
                  obtain ⟨firstPlain, othersPlain⟩ := List.forall_mem_cons.mp plain
                  refine ⟨⟨c :: first.selector, first.body⟩ :: others, ending, behind, ?_, free,
                    rfl, rfl⟩
                  rw [List.forall_mem_cons]
                  refine ⟨⟨?_, firstPlain.2⟩, othersPlain⟩
                  simpa [Text.IsBraceFree, Ne.symm closes, Ne.symm opens] using firstPlain.1

/-- The scan for media blocks takes a written block. -/
theorem exists_of_mediaLength? {text : Text} {length : Nat}
    (taken : mediaLength? text = some length) :
    ∃ block : NestedBlock, block.IsTaken ∧ block.text <+: text ∧ block.text.length = length := by
  rw [mediaLength?] at taken
  split at taken
  case isFalse => simp at taken
  case isTrue isPrefix =>
  obtain ⟨behind, rfl⟩ := List.isPrefixOf_iff_prefix.mp isPrefix
  have keyword : (("@media" : Text) ++ behind).drop 6 = behind := rfl
  rw [keyword] at taken
  dsimp only at taken
  split at taken
  case h_2 => simp at taken
  case h_1 inside opened =>
  split at taken
  case h_2 => simp at taken
  case h_1 first others paren after isCondition closed =>
  split at taken
  case h_2 => simp at taken
  case h_1 body braced =>
  rw [Option.map_eq_some_iff] at taken
  obtain ⟨bodyLength, taken, rfl⟩ := taken
  obtain ⟨nested, ending, rest, plain, free, rfl, rfl⟩ := exists_of_bodyLength? taken
  obtain ⟨wholeBehind, -⟩ := Text.eq_takeWhile_append opened
  obtain ⟨wholeInside, isParen⟩ := Text.eq_takeWhile_append closed
  obtain ⟨wholeAfter, -⟩ := Text.eq_takeWhile_append braced
  obtain rfl : paren = ')' := by simpa using isParen
  let heading : AtHeading := .media (behind.takeWhile Text.isBlank)
    (inside.takeWhile (· != ')')) (after.takeWhile Text.isBlank)
  have headingTaken : heading.IsTaken := by
    refine ⟨?_, by simp [isCondition], fun within => ?_⟩
    · intro c within
      rcases List.mem_append.mp within with inGap | inTrail
      · exact List.mem_takeWhile_imp inGap
      · exact List.mem_takeWhile_imp inTrail
    · simpa using List.mem_takeWhile_imp within
  refine ⟨⟨heading, nested, ending⟩, ⟨headingTaken, ?_, ?_, free⟩, ⟨rest, ?_⟩, ?_⟩
  · exact fun rule within => (plain rule within).1
  · exact fun rule within => (plain rule within).2
  · conv_rhs => rw [wholeBehind, wholeInside, wholeAfter]
    simp [text_eq, heading, AtHeading.text, AtHeading.keyword]
  · simp [text_eq, heading, AtHeading.text, AtHeading.keyword]
    omega

/-- A media block that is found is a written block. -/
theorem exists_of_mem_mediaBlocks {text found : Text} (isFound : found ∈ mediaBlocks text) :
    ∃ block : NestedBlock, block.IsTaken ∧ block.text = found := by
  obtain ⟨later, covered, -, hit⟩ := Pattern.exists_of_mem_all isFound
  obtain ⟨length, taken, value⟩ := Option.map_eq_some_iff.mp hit
  obtain ⟨block, blockTaken, isPrefix, rfl⟩ := exists_of_mediaLength? taken
  obtain ⟨rfl, -⟩ := Prod.mk.inj value
  exact ⟨block, blockTaken, List.prefix_iff_eq_take.mp isPrefix⟩

/-- The scan for animations takes a written block. -/
theorem exists_of_keyframes {text : Text} {animation : Animation} {covered : Nat}
    (taken : keyframes text = some (animation, covered)) :
    ∃ block : NestedBlock, block.IsTaken ∧ block.text = animation.definition := by
  rw [keyframes] at taken
  split at taken
  case isFalse => simp at taken
  case isTrue isPrefix =>
  obtain ⟨behind, rfl⟩ := List.isPrefixOf_iff_prefix.mp isPrefix
  have keyword : (("@keyframes" : Text) ++ behind).drop 10 = behind := rfl
  rw [keyword] at taken
  dsimp only at taken
  split at taken
  case h_2 => simp at taken
  case h_1 blank first others brace body isHeading braced =>
  split at taken
  case isFalse => simp at taken
  case isTrue isBlank =>
  rw [Option.map_eq_some_iff] at taken
  obtain ⟨bodyLength, taken, isFound⟩ := taken
  obtain ⟨nested, ending, rest, plain, free, rfl, rfl⟩ := exists_of_bodyLength? taken
  obtain ⟨wholeBehind, isBrace⟩ := Text.eq_takeWhile_append braced
  obtain rfl : brace = '{' := by simpa using isBrace
  rw [isHeading] at wholeBehind isFound
  have clear : '{' ∉ blank :: first :: others := by
    rw [← isHeading]
    intro within
    simpa using List.mem_takeWhile_imp within
  let block : NestedBlock := ⟨.keyframes [blank] (first :: others) [], nested, ending⟩
  have whole : ("@keyframes" : Text) ++ behind = block.text ++ rest := by
    rw [wholeBehind]
    simp [block, text_eq, AtHeading.text, AtHeading.keyword]
  have size : (blank :: first :: others).length + (bodyText nested ending).length + 11 =
      block.text.length := by
    simp [block, text_eq, AtHeading.text, AtHeading.keyword]
    omega
  rw [size, whole, List.take_left] at isFound
  refine ⟨block, ⟨⟨?_, ?_, ?_, ?_⟩, ?_, ?_, free⟩, ?_⟩
  · simpa using isBlank
  · simp
  · simp
  · exact mt (List.mem_cons_of_mem blank) clear
  · exact fun rule within => (plain rule within).1
  · exact fun rule within => (plain rule within).2
  · exact congrArg (fun found => found.1.definition) isFound

theorem exists_of_mem_animations {text : Text} {found : Animation}
    (isFound : found ∈ animations text) :
    ∃ block : NestedBlock, block.IsTaken ∧ block.text = found.definition := by
  obtain ⟨later, covered, -, hit⟩ := Pattern.exists_of_mem_all isFound
  exact exists_of_keyframes hit

/-- The at-blocks that are found, media blocks first, are blocks as the scans take them. -/
theorem exists_blocks (text : Text) :
    ∃ blocks : List NestedBlock, (∀ block ∈ blocks, block.IsTaken) ∧
      mediaBlocks text ++ (animations text).map Animation.definition =
        blocks.map NestedBlock.text := by
  have each : ∀ found ∈ mediaBlocks text ++ (animations text).map Animation.definition,
      ∃ block : NestedBlock, block.IsTaken ∧ block.text = found := by
    intro found isFound
    rcases List.mem_append.mp isFound with isMedia | isDefinition
    · exact exists_of_mem_mediaBlocks isMedia
    · obtain ⟨animation, isAnimation, rfl⟩ := List.mem_map.mp isDefinition
      exact exists_of_mem_animations isAnimation
  generalize mediaBlocks text ++ (animations text).map Animation.definition =
    founds at each
  induction founds with
  | nil => exact ⟨[], by simp, rfl⟩
  | cons found others ih =>
      obtain ⟨⟨block, taken, rfl⟩, later⟩ := List.forall_mem_cons.mp each
      obtain ⟨blocks, areTaken, rfl⟩ := ih later
      exact ⟨block :: blocks, List.forall_mem_cons.mpr ⟨taken, areTaken⟩, rfl⟩

end AtBlock

end DesignExport
