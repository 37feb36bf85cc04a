/-
# Written at-blocks are found

The converse of what an at-block captures: a block that is written with a heading, groups
in braces and a closing brace is taken whole, and what stands behind it is not looked at.
So in a text where such blocks alternate with gaps that do not hold the keyword, exactly
these blocks are found, in their order.

The scans are followed along the written block: the heading up to the opening brace, the
groups one by one, and the closing brace.
-/

import DesignExport.Proofs.Sheet.AtBlocks

namespace DesignExport

/-- What a heading says behind its keyword: the condition, or the name. -/
def AtHeading.subject : AtHeading → Text
  | media _ condition _ => condition
  | keyframes _ name _ => name

theorem AtHeading.keyword_isPrefix_text (heading : AtHeading) :
    heading.keyword <+: heading.text := by
  cases heading <;> exact List.prefix_append _ _

/-- A written block in front of any text is its heading in front of an opening brace. -/
theorem NestedBlock.text_append (block : NestedBlock) (rest : Text) :
    block.text ++ rest =
      block.heading.text ++ '{' :: (bodyText block.nested block.blanks ++ rest) := by
  rw [text_eq, List.append_assoc, List.cons_append]

theorem NestedBlock.length_text (block : NestedBlock) :
    block.text.length =
      (bodyText block.nested block.blanks).length + (block.heading.text.length + 1) := by
  rw [text_eq, List.length_append, List.length_cons]
  omega

namespace AtBlock

open NestedBlock

/-! ## Bodies -/

/-- Text without braces is counted off. -/
theorem bodyLength?_append_of_free {run : Text} (free : Text.IsBraceFree run) (rest : Text) :
    bodyLength? false (run ++ rest) = (bodyLength? false rest).map (· + run.length) := by
  induction run with
  | nil => simp
  | cons c more ih =>
      obtain ⟨notOpening, notClosing⟩ := free
      obtain ⟨opens, openings⟩ := not_or.mp (mt List.mem_cons.mpr notOpening)
      obtain ⟨closes, closings⟩ := not_or.mp (mt List.mem_cons.mpr notClosing)
      have stays : (c == '{') = false := by simpa using Ne.symm opens
      have goesOn := ih ⟨openings, closings⟩
      simp [bodyLength?, Ne.symm closes, stays, goesOn, Function.comp_def, Nat.add_assoc]

/-- In a group, everything up to its closing brace is counted off. -/
theorem bodyLength?_append_of_unclosed {group : Text} (unclosed : '}' ∉ group) (rest : Text) :
    bodyLength? true (group ++ '}' :: rest) =
      (bodyLength? false rest).map (· + (group.length + 1)) := by
  induction group with
  | nil => simp [bodyLength?]
  | cons c more ih =>
      obtain ⟨differs, unclosed⟩ := not_or.mp (mt List.mem_cons.mpr unclosed)
      have stays : (c != '}') = true := by simpa using Ne.symm differs
      simp [bodyLength?, stays, ih unclosed, Function.comp_def, Nat.add_assoc]

/-- The body of a written block is taken up to the brace that closes it. -/
theorem bodyLength?_bodyText {nested : List NestedRule} {ending : Text}
    (selectors : ∀ rule ∈ nested, Text.IsBraceFree rule.selector)
    (bodies : ∀ rule ∈ nested, '}' ∉ rule.body) (free : Text.IsBraceFree ending) (rest : Text) :
    bodyLength? false (bodyText nested ending ++ rest) =
      some (bodyText nested ending).length := by
  induction nested with
  | nil =>
      have closed : bodyLength? false ('}' :: rest) = some 1 := by simp [bodyLength?]
      have taken := bodyLength?_append_of_free free ('}' :: rest)
      rw [closed] at taken
      simpa [bodyText, Nat.add_comm] using taken
  | cons rule others ih =>
      obtain ⟨selector, selectors⟩ := List.forall_mem_cons.mp selectors
      obtain ⟨body, bodies⟩ := List.forall_mem_cons.mp bodies
      have shape : bodyText (rule :: others) ending ++ rest =
          rule.selector ++ '{' :: (rule.body ++ '}' :: (bodyText others ending ++ rest)) := by
        simp [bodyText, NestedRule.text]
      have opened (inside : Text) :
          bodyLength? false ('{' :: inside) = (bodyLength? true inside).map (· + 1) := by
        simp [bodyLength?]
      rw [shape, bodyLength?_append_of_free selector, opened,
        bodyLength?_append_of_unclosed body, ih selectors bodies]
      simp [bodyText, NestedRule.text]
      omega

/-! ## Headings -/

theorem media_eq_none {text : Text} (unopened : ¬ ("@media" : Text) <+: text) :
    media text = none := by
  rw [media, mediaLength?, if_neg (mt List.isPrefixOf_iff_prefix.mp unopened), Option.map_none]

/-- Behind a written heading of a media block, the body decides. -/
theorem mediaLength?_heading {gap condition trail : Text}
    (taken : (AtHeading.media gap condition trail).IsTaken) (body : Text) :
    mediaLength? ((AtHeading.media gap condition trail).text ++ '{' :: body) =
      (bodyLength? false body).map
        (· + ((AtHeading.media gap condition trail).text.length + 1)) := by
  obtain ⟨blank, full, clear⟩ := taken
  obtain ⟨gapBlank, trailBlank⟩ := List.forall_mem_append.mp blank
  have noParen : ∀ c ∈ condition, (c != ')') = true := by
    simpa using fun c within => ne_of_mem_of_not_mem within clear
  have paren : (')' != ')') = false := rfl
  have openParen : Text.isBlank '(' = false := by decide
  have brace : Text.isBlank '{' = false := by decide
  have shape : (AtHeading.media gap condition trail).text ++ '{' :: body =
      ("@media" : Text) ++ (gap ++ '(' :: (condition ++ ')' :: (trail ++ '{' :: body))) := by
    simp [AtHeading.text, AtHeading.keyword]
  have keyword (rest : Text) : (("@media" : Text) ++ rest).drop 6 = rest := rfl
  obtain ⟨first, more, rfl⟩ := List.exists_cons_of_ne_nil full
  rw [shape, mediaLength?, if_pos (List.isPrefixOf_iff_prefix.mpr (List.prefix_append _ _)),
    keyword]
  dsimp only
  rw [Text.takeWhile_append_cons gapBlank openParen, Text.dropWhile_append_cons gapBlank openParen]
  simp only
  rw [Text.takeWhile_append_cons noParen paren, Text.dropWhile_append_cons noParen paren]
  simp only
  rw [Text.takeWhile_append_cons trailBlank brace, Text.dropWhile_append_cons trailBlank brace]
  simp only
  congr 1
  funext length
  simp [AtHeading.text, AtHeading.keyword]
  omega

/-- Behind a written heading of a media block, the scan takes what the body gives. -/
theorem media_heading {heading : AtHeading} (taken : heading.IsTaken)
    (isMedia : heading.keyword = ("@media" : Text)) (body : Text) :
    media (heading.text ++ '{' :: body) =
      (bodyLength? false body).map fun length =>
        ((heading.text ++ '{' :: body).take (length + (heading.text.length + 1)),
          length + (heading.text.length + 1)) := by
  cases heading with
  | keyframes gap name trail => exact absurd isMedia (by simp [AtHeading.keyword])
  | media gap condition trail =>
      rw [media, mediaLength?_heading taken, Option.map_map]
      rfl

theorem keyframes_eq_none {text : Text} (unopened : ¬ ("@keyframes" : Text) <+: text) :
    keyframes text = none := by
  rw [keyframes, if_neg (mt List.isPrefixOf_iff_prefix.mp unopened)]

/-- Behind the keyword, a blank and at least one more character, the body decides. -/
theorem keyframes_append {blank first : Char} {others : Text} (isBlank : Text.isBlank blank = true)
    (clear : '{' ∉ blank :: first :: others) (body : Text) :
    keyframes (("@keyframes" : Text) ++ (blank :: first :: others ++ '{' :: body)) =
      (bodyLength? false body).map fun length =>
        (⟨Text.trim (blank :: first :: others),
          (("@keyframes" : Text) ++ (blank :: first :: others ++ '{' :: body)).take
            ((blank :: first :: others).length + length + 11)⟩,
          (blank :: first :: others).length + length + 11) := by
  have noBrace : ∀ c ∈ blank :: first :: others, (c != '{') = true :=
    fun c within => bne_iff_ne.mpr (ne_of_mem_of_not_mem within clear)
  have brace : ('{' != '{') = false := rfl
  have keyword (rest : Text) : (("@keyframes" : Text) ++ rest).drop 10 = rest := rfl
  rw [keyframes, if_pos (List.isPrefixOf_iff_prefix.mpr (List.prefix_append _ _)), keyword,
    Text.takeWhile_append_cons noBrace brace, Text.dropWhile_append_cons noBrace brace]
  dsimp only
  rw [if_pos isBlank]

/-- Behind a written heading of an animation, the scan takes what the body gives, and the
trimmed name. -/
theorem keyframes_heading {heading : AtHeading} (taken : heading.IsTaken)
    (isAnimation : heading.keyword = ("@keyframes" : Text)) (body : Text) :
    keyframes (heading.text ++ '{' :: body) =
      (bodyLength? false body).map fun length =>
        (⟨Text.trim heading.subject,
            (heading.text ++ '{' :: body).take (length + (heading.text.length + 1))⟩,
          length + (heading.text.length + 1)) := by
  cases heading with
  | media gap condition trail => exact absurd isAnimation (by simp [AtHeading.keyword])
  | keyframes gap name trail =>
      obtain ⟨blank, gapFull, nameFull, clear⟩ := taken
      obtain ⟨gapBlank, trailBlank⟩ := List.forall_mem_append.mp blank
      have inGap : '{' ∉ gap := Text.not_mem_of_blank (by decide) gapBlank
      have inTrail : '{' ∉ trail := Text.not_mem_of_blank (by decide) trailBlank
      have noBrace : '{' ∉ gap ++ name ++ trail := by simp [inGap, inTrail, clear]
      have trimmed : Text.trim (gap ++ name ++ trail) = Text.trim name :=
        Text.stripOf_append Text.isBlank gapBlank trailBlank name
      have written : (AtHeading.keyframes gap name trail).text =
          ("@keyframes" : Text) ++ (gap ++ name ++ trail) := by
        simp [AtHeading.text, AtHeading.keyword]
      obtain ⟨c, first, others, inside, isBlank⟩ : ∃ c first others,
          gap ++ name ++ trail = c :: first :: others ∧ Text.isBlank c = true := by
        obtain ⟨c, blanks, rfl⟩ := List.exists_cons_of_ne_nil gapFull
        obtain ⟨first, others, behind⟩ := List.exists_cons_of_ne_nil
          (show blanks ++ name ++ trail ≠ [] by simp [nameFull])
        exact ⟨c, first, others, congrArg (List.cons c) behind, gapBlank c List.mem_cons_self⟩
      rw [inside] at noBrace trimmed written
      rw [written, List.append_assoc, keyframes_append isBlank noBrace, trimmed]
      congr 1
      funext length
      have size : (c :: first :: others).length + length + 11 =
          length + ((("@keyframes" : Text) ++ c :: first :: others).length + 1) := by
        simp
        omega
      rw [size]
      rfl

/-! ## Blocks -/

/-- A media block is taken whole, whatever stands behind it. -/
theorem media_append {block : NestedBlock} (taken : block.IsTaken)
    (isMedia : block.heading.keyword = ("@media" : Text)) (rest : Text) :
    media (block.text ++ rest) = some (block.text, block.text.length) := by
  rw [text_append, media_heading taken.heading isMedia,
    bodyLength?_bodyText taken.selectors taken.bodies taken.ending, Option.map_some,
    ← text_append, ← length_text, List.take_left]

/-- An animation is taken whole, whatever stands behind it, and its name is trimmed. -/
theorem keyframes_append_text {block : NestedBlock} (taken : block.IsTaken)
    (isAnimation : block.heading.keyword = ("@keyframes" : Text)) (rest : Text) :
    keyframes (block.text ++ rest) =
      some (⟨Text.trim block.heading.subject, block.text⟩, block.text.length) := by
  rw [text_append, keyframes_heading taken.heading isAnimation,
    bodyLength?_bodyText taken.selectors taken.bodies taken.ending, Option.map_some,
    ← text_append, ← length_text, List.take_left]

end AtBlock

open AtBlock NestedBlock in
/-- Where written at-blocks of one kind stand between gaps without their keyword, exactly these
blocks are found, in order and word for word: media blocks with their text, and animations with
their text and their trimmed name. -/
theorem written_blocks_found {keyword first : Text} {parts : List (NestedBlock × Text)}
    (taken : ∀ part ∈ parts, part.1.IsTaken)
    (ofKind : ∀ part ∈ parts, part.1.heading.keyword = keyword)
    (gaps : ∀ gap ∈ first :: parts.map Prod.snd, ¬ keyword <:+: gap) :
    (keyword = "@media" →
      mediaBlocks (Text.amongGaps NestedBlock.text first parts) =
        parts.map fun part => part.1.text) ∧
    (keyword = "@keyframes" →
      animations (Text.amongGaps NestedBlock.text first parts) =
        parts.map fun part => ⟨Text.trim part.1.heading.subject, part.1.text⟩) := by
  have begins : ∀ part ∈ parts, keyword <+: part.1.text := by
    intro part within
    rw [← ofKind part within, text_eq]
    exact part.1.heading.keyword_isPrefix_text.trans (List.prefix_append _ _)
  constructor
  · rintro rfl
    exact Pattern.all_amongGaps (fun _ => media_eq_none) (by decide) begins
      (fun part within => media_append (taken part within) (ofKind part within)) gaps
  · rintro rfl
    let found (block : NestedBlock) : Animation := ⟨Text.trim block.heading.subject, block.text⟩
    have hits : ∀ part ∈ parts, ∀ rest,
        keyframes (part.1.text ++ rest) = some (found part.1, part.1.text.length) :=
      fun part within => keyframes_append_text (taken part within) (ofKind part within)
    exact Pattern.all_amongGaps (fun _ => keyframes_eq_none) (by decide) begins hits gaps

open AtBlock NestedBlock in
/-- Two media blocks, one with a brace in its condition and an empty group, behind the
beginning of a keyword and with an open animation between them; and an animation that stands
twice, with a media block between. -/
theorem written_blocks_found_two_kinds :
    let narrow : NestedBlock :=
      ⟨.media " " "width < \x7b1px" "\n", [⟨" .a ", " b: c "⟩, ⟨[], []⟩], "\n"⟩
    let print : NestedBlock := ⟨.media [] "print" [], [], " x "⟩
    let spin : NestedBlock := ⟨.keyframes " \n" " spin 2 " [], [⟨" from ", "a: b"⟩], []⟩
    mediaBlocks (Text.amongGaps NestedBlock.text "@medi"
          [(narrow, "@@keyframes x \x7b"), (print, "\x7d")]) =
        [narrow.text, print.text] ∧
      animations (Text.amongGaps NestedBlock.text [] [(spin, print.text), (spin, [])]) =
        [⟨"spin 2", spin.text⟩, ⟨"spin 2", spin.text⟩] := by
  intro narrow print spin
  constructor
  · exact (written_blocks_found (by decide) (by decide) (by decide)).1 rfl
  · exact (written_blocks_found (by decide) (by decide) (by decide)).2 rfl

end DesignExport
