/-
# How deep a captured block is nested

Read from left to right, a whole block never closes a brace that is not open, is never
more than two braces deep, and closes its first one with its last character. What the
scans for at-blocks capture need not be whole. A group ends at the first closing brace,
so that an opening brace inside a group is left open; and a heading may hold braces of
its own.

A block whose braces match and that is nested deeper is therefore not left out. It is
captured from its heading on, but cut short: the scan takes the braces that close the
inner groups for those that close the outer group and the block.
-/

import DesignExport.Proofs.Sheet.WrittenBlocks

namespace DesignExport

namespace Text

/-! ## Depth -/

/-- Braces that match, nested at most so deep: read from left to right, their depth stays
between zero and the limit, and it is zero in the end. -/
structure IsNested (limit : Int) (text : Text) : Prop where
  depth : ∀ read, read <+: text → 0 ≤ braceExcess read ∧ braceExcess read ≤ limit
  closed : braceExcess text = 0

/-- A whole block: read from left to right, the depth of its braces stays between zero and
two, and it comes back to zero exactly at the last character. -/
structure IsWhole (text : Text) : Prop where
  depth : ∀ read, read <+: text → 0 ≤ braceExcess read ∧ braceExcess read ≤ 2
  closes : ∀ read c, read ++ [c] <+: text →
    (braceExcess read ≠ 0 ∧ braceExcess (read ++ [c]) = 0 ↔ read ++ [c] = text)

/-- How much deeper a character leads. -/
def braceStep (c : Char) : Int := braceExcess [c]

theorem braceExcess_nil : braceExcess [] = 0 := rfl

theorem braceExcess_cons (c : Char) (rest : Text) :
    braceExcess (c :: rest) = braceStep c + braceExcess rest :=
  braceExcess_append [c] rest

/-- What is read of two texts is read of the first, or goes on into the second. -/
theorem isPrefix_append_iff {read front rest : Text} :
    read <+: front ++ rest ↔ read <+: front ∨ ∃ more, more <+: rest ∧ read = front ++ more := by
  constructor
  · rintro ⟨left, whole⟩
    rcases List.append_eq_append_iff.mp whole with ⟨more, rfl, -⟩ | ⟨more, rfl, rfl⟩
    · exact Or.inl (List.prefix_append read more)
    · exact Or.inr ⟨more, List.prefix_append more left, rfl⟩
  · rintro (within | ⟨more, within, rfl⟩)
    · exact within.trans (List.prefix_append front rest)
    · exact (List.prefix_append_right_inj front).mpr within

/-- What holds of every beginning of a text holds of the empty one, and behind the first
character of every other one. -/
theorem forall_isPrefix_cons_iff {c : Char} {rest : Text} {holds : Text → Prop} :
    (∀ read, read <+: c :: rest → holds read) ↔
      holds [] ∧ ∀ read, read <+: rest → holds (c :: read) := by
  constructor
  · intro all
    exact ⟨all [] List.nil_prefix,
      fun read within => all (c :: read) (List.cons_prefix_cons.mpr ⟨rfl, within⟩)⟩
  · rintro ⟨first, others⟩ read within
    rcases List.prefix_cons_iff.mp within with rfl | ⟨later, rfl, isPrefix⟩
    · exact first
    · exact others later isPrefix

/-- What is read of a text in braces behind a heading: some of the heading, some of the
text behind the opening brace, or everything. -/
theorem isPrefix_braced_iff {read head body : Text} :
    read <+: head ++ '{' :: body ++ ['}'] ↔
      read <+: head ∨ (∃ inside, inside <+: body ∧ read = head ++ '{' :: inside) ∨
        read = head ++ '{' :: body ++ ['}'] := by
  rw [List.prefix_concat_iff, isPrefix_append_iff]
  constructor
  · rintro (rfl | inHead | ⟨more, within, rfl⟩)
    · exact Or.inr (Or.inr rfl)
    · exact Or.inl inHead
    · rcases List.prefix_cons_iff.mp within with rfl | ⟨inside, rfl, isPrefix⟩
      · exact Or.inl (by simp)
      · exact Or.inr (Or.inl ⟨inside, isPrefix, rfl⟩)
  · rintro (inHead | ⟨inside, isPrefix, rfl⟩ | rfl)
    · exact Or.inr (Or.inl inHead)
    · exact Or.inr (Or.inr ⟨'{' :: inside, List.cons_prefix_cons.mpr ⟨rfl, isPrefix⟩, rfl⟩)
    · exact Or.inl rfl

/-- In a text without braces, and only there, the depth is zero throughout. -/
theorem isBraceFree_iff_level {text : Text} :
    IsBraceFree text ↔ ∀ read, read <+: text → braceExcess read = 0 := by
  constructor
  · exact fun free read within => (free.subset within.subset).braceExcess
  · intro level
    rw [isBraceFree_iff]
    rintro c within isBrace
    obtain ⟨before, behind, rfl⟩ := List.append_of_mem within
    have beforeLevel := level before (List.prefix_append _ _)
    have behindLevel := level (before ++ [c]) ⟨behind, by simp⟩
    rw [braceExcess_append, beforeLevel, zero_add] at behindLevel
    rcases isBrace with rfl | rfl
    · exact absurd behindLevel (by decide)
    · exact absurd behindLevel (by decide)

/-- A depth that is zero in the end and never comes back to zero was never anything else. -/
theorem level_of_no_return {text : Text} (closed : braceExcess text = 0)
    (noReturn : ∀ read c, read ++ [c] <+: text → braceExcess read ≠ 0 →
      braceExcess (read ++ [c]) ≠ 0) :
    ∀ read, read <+: text → braceExcess read = 0 := by
  rintro read ⟨more, rfl⟩
  by_contra deep
  induction more generalizing read with
  | nil => exact deep (by simpa using closed)
  | cons c more ih =>
      have shape : read ++ c :: more = read ++ [c] ++ more := by simp
      rw [shape] at closed noReturn
      exact ih (read ++ [c]) closed noReturn
        (noReturn read c (List.prefix_append _ _) deep)

theorem IsBraceFree.isNested {text : Text} (free : IsBraceFree text) {limit : Int}
    (nonneg : 0 ≤ limit) : IsNested limit text where
  depth read within := by
    rw [isBraceFree_iff_level.mp free read within]
    exact ⟨le_rfl, nonneg⟩
  closed := free.braceExcess

/-- Texts that are nested so deep stay so one after the other. -/
theorem IsNested.append {limit : Int} {front rest : Text} (first : IsNested limit front)
    (second : IsNested limit rest) : IsNested limit (front ++ rest) where
  depth read within := by
    rcases isPrefix_append_iff.mp within with inFront | ⟨more, inRest, rfl⟩
    · exact first.depth read inFront
    · rw [braceExcess_append, first.closed, zero_add]
      exact second.depth more inRest
  closed := by rw [braceExcess_append, first.closed, second.closed, zero_add]

theorem braceExcess_opened {head : Text} (free : IsBraceFree head) (inside : Text) :
    braceExcess (head ++ '{' :: inside) = 1 + braceExcess inside := by
  have opening : braceStep '{' = 1 := rfl
  rw [braceExcess_append, braceExcess_cons, free.braceExcess, opening, zero_add]

theorem braceExcess_braced {head body : Text} (free : IsBraceFree head)
    (closed : braceExcess body = 0) : braceExcess (head ++ '{' :: body ++ ['}']) = 0 := by
  have closing : braceExcess ['}'] = -1 := rfl
  rw [braceExcess_append, braceExcess_opened free, closed, closing]
  rfl

/-- Braces around a text, behind a heading without any, nest it one deeper. -/
theorem IsNested.braced {limit : Int} {head body : Text} (free : IsBraceFree head)
    (nested : IsNested limit body) : IsNested (limit + 1) (head ++ '{' :: body ++ ['}']) where
  depth read within := by
    have nonneg := nested.depth body List.prefix_rfl
    rw [nested.closed] at nonneg
    rcases isPrefix_braced_iff.mp within with inHead | ⟨inside, inBody, rfl⟩ | rfl
    · rw [isBraceFree_iff_level.mp free read inHead]
      omega
    · have bounds := nested.depth inside inBody
      rw [braceExcess_opened free]
      omega
    · rw [braceExcess_braced free nested.closed]
      omega
  closed := braceExcess_braced free nested.closed

/-- The depth of a whole block comes back to zero. -/
theorem IsWhole.braceExcess {text : Text} (whole : IsWhole text) (full : text ≠ []) :
    braceExcess text = 0 := by
  obtain ⟨read, c, rfl⟩ := List.eq_nil_or_concat' text |>.resolve_left full
  exact ((whole.closes read c List.prefix_rfl).mpr rfl).2

/-- A text in braces, behind a heading without any, is whole exactly when no group in it
holds another one. -/
theorem isWhole_braced_iff {limit : Int} {head body : Text} (free : IsBraceFree head)
    (nested : IsNested limit body) :
    IsWhole (head ++ '{' :: body ++ ['}']) ↔ IsNested 1 body := by
  constructor
  · intro whole
    refine ⟨fun inside inBody => ⟨(nested.depth inside inBody).1, ?_⟩, nested.closed⟩
    have bounds := whole.depth (head ++ '{' :: inside)
      (isPrefix_braced_iff.mpr (Or.inr (Or.inl ⟨inside, inBody, rfl⟩)))
    rw [braceExcess_opened free] at bounds
    omega
  · intro shallow
    refine ⟨(shallow.braced free).depth, fun read c within => ⟨?_, ?_⟩⟩
    · rintro ⟨deep, back⟩
      rcases isPrefix_braced_iff.mp within with inHead | ⟨inside, inBody, isRead⟩ | isAll
      · exact absurd
          (isBraceFree_iff_level.mp free read ((List.prefix_append read [c]).trans inHead)) deep
      · have bounds := shallow.depth inside inBody
        rw [isRead, braceExcess_opened free] at back
        omega
      · exact isAll
    · intro isAll
      obtain ⟨rfl, -⟩ := List.append_inj' isAll rfl
      rw [isAll, braceExcess_opened free, shallow.closed]
      exact ⟨by decide, braceExcess_braced free shallow.closed⟩

end Text

namespace NestedBlock

/-! ## Captured blocks -/

theorem text_eq_braced (block : NestedBlock) :
    block.text = block.heading.text ++
      '{' :: (block.nested.flatMap NestedRule.text ++ block.blanks) ++ ['}'] := by
  simp [text]

/-- Groups without braces inside are nested one deep. -/
theorem isNested_groups {nested : List NestedRule}
    (selectors : ∀ rule ∈ nested, Text.IsBraceFree rule.selector)
    (bodies : ∀ rule ∈ nested, Text.IsBraceFree rule.body) :
    Text.IsNested 1 (nested.flatMap NestedRule.text) := by
  induction nested with
  | nil =>
      have empty : Text.IsBraceFree [] := by decide
      exact empty.isNested (by decide)
  | cons rule others ih =>
      obtain ⟨selector, selectors⟩ := List.forall_mem_cons.mp selectors
      obtain ⟨body, bodies⟩ := List.forall_mem_cons.mp bodies
      have first : Text.IsNested (0 + 1) rule.text := (body.isNested le_rfl).braced selector
      rw [List.flatMap_cons]
      exact first.append (ih selectors bodies)

/-- A captured block is whole exactly when there is no brace in its heading and no opening
brace in a group. -/
theorem IsTaken.isWhole_iff {block : NestedBlock} (taken : block.IsTaken) :
    Text.IsWhole block.text ↔
      Text.IsBraceFree block.heading.text ∧ ∀ rule ∈ block.nested, '{' ∉ rule.body := by
  have ends := block.text_eq_braced
  constructor
  · intro whole
    have isPrefix : block.heading.text <+: block.text := by
      rw [ends, List.append_assoc]
      exact List.prefix_append _ _
    have closed := whole.braceExcess (by simp [ends])
    -- The heading closes no brace that is not open, so it makes up for none of a group.
    have parts := taken.braceExcess_text
    have nonneg := (whole.depth block.heading.text isPrefix).1
    have headingClosed : Text.braceExcess block.heading.text = 0 := by omega
    have noStray : block.strayBraces = 0 := by omega
    constructor
    · apply Text.isBraceFree_iff_level.mpr
      apply Text.level_of_no_return headingClosed
      intro read c within deep back
      have isAll := (whole.closes read c (within.trans isPrefix)).mp ⟨deep, back⟩
      have size := within.length_le
      rw [isAll, ends] at size
      simp only [List.length_append, List.length_cons] at size
      omega
    · intro rule within
      have count := List.sum_eq_zero_iff_forall_eq_nat.mp noStray (rule.body.count '{')
        (List.mem_map.mpr ⟨rule, within, rfl⟩)
      exact List.count_eq_zero.mp count
  · rintro ⟨free, unopened⟩
    have groups : Text.IsNested 1 (block.nested.flatMap NestedRule.text ++ block.blanks) :=
      (isNested_groups taken.selectors fun rule within =>
        ⟨unopened rule within, taken.bodies rule within⟩).append (taken.ending.isNested (by decide))
    rw [ends, Text.isWhole_braced_iff free groups]
    exact groups

end NestedBlock

namespace AtBlock

/-! ## Blocks with matching braces -/

/-- How deep the scan takes itself to be in a body. -/
def groupDepth (inGroup : Bool) : Int := if inGroup then 1 else 0

/-- Whether a group of the body is open behind a character. -/
def nextGroup (inGroup : Bool) (c : Char) : Bool := if inGroup then c != '}' else c == '{'

/-- A closing brace outside the groups ends the body; behind any other character it goes on. -/
theorem bodyLength?_cons (inGroup : Bool) (c : Char) (rest : Text) :
    bodyLength? inGroup (c :: rest) =
      if inGroup = false ∧ c = '}' then some 1
      else (bodyLength? (nextGroup inGroup c) rest).map (· + 1) := by
  cases inGroup <;> simp [bodyLength?, nextGroup]

theorem groupDepth_le_one (inGroup : Bool) : groupDepth inGroup ≤ 1 := by
  cases inGroup <;> decide

/-- Where the body goes on, the scan follows the depth, but for an opening brace in a group. -/
theorem groupDepth_nextGroup {inGroup : Bool} {c : Char} (goesOn : ¬ (inGroup = false ∧ c = '}')) :
    groupDepth (nextGroup inGroup c) ≤ groupDepth inGroup + Text.braceStep c ∧
      (groupDepth inGroup + Text.braceStep c ≤ 1 →
        groupDepth (nextGroup inGroup c) = groupDepth inGroup + Text.braceStep c) := by
  by_cases opens : c = '{'
  · subst opens
    cases inGroup <;> decide
  · by_cases closes : c = '}'
    · subst closes
      cases inGroup with
      | true => decide
      | false => exact absurd ⟨rfl, rfl⟩ goesOn
    · have free : Text.IsBraceFree [c] := by
        simp [Text.IsBraceFree, Ne.symm opens, Ne.symm closes]
      have stays : nextGroup inGroup c = inGroup := by
        cases inGroup <;> simp [nextGroup, opens, closes]
      rw [stays, Text.braceStep, free.braceExcess, add_zero]
      exact ⟨le_rfl, fun _ => rfl⟩

/-- The scan never takes itself to be deeper than it is. So it ends at the closing brace of
the block at the latest, and not before exactly when it has never been deeper than in a
group. -/
theorem exists_bodyLength?_of_depth {body : Text} (rest : Text) {inGroup : Bool} {depth : Int}
    (atLeast : groupDepth inGroup ≤ depth)
    (opened : ∀ read, read <+: body → 0 ≤ depth + Text.braceExcess read)
    (closed : depth + Text.braceExcess body = 0) :
    ∃ length, bodyLength? inGroup (body ++ '}' :: rest) = some length ∧
      length ≤ body.length + 1 ∧
      (length = body.length + 1 ↔ depth = groupDepth inGroup ∧
        ∀ read, read <+: body → depth + Text.braceExcess read ≤ 1) := by
  induction body generalizing inGroup depth with
  | nil =>
      rw [Text.braceExcess_nil, add_zero] at closed
      subst closed
      cases inGroup with
      | true => exact absurd atLeast (by decide)
      | false =>
          exact ⟨1, by simp [bodyLength?], le_rfl, by simp [groupDepth, Text.braceExcess_nil]⟩
  | cons c more ih =>
      simp only [Text.forall_isPrefix_cons_iff, Text.braceExcess_cons, Text.braceExcess_nil,
        add_zero, ← add_assoc] at opened closed ⊢
      obtain ⟨-, opened⟩ := opened
      have start := opened [] List.nil_prefix
      rw [Text.braceExcess_nil, add_zero] at start
      by_cases ends : inGroup = false ∧ c = '}'
      · -- The scan ends here, but in the body the depth is not yet zero.
        obtain ⟨rfl, rfl⟩ := ends
        have closing : Text.braceStep '}' = -1 := rfl
        refine ⟨1, by simp [bodyLength?], by simp, ?_⟩
        simp only [groupDepth, Bool.false_eq_true, if_false, List.length_cons]
        omega
      · obtain ⟨follows, keepsUp⟩ := groupDepth_nextGroup ends
        have inside := groupDepth_le_one inGroup
        have atLeastNext : groupDepth (nextGroup inGroup c) ≤ depth + Text.braceStep c := by omega
        obtain ⟨length, taken, inTime, whole⟩ := ih atLeastNext opened closed
        refine ⟨length + 1, ?_, by simpa using inTime, ?_⟩
        · rw [List.cons_append, bodyLength?_cons, if_neg ends, taken, Option.map_some]
        · rw [List.length_cons, Nat.add_right_cancel_iff, whole, ← and_assoc, and_congr_left_iff]
          intro bounds
          have bound := bounds [] List.nil_prefix
          rw [Text.braceExcess_nil, add_zero] at bound
          constructor
          · intro same
            omega
          · rintro ⟨same, -⟩
            rw [same] at bound ⊢
            exact (keepsUp bound).symm

/-- The body of a block whose braces match is never left out, and is taken as a whole
exactly when no group of it holds another one. -/
theorem exists_bodyLength?_of_nested {limit : Int} {body : Text}
    (nested : Text.IsNested limit body) (rest : Text) :
    ∃ length, bodyLength? false (body ++ '}' :: rest) = some length ∧
      length ≤ body.length + 1 ∧ (length = body.length + 1 ↔ Text.IsNested 1 body) := by
  have opened : ∀ read, read <+: body → 0 ≤ 0 + Text.braceExcess read := by
    simpa using fun read within => (nested.depth read within).1
  obtain ⟨length, taken, inTime, whole⟩ := exists_bodyLength?_of_depth rest
    (show groupDepth false ≤ 0 by decide) opened (by rw [nested.closed, add_zero])
  refine ⟨length, taken, inTime, whole.trans ?_⟩
  simp only [zero_add]
  constructor
  · rintro ⟨-, bounds⟩
    exact ⟨fun read within => ⟨(nested.depth read within).1, bounds read within⟩, nested.closed⟩
  · exact fun shallow => ⟨rfl, fun read within => (shallow.depth read within).2⟩

end AtBlock

/-! ## Blocks nested deeper -/

/-- A block that is written with a heading and any body. -/
structure BracedBlock where
  heading : AtHeading
  body : Text

namespace BracedBlock

open AtBlock

/-- The block as it is written. -/
def text (block : BracedBlock) : Text := block.heading.text ++ '{' :: block.body ++ ['}']

/-- A block of a keyword whose braces match, however deep. -/
structure IsMatched (keyword : Text) (block : BracedBlock) : Prop where
  heading : block.heading.IsTaken
  ofKind : block.heading.keyword = keyword
  free : Text.IsBraceFree block.heading.text
  nested : ∃ limit, Text.IsNested limit block.body
  once : ¬ keyword <:+: block.body

theorem text_append (block : BracedBlock) (rest : Text) :
    block.text ++ rest = block.heading.text ++ '{' :: (block.body ++ '}' :: rest) := by
  simp [text]

theorem IsMatched.keyword_isPrefix_text {keyword : Text} {block : BracedBlock}
    (matched : block.IsMatched keyword) : keyword <+: block.text := by
  rw [← matched.ofKind, text, List.append_assoc]
  exact block.heading.keyword_isPrefix_text.trans (List.prefix_append _ _)

/-- Of a block whose braces match, the scan takes a beginning, and everything exactly when
it is whole. The keyword does not stand in what is left over. -/
theorem IsMatched.exists_taken {keyword : Text} {block : BracedBlock}
    (matched : block.IsMatched keyword) (unclosed : '}' ∉ keyword) {gap : Text}
    (lacks : ¬ keyword <:+: gap) (rest : Text) :
    ∃ taken left length, block.text = taken ++ left ∧
      bodyLength? false (block.body ++ '}' :: rest) = some length ∧
      taken.length = length + (block.heading.text.length + 1) ∧
      (taken = block.text ↔ Text.IsWhole block.text) ∧ ¬ keyword <:+: left ++ gap := by
  obtain ⟨limit, nested⟩ := matched.nested
  obtain ⟨length, counted, inTime, whole⟩ := exists_bodyLength?_of_nested nested rest
  let inside := block.body ++ ['}']
  have size : inside.length = block.body.length + 1 := by simp [inside]
  have cut : block.text =
      (block.heading.text ++ '{' :: inside.take length) ++ inside.drop length := by
    simp [text, inside]
  have atEnd : inside.take length = inside ↔ length = block.body.length + 1 := by
    rw [List.take_eq_self_iff]
    omega
  refine ⟨_, _, length, cut, counted, ?_, ?_, ?_⟩
  · simp only [List.length_append, List.length_cons, List.length_take]
    omega
  · have all : block.text = block.heading.text ++ '{' :: inside := by simp [text, inside]
    rw [all, List.append_cancel_left_eq, List.cons_inj_right, atEnd, whole, ← all, text,
      Text.isWhole_braced_iff matched.free nested]
  · intro within
    have spread : keyword <:+: block.body ++ '}' :: gap := by
      have isSuffix : inside.drop length ++ gap <:+ inside ++ gap :=
        ⟨inside.take length, by rw [← List.append_assoc, List.take_append_drop]⟩
      simpa [inside] using within.trans isSuffix.isInfix
    rcases Text.isInfix_append_cons_of_not_mem unclosed spread with inBody | inGap
    · exact matched.once inBody
    · exact lacks inGap

/-- A beginning of the block, which is all of it exactly when the block is whole. -/
def IsCapture (block : BracedBlock) (found : Text) : Prop :=
  found <+: block.text ∧ (found = block.text ↔ Text.IsWhole block.text)

/-- Where the scan takes what the body gives, it captures each of the blocks. -/
theorem forall₂_isCapture {α : Type} {pattern : Pattern α} {found : α → Text} {mark : Char}
    {more first : Text} {parts : List (BracedBlock × Text)}
    (onlyAtKeyword : ∀ text, ¬ mark :: more <+: text → pattern text = none)
    (once : mark ∉ more) (unclosed : '}' ∉ mark :: more)
    (atHeading : ∀ heading : AtHeading, heading.IsTaken → heading.keyword = mark :: more →
      ∃ value : Text → α, (∀ text, found (value text) = text) ∧
        ∀ body, pattern (heading.text ++ '{' :: body) =
          (bodyLength? false body).map fun length =>
            (value ((heading.text ++ '{' :: body).take (length + (heading.text.length + 1))),
              length + (heading.text.length + 1)))
    (matched : ∀ part ∈ parts, part.1.IsMatched (mark :: more))
    (gaps : ∀ gap ∈ first :: parts.map Prod.snd, ¬ mark :: more <:+: gap) :
    List.Forall₂ (fun part => IsCapture part.1) parts
      ((pattern.all (Text.amongGaps text first parts)).map found) := by
  obtain ⟨firstLacks, gaps⟩ := List.forall_mem_cons.mp gaps
  rw [List.forall₂_map_right_iff]
  refine Pattern.forall₂_all_amongGaps (fun block value => IsCapture block (found value))
    onlyAtKeyword once (fun part within => (matched part within).keyword_isPrefix_text) ?_
    firstLacks
  intro part within rest
  have isMatched := matched part within
  obtain ⟨taken, left, length, cut, counted, size, isAll, lacks⟩ :=
    isMatched.exists_taken unclosed (gaps _ (List.mem_map_of_mem within)) rest
  obtain ⟨value, isText, hit⟩ := atHeading _ isMatched.heading isMatched.ofKind
  refine ⟨taken, left, value taken, cut, List.ne_nil_of_length_pos (by omega), ?_, ?_, lacks⟩
  · rw [text_append, hit, counted, Option.map_some, ← text_append, ← size, cut, List.append_assoc,
      List.take_left]
  · rw [isText]
    exact ⟨⟨left, cut.symm⟩, isAll⟩

end BracedBlock

open AtBlock BracedBlock in
/-- The at-blocks of a text are headings with groups behind them, and each is whole exactly
when there is no brace in its heading and no opening brace in a group. Where blocks with
matching braces stand in the text, however deep, none of them is left out: from each one a
beginning is captured, and all of it exactly when it is whole. -/
theorem captured_blocks_whole_iff (text : Text) :
    (∃ blocks : List NestedBlock,
      mediaBlocks text ++ (animations text).map Animation.definition =
        blocks.map NestedBlock.text ∧
      ∀ block ∈ blocks, block.IsTaken ∧
        (Text.IsWhole block.text ↔
          Text.IsBraceFree block.heading.text ∧ ∀ rule ∈ block.nested, '{' ∉ rule.body)) ∧
    ∀ keyword first parts, text = Text.amongGaps BracedBlock.text first parts →
      (∀ part ∈ parts, part.1.IsMatched keyword) →
      (∀ gap ∈ first :: parts.map Prod.snd, ¬ keyword <:+: gap) →
      (keyword = "@media" →
        List.Forall₂ (fun part => IsCapture part.1) parts (mediaBlocks text)) ∧
      (keyword = "@keyframes" →
        List.Forall₂ (fun part => IsCapture part.1) parts
          ((animations text).map Animation.definition)) := by
  constructor
  · obtain ⟨blocks, taken, captured⟩ := exists_blocks text
    exact ⟨blocks, captured, fun block within =>
      ⟨taken block within, (taken block within).isWhole_iff⟩⟩
  · rintro keyword first parts rfl matched gaps
    constructor
    · rintro rfl
      rw [mediaBlocks, ← List.map_id (media.all _)]
      exact forall₂_isCapture (fun _ => media_eq_none) (by decide) (by decide)
        (fun heading taken isMedia => ⟨id, fun _ => rfl, media_heading taken isMedia⟩)
        matched gaps
    · rintro rfl
      exact forall₂_isCapture (fun _ => keyframes_eq_none) (by decide) (by decide)
        (fun heading taken isAnimation =>
          ⟨fun text => ⟨Text.trim heading.subject, text⟩, fun _ => rfl,
            keyframes_heading taken isAnimation⟩)
        matched gaps

open AtBlock BracedBlock in
/-- A media block with three levels in front of one with two: both are captured, the first
one in part. -/
theorem captured_blocks_three_levels :
    let deep : BracedBlock := ⟨.media " " "x" " ", " .a { .b { c: d } } "⟩
    let flat : BracedBlock := ⟨.media [] "y" [], ".a { b: c }"⟩
    let parts : List (BracedBlock × Text) := [(deep, " .d { } "), (flat, [])]
    List.Forall₂ (fun part => IsCapture part.1) parts
      (mediaBlocks "@media (x) { .a { .b { c: d } } } .d { } @media(y){.a { b: c }}") := by
  intro deep flat parts
  have run {text : Text} (free : Text.IsBraceFree text) {limit : Int} (nonneg : 0 ≤ limit) :
      Text.IsNested limit text := free.isNested nonneg
  have inner : Text.IsNested 1 (" .b { c: d } " : Text) :=
    ((run (show Text.IsBraceFree " c: d " by decide) le_rfl).braced
      (show Text.IsBraceFree " .b " by decide)).append (run (by decide) (by decide))
  have deepBody : Text.IsNested 2 deep.body :=
    (inner.braced (show Text.IsBraceFree " .a " by decide)).append (run (by decide) (by decide))
  have flatBody : Text.IsNested 1 flat.body :=
    (run (show Text.IsBraceFree " b: c " by decide) le_rfl).braced
      (show Text.IsBraceFree ".a " by decide)
  have deepMatched : deep.IsMatched "@media" :=
    ⟨by decide, rfl, by decide, ⟨2, deepBody⟩, by decide⟩
  have flatMatched : flat.IsMatched "@media" :=
    ⟨by decide, rfl, by decide, ⟨1, flatBody⟩, by decide⟩
  exact ((captured_blocks_whole_iff _).2 "@media" [] parts rfl
    (List.forall_mem_cons.mpr ⟨deepMatched, List.forall_mem_singleton.mpr flatMatched⟩)
    (by decide)).1 rfl

/-- A block with three levels is captured without its last closing brace. -/
theorem not_isWhole_nested_twice :
    AtBlock.mediaBlocks "@media (x) { .a { .b { c: d } } }" =
        ["@media (x) \x7b .a { .b { c: d } }"] ∧
      ¬ Text.IsWhole "@media (x) \x7b .a { .b { c: d } }" := by
  constructor
  · decide
  · intro whole
    exact absurd (whole.braceExcess (by decide)) (by decide)

end DesignExport
