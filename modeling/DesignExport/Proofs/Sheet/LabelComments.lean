/-
# Label comments

A label comment is a comment whose inside is not empty and holds no star. Every text is
cut in exactly one way into label comments and gaps such that each comment begins at the
first place behind the one before it where a label comment begins at all. It is not
enough that the gaps hold none: a comment can begin in a gap and end in what follows.

The cut is described here without the scan. From one side, the scan takes any such cut
apart into its own parts; from the other, what it makes of a text is such a cut. So the
layers of a text are the pairs of its cut, both halves trimmed, but for those in which a
half is empty or the label is boilerplate.
-/

import DesignExport.Proofs.Sheet.LayerExport

namespace DesignExport.Layer

/-! ## The cut at the label comments -/

/-- The comment with this inside. -/
def commentText (inside : Text) : Text := '/' :: '*' :: inside ++ ['*', '/']

/-- An inside of label comments: it is not empty and holds no star. -/
def IsInside (inside : Text) : Prop := inside ≠ [] ∧ '*' ∉ inside

/-- A label comment begins where the text does. -/
def BeginsComment (text : Text) : Prop := ∃ inside, IsInside inside ∧ commentText inside <+: text

/-- At no place of the gap a label comment begins, wherever in `rest` it might end. -/
def BeginsNone (gap rest : Text) : Prop :=
  ∀ later, later ≠ [] → later <:+ gap → ¬ BeginsComment (later ++ rest)

/-- The comments are label comments, and each stands at the first place where one begins. -/
def IsLeftmost (before : Text) : List (Text × Text) → Prop
  | [] => ∀ inside, IsInside inside → ¬ commentText inside <:+: before
  | (inside, gap) :: later =>
    IsInside inside ∧
      BeginsNone before (commentText inside ++ Text.amongGaps commentText gap later) ∧
      IsLeftmost gap later

/-- The text is cut into these gaps and comments, at its leftmost label comments. -/
structure IsCutOf (cut : Pieces Text) (text : Text) : Prop where
  whole : Text.amongGaps commentText cut.before cut.found = text
  leftmost : IsLeftmost cut.before cut.found

/-- A layer that is not left out: both halves say something, and the label is no boilerplate. -/
def IsKept (layer : Layer) : Prop :=
  layer.label ≠ [] ∧ layer.body ≠ [] ∧ ∀ phrase ∈ noisePhrases, ¬ phrase <:+: layer.label

theorem isKept_iff (layer : Layer) :
    layer.IsKept ↔ layer.label ≠ [] ∧ layer.body ≠ [] ∧ isNoise layer.label = false := by
  simp only [IsKept, isNoise, Text.occursAny, List.any_eq_false, Text.occurs_iff_isInfix]

instance (layer : Layer) : Decidable layer.IsKept := decidable_of_iff _ (isKept_iff layer).symm

/-! ## What the scan makes of a cut -/

/-- A pattern for label comments finds the inside of one, and covers it. -/
theorem comment_eq_some_iff {text inside : Text} {covered : Nat} :
    comment text = some (inside, covered) ↔
      IsInside inside ∧ commentText inside <+: text ∧ covered = (commentText inside).length := by
  constructor
  · intro hit
    unfold comment at hit
    split at hit
    case h_2 => simp at hit
    case h_1 rest =>
    split at hit
    case h_2 => simp at hit
    case h_1 c label behind isInside closed =>
    obtain ⟨rfl, rfl⟩ := Prod.mk.inj (Option.some.inj hit)
    have clear : '*' ∉ c :: label := by
      rw [← isInside]
      intro within
      simpa using List.mem_takeWhile_imp within
    have whole : rest = c :: label ++ '*' :: '/' :: behind := by
      rw [← isInside, ← closed, List.takeWhile_append_dropWhile]
    refine ⟨⟨List.cons_ne_nil c label, clear⟩, ⟨behind, ?_⟩, ?_⟩
    · simp [commentText, whole]
    · simp [commentText]
  · rintro ⟨⟨full, clear⟩, ⟨behind, rfl⟩, rfl⟩
    have hit := comment_append full clear behind
    simpa [commentText] using hit

/-- A label comment is found in front of any text. -/
theorem comment_commentText_append {inside : Text} (isInside : IsInside inside) (rest : Text) :
    comment (commentText inside ++ rest) = some (inside, (commentText inside).length) :=
  comment_eq_some_iff.mpr ⟨isInside, List.prefix_append _ _, rfl⟩

theorem commentText_ne_nil (inside : Text) : commentText inside ≠ [] := by simp [commentText]

theorem comment_eq_none_iff (text : Text) : comment text = none ↔ ¬ BeginsComment text := by
  rw [Option.eq_none_iff_forall_ne_some]
  constructor
  · rintro misses ⟨inside, isInside, isPrefix⟩
    exact misses _ (comment_eq_some_iff.mpr ⟨isInside, isPrefix, rfl⟩)
  · rintro unopened ⟨inside, covered⟩ hit
    obtain ⟨isInside, isPrefix, -⟩ := comment_eq_some_iff.mp hit
    exact unopened ⟨inside, isInside, isPrefix⟩

/-- The scan passes over exactly the gaps in which no label comment begins. -/
theorem skips_iff_beginsNone (gap rest : Text) : comment.Skips gap rest ↔ BeginsNone gap rest :=
  forall₃_congr fun later _ _ => comment_eq_none_iff (later ++ rest)

/-- Behind a gap without label comments the text ends, or the comment behind it begins. -/
theorem beginsNone_nil_iff (gap : Text) :
    BeginsNone gap [] ↔ ∀ inside, IsInside inside → ¬ commentText inside <:+: gap := by
  constructor
  · intro none inside isInside within
    obtain ⟨later, isPrefix, isSuffix⟩ := List.infix_iff_prefix_suffix.mp within
    have full : later ≠ [] := by
      rintro rfl
      simp [commentText] at isPrefix
    apply none later full isSuffix
    rw [List.append_nil]
    exact ⟨inside, isInside, isPrefix⟩
  · rintro none later - isSuffix ⟨inside, isInside, isPrefix⟩
    rw [List.append_nil] at isPrefix
    exact none inside isInside (isPrefix.isInfix.trans isSuffix.isInfix)

/-- A text that is cut at its leftmost label comments is scanned into the parts of the cut. -/
theorem pieces_amongGaps {before : Text} {found : List (Text × Text)}
    (leftmost : IsLeftmost before found) :
    comment.pieces (Text.amongGaps commentText before found) = ⟨before, found⟩ := by
  induction found generalizing before with
  | nil =>
      have skips : comment.Skips before [] := by
        rw [skips_iff_beginsNone, beginsNone_nil_iff]
        exact leftmost
      simpa [Text.amongGaps] using Pattern.pieces_append_of_skips skips
  | cons pair later ih =>
      obtain ⟨isInside, none, others⟩ := leftmost
      have skips := (skips_iff_beginsNone _ _).mpr none
      have hit := comment_commentText_append isInside (Text.amongGaps commentText pair.2 later)
      rw [Text.amongGaps_cons, Pattern.pieces_append_of_skips skips,
        Pattern.pieces_append_of_match (commentText_ne_nil pair.1) hit, ih others, List.append_nil]

/-- One more character, where no label comment begins, belongs to the gap behind it. -/
theorem IsLeftmost.cons {c : Char} {before : Text} {found : List (Text × Text)}
    (leftmost : IsLeftmost before found)
    (unopened : ¬ BeginsComment (c :: Text.amongGaps commentText before found)) :
    IsLeftmost (c :: before) found := by
  have extend {rest : Text} (none : BeginsNone before rest)
      (here : ¬ BeginsComment (c :: (before ++ rest))) : BeginsNone (c :: before) rest := by
    intro later full isSuffix
    rcases List.suffix_cons_iff.mp isSuffix with rfl | within
    · exact here
    · exact none later full within
  cases found with
  | nil =>
      have none : BeginsNone (c :: before) [] :=
        extend ((beginsNone_nil_iff before).mpr leftmost) (by simpa [Text.amongGaps] using unopened)
      exact (beginsNone_nil_iff (c :: before)).mp none
  | cons pair later =>
      obtain ⟨isInside, none, others⟩ := leftmost
      rw [Text.amongGaps_cons] at unopened
      exact ⟨isInside, extend none unopened, others⟩

/-- What the scan makes of a text is its cut at the leftmost label comments. -/
theorem isCutOf_pieces (text : Text) : IsCutOf (comment.pieces text) text := by
  -- A comment is taken in one step, so the induction is on the length of the text.
  induction size : text.length using Nat.strong_induction_on generalizing text with
  | _ size ih =>
      subst size
      cases text with
      | nil =>
          refine ⟨rfl, fun inside _ within => ?_⟩
          simp [commentText, Pattern.pieces_nil] at within
      | cons c rest =>
          cases found : comment (c :: rest) with
          | none =>
              obtain ⟨whole, leftmost⟩ := ih rest.length (by simp) rest rfl
              have unopened := (comment_eq_none_iff _).mp found
              rw [← whole] at unopened
              rw [Pattern.pieces_cons_of_none found]
              exact ⟨congrArg (List.cons c) whole, leftmost.cons unopened⟩
          | some hit =>
              obtain ⟨inside, covered⟩ := hit
              obtain ⟨isInside, ⟨behind, whole⟩, -⟩ := comment_eq_some_iff.mp found
              have shorter : behind.length < (c :: rest).length := by
                have lengths := congrArg List.length whole
                simp [commentText] at lengths ⊢
                omega
              obtain ⟨wholeBehind, leftmost⟩ := ih behind.length shorter behind rfl
              have taken := comment_commentText_append isInside behind
              rw [← whole, Pattern.pieces_append_of_match (commentText_ne_nil inside) taken]
              refine ⟨?_, isInside, ?_, leftmost⟩
              · rw [Text.amongGaps_cons, wholeBehind, List.nil_append]
              · exact fun later full isSuffix => absurd (List.suffix_nil.mp isSuffix) full

/-- No gap of a cut holds a label comment. -/
theorem IsLeftmost.not_isInfix_gap {before : Text} {found : List (Text × Text)}
    (leftmost : IsLeftmost before found) {gap inside : Text}
    (isGap : gap ∈ before :: found.map Prod.snd) (isInside : IsInside inside) :
    ¬ commentText inside <:+: gap := by
  induction found generalizing before with
  | nil =>
      obtain rfl : gap = before := by simpa using isGap
      exact leftmost inside isInside
  | cons pair later ih =>
      obtain ⟨-, none, others⟩ := leftmost
      rcases List.mem_cons.mp isGap with rfl | isLater
      · intro within
        obtain ⟨start, isPrefix, isSuffix⟩ := List.infix_iff_prefix_suffix.mp within
        have full : start ≠ [] := by
          rintro rfl
          simp [commentText] at isPrefix
        exact none start full isSuffix
          ⟨inside, isInside, isPrefix.trans (List.prefix_append start _)⟩
      · exact ih others isLater

/-- The layer of a label and a body, both trimmed. -/
def ofCutPair (pair : Text × Text) : Layer := ⟨Text.trim pair.1, Text.trim pair.2⟩

theorem ofPair?_eq (pair : Text × Text) :
    ofPair? pair = if (ofCutPair pair).IsKept then some (ofCutPair pair) else none := by
  have kept : (ofCutPair pair).IsKept ↔ ¬ ((Text.trim pair.1).isEmpty ||
      (Text.trim pair.2).isEmpty || isNoise (Text.trim pair.1)) = true := by
    rw [isKept_iff]
    simp [ofCutPair, and_assoc]
  simp only [kept, ite_not]
  rfl

/-- Every text has exactly one cut at its leftmost label comments. No gap of it holds a label
comment, and the layers of the text are the trimmed pairs of the cut, in order, without exactly
those in which a half is empty or the label holds a boilerplate phrase. -/
theorem layers_of_leftmost_comments (text : Text) :
    ∃ cut : Pieces Text, IsCutOf cut text ∧ (∀ other, IsCutOf other text → other = cut) ∧
      (∀ gap ∈ cut.before :: cut.found.map Prod.snd, ∀ inside, IsInside inside →
        ¬ commentText inside <:+: gap) ∧
      ofText text = (cut.found.map ofCutPair).filter fun layer => layer.IsKept := by
  have isCut := isCutOf_pieces text
  refine ⟨comment.pieces text, isCut, ?_, ?_, ?_⟩
  · rintro ⟨before, found⟩ ⟨rfl, leftmost⟩
    exact (pieces_amongGaps leftmost).symm
  · exact fun gap isGap inside isInside => isCut.leftmost.not_isInfix_gap isGap isInside
  · rw [ofText, List.filter_map, ← List.filterMap_eq_map, List.filterMap_filter]
    exact List.filterMap_congr fun pair _ => by simpa using ofPair?_eq pair

/-- The first comment ends inside what looks like a second one, which is then none. -/
example : ofText "/*a/*/b*/ c" = [⟨"a/", "b*/ c"⟩] := by decide

end DesignExport.Layer
