/-
# Rules nested in an at-block

A media block or an animation holds rules that apply only under its heading.
The scan for braced rules knows no nesting: the heading takes everything up to
the first closing brace for its body, so the first nested rule goes with the
heading, and every later one is read as a rule of its own. This module says
exactly what an at-block between other texts adds to the rules, and so when it
adds none: when nothing that the scan reads off it has a selector that names a
class, an identifier or a pseudo-element.
-/

import DesignExport.Proofs.Sheet.BracedRules
import DesignExport.Code.Css
import DesignExport.Sheet.Reading

namespace DesignExport

/-- The heading of a media block or of an animation: the keyword, and a condition
in parentheses or a name, with blanks between and behind. -/
inductive AtHeading where
  | media (gap condition trail : Text)
  | keyframes (gap name trail : Text)

namespace AtHeading

/-- The keyword of a heading. -/
def keyword : AtHeading → Text
  | media .. => ['@', 'm', 'e', 'd', 'i', 'a']
  | keyframes .. => ['@', 'k', 'e', 'y', 'f', 'r', 'a', 'm', 'e', 's']

/-- The written heading. -/
def text (heading : AtHeading) : Text :=
  heading.keyword ++
    match heading with
    | media gap condition trail => gap ++ '(' :: condition ++ ')' :: trail
    | keyframes gap name trail => gap ++ name ++ trail

/-- The gaps are blank, a condition holds no closing parenthesis, a name is not
empty, and a heading has no brace. -/
def WellFormed : AtHeading → Prop
  | media gap condition trail =>
    (∀ c ∈ gap ++ trail, Text.isBlank c = true) ∧
      ∀ c ∈ condition, c ≠ ')' ∧ c ≠ '{' ∧ c ≠ '}'
  | keyframes gap name trail =>
    (∀ c ∈ gap ++ trail, Text.isBlank c = true) ∧ gap ≠ [] ∧ name ≠ [] ∧
      ∀ c ∈ name, c ≠ '{' ∧ c ≠ '}'

instance (heading : AtHeading) : Decidable heading.WellFormed :=
  match heading with
  | media gap condition trail =>
    inferInstanceAs (Decidable ((∀ c ∈ gap ++ trail, Text.isBlank c = true) ∧
      ∀ c ∈ condition, c ≠ ')' ∧ c ≠ '{' ∧ c ≠ '}'))
  | keyframes gap name trail =>
    inferInstanceAs (Decidable ((∀ c ∈ gap ++ trail, Text.isBlank c = true) ∧ gap ≠ [] ∧
      name ≠ [] ∧ ∀ c ∈ name, c ≠ '{' ∧ c ≠ '}'))

end AtHeading

/-- A rule in an at-block: a selector and the text between its braces. -/
structure NestedRule where
  selector : Text
  body : Text

namespace NestedRule

/-- The written rule. -/
def text (rule : NestedRule) : Text := rule.selector ++ '{' :: rule.body ++ ['}']

/-- A flat rule: neither part is empty or holds a brace. -/
structure WellFormed (rule : NestedRule) : Prop where
  selector_full : rule.selector ≠ []
  selector_clear : ∀ c ∈ rule.selector, c ≠ '{' ∧ c ≠ '}'
  body_full : rule.body ≠ []
  body_clear : ∀ c ∈ rule.body, c ≠ '{' ∧ c ≠ '}'

instance (rule : NestedRule) : Decidable rule.WellFormed :=
  decidable_of_iff
    (rule.selector ≠ [] ∧ (∀ c ∈ rule.selector, c ≠ '{' ∧ c ≠ '}') ∧
      rule.body ≠ [] ∧ ∀ c ∈ rule.body, c ≠ '{' ∧ c ≠ '}')
    ⟨fun ⟨selector_full, selector_clear, body_full, body_clear⟩ =>
      ⟨selector_full, selector_clear, body_full, body_clear⟩,
     fun wellFormed => ⟨wellFormed.selector_full, wellFormed.selector_clear,
      wellFormed.body_full, wellFormed.body_clear⟩⟩

end NestedRule

/-- A media block or an animation with flat rules, and the blanks in front of its
closing brace. -/
structure NestedBlock where
  heading : AtHeading
  nested : List NestedRule
  blanks : Text

namespace NestedBlock

/-- The written block. -/
def text (block : NestedBlock) : Text :=
  block.heading.text ++ '{' :: block.nested.flatMap NestedRule.text ++ block.blanks ++ ['}']

/-- A block that is written as it should be and in which no comment begins. -/
structure WellFormed (block : NestedBlock) : Prop where
  heading : block.heading.WellFormed
  nested : ∀ rule ∈ block.nested, rule.WellFormed
  blanks : ∀ c ∈ block.blanks, Text.isBlank c = true
  noComment : ¬ ['/', '*'] <:+: block.text

instance (block : NestedBlock) : Decidable block.WellFormed :=
  decidable_of_iff
    (block.heading.WellFormed ∧ (∀ rule ∈ block.nested, rule.WellFormed) ∧
      (∀ c ∈ block.blanks, Text.isBlank c = true) ∧
      ¬ Text.occurs ['/', '*'] block.text = true)
    ⟨fun ⟨heading, nested, blanks, noComment⟩ =>
      ⟨heading, nested, blanks, mt (Text.occurs_iff_isInfix _ _).mpr noComment⟩,
     fun ⟨heading, nested, blanks, noComment⟩ =>
      ⟨heading, nested, blanks, mt (Text.occurs_iff_isInfix _ _).mp noComment⟩⟩

/-- What the scan for braced rules reads off a block: the heading with everything
up to the first closing brace, unless there is nothing, and every nested rule
but the first. -/
def scanned (block : NestedBlock) : List (Text × Text) :=
  match block.nested with
  | [] => if block.blanks.isEmpty then [] else [(block.heading.text, block.blanks)]
  | first :: later =>
    (block.heading.text, first.selector ++ '{' :: first.body) ::
      later.map fun rule => (rule.selector, rule.body)

/-- The rules that a block adds to those of the text around it. -/
def leaked (block : NestedBlock) : List StyleRule := block.scanned.filterMap Selector.ruleOf?

end NestedBlock

/-- Whether a rule is kept for what stands in front of a brace. -/
def Selector.NamesRule (raw : Text) : Prop :=
  (isPlain (clean raw) && isSpecific (clean raw)) = true

theorem Selector.ruleOf?_eq_none_iff (raw body : Text) :
    ruleOf? (raw, body) = none ↔ ¬ NamesRule raw := by
  simp [ruleOf?, NamesRule]

/-! ## Reading a block -/

theorem not_mem_of_blank {blanks : Text} (blank : ∀ c ∈ blanks, Text.isBlank c = true) :
    '{' ∉ blanks ∧ '}' ∉ blanks :=
  ⟨Text.not_mem_of_blank (by decide) blank, Text.not_mem_of_blank (by decide) blank⟩

/-- A heading holds no brace. -/
theorem AtHeading.not_mem_text {heading : AtHeading} (wellFormed : heading.WellFormed) :
    '{' ∉ heading.text ∧ '}' ∉ heading.text := by
  cases heading with
  | media gap condition trail =>
      obtain ⟨blank, clear⟩ := wellFormed
      have gaps := not_mem_of_blank blank
      have opening : '{' ∉ condition := fun within => (clear _ within).2.1 rfl
      have closing : '}' ∉ condition := fun within => (clear _ within).2.2 rfl
      simp only [List.mem_append, not_or] at gaps
      simp [text, keyword, opening, closing, gaps]
  | keyframes gap name trail =>
      obtain ⟨blank, -, -, clear⟩ := wellFormed
      have gaps := not_mem_of_blank blank
      have opening : '{' ∉ name := fun within => (clear _ within).1 rfl
      have closing : '}' ∉ name := fun within => (clear _ within).2 rfl
      simp only [List.mem_append, not_or] at gaps
      simp [text, keyword, opening, closing, gaps]

theorem AtHeading.text_ne_nil (heading : AtHeading) : heading.text ≠ [] := by
  cases heading with
  | media gap condition trail => simp [text, keyword]
  | keyframes gap name trail => simp [text, keyword]

namespace NestedBlock

open Selector

variable {block : NestedBlock}

/-- Nested rules that stand alone are read one by one. -/
theorem bracedFrom_rules {rules : List NestedRule} (wellFormed : ∀ rule ∈ rules, rule.WellFormed)
    (rest : Text) :
    bracedFrom [] none (rules.flatMap NestedRule.text ++ rest) =
      (rules.map fun rule => (rule.selector, rule.body)) ++ bracedFrom [] none rest := by
  induction rules with
  | nil => rfl
  | cons rule later ih =>
      have first := wellFormed rule List.mem_cons_self
      have others := ih fun rule within => wellFormed rule (List.mem_cons_of_mem _ within)
      have read := bracedFrom_rule (fun within => (first.selector_clear '{' within).1 rfl)
        first.selector_full (fun within => (first.body_clear '}' within).2 rfl)
        first.body_full [] (later.flatMap NestedRule.text ++ rest)
      rw [others] at read
      simpa [NestedRule.text] using read

/-- A closed text in front of the first pair changes no rule. -/
theorem filterMap_cons_of_closed {front : Text} (closed : IsClosedOff front) (raw body : Text)
    (more : List (Text × Text)) :
    ((front ++ raw, body) :: more).filterMap ruleOf? =
      ((raw, body) :: more).filterMap ruleOf? := by
  rw [List.filterMap_cons, List.filterMap_cons, ruleOf?_append_of_closed closed]

/-- The blanks in front of the closing brace, and the brace, are closed. -/
theorem WellFormed.isClosedOff_end (wellFormed : block.WellFormed) :
    IsClosedOff (block.blanks ++ ['}']) := by
  refine ⟨Or.inr (by simp), fun within => wellFormed.noComment (within.trans ?_)⟩
  rw [text, List.append_assoc]
  exact (List.suffix_append _ _).isInfix

/-- A block without nested rules is read as one pair when it has blanks, and as none
when it is empty. -/
theorem exists_bracedFrom_text_of_nil (wellFormed : block.WellFormed)
    (empty : block.nested = []) {head : Text} (closed : IsClosedOff head.reverse) (rest : Text) :
    ∃ behind, IsClosedOff behind.reverse ∧
      (bracedFrom head none (block.text ++ rest)).filterMap ruleOf? =
        block.leaked ++ (bracedFrom behind none rest).filterMap ruleOf? := by
  have headingClear := (AtHeading.not_mem_text wellFormed.heading).1
  have headingFull := block.heading.text_ne_nil
  have written : block.text ++ rest =
      block.heading.text ++ '{' :: block.blanks ++ '}' :: rest := by
    simp [text, empty]
  rw [written]
  by_cases bare : block.blanks = []
  · refine ⟨['}'], ⟨Or.inr rfl, by decide⟩, ?_⟩
    have read : bracedFrom head none (block.heading.text ++ '{' :: '}' :: rest) =
        bracedFrom ['}'] none rest := by
      rw [bracedFrom_none_append headingClear]
      simp [bracedFrom, headingFull]
    simpa [leaked, scanned, empty, bare] using congrArg (List.filterMap ruleOf?) read
  · refine ⟨[], ⟨Or.inl rfl, by decide⟩, ?_⟩
    have blanksClear := (not_mem_of_blank wellFormed.blanks).2
    have pairs : block.scanned = [(block.heading.text, block.blanks)] := by
      simp [scanned, empty, bare]
    rw [bracedFrom_rule headingClear headingFull blanksClear bare,
      filterMap_cons_of_closed closed, leaked, pairs, ← List.filterMap_append]
    rfl

/-- In a block with nested rules the heading takes the first of them for its body,
and the others are read one by one. -/
theorem exists_bracedFrom_text_of_cons (wellFormed : block.WellFormed) {first : NestedRule}
    {later : List NestedRule} (nested : block.nested = first :: later) {head : Text}
    (closed : IsClosedOff head.reverse) (rest : Text) :
    ∃ behind, IsClosedOff behind.reverse ∧
      (bracedFrom head none (block.text ++ rest)).filterMap ruleOf? =
        block.leaked ++ (bracedFrom behind none rest).filterMap ruleOf? := by
  have rules := wellFormed.nested
  rw [nested] at rules
  have firstFormed := rules first List.mem_cons_self
  have laterFormed : ∀ rule ∈ later, rule.WellFormed :=
    fun rule within => rules rule (List.mem_cons_of_mem _ within)
  have firstClear : '}' ∉ first.selector ++ '{' :: first.body := by
    have inSelector : '}' ∉ first.selector :=
      fun within => (firstFormed.selector_clear _ within).2 rfl
    have inBody : '}' ∉ first.body := fun within => (firstFormed.body_clear _ within).2 rfl
    simp [inSelector, inBody]
  have endClear : '{' ∉ block.blanks ++ ['}'] := by
    simp [(not_mem_of_blank wellFormed.blanks).1]
  have written : block.text ++ rest =
      block.heading.text ++ '{' :: (first.selector ++ '{' :: first.body) ++
        '}' :: (later.flatMap NestedRule.text ++ ((block.blanks ++ ['}']) ++ rest)) := by
    simp [text, nested, NestedRule.text]
  have pairs : block.scanned =
      (block.heading.text, first.selector ++ '{' :: first.body) ::
        later.map fun rule => (rule.selector, rule.body) := by
    rw [scanned, nested]
  refine ⟨(block.blanks ++ ['}']).reverse, ?_, ?_⟩
  · rw [List.reverse_reverse]
    exact wellFormed.isClosedOff_end
  · rw [written, bracedFrom_rule (AtHeading.not_mem_text wellFormed.heading).1
        block.heading.text_ne_nil firstClear (by simp), bracedFrom_rules laterFormed,
      bracedFrom_none_append endClear, List.append_nil, filterMap_cons_of_closed closed,
      leaked, pairs, ← List.filterMap_append]
    rfl

/-- The scan reads the pairs of a block, the first one behind what it remembers, and
then goes on behind a closed text. -/
theorem exists_bracedFrom_text (wellFormed : block.WellFormed) {head : Text}
    (closed : IsClosedOff head.reverse) (rest : Text) :
    ∃ behind, IsClosedOff behind.reverse ∧
      (bracedFrom head none (block.text ++ rest)).filterMap ruleOf? =
        block.leaked ++ (bracedFrom behind none rest).filterMap ruleOf? := by
  cases nested : block.nested with
  | nil => exact exists_bracedFrom_text_of_nil wellFormed nested closed rest
  | cons first later => exact exists_bracedFrom_text_of_cons wellFormed nested closed rest

end NestedBlock

open Selector

/-- An at-block between other texts adds to their rules exactly what the scan reads
off it. -/
theorem rules_append_block_append {block : NestedBlock} (wellFormed : block.WellFormed)
    {front rest : Text} (closed : IsClosedOff front) (unopened : rest.head? ≠ some '{') :
    rules (front ++ block.text ++ rest) = rules front ++ block.leaked ++ rules rest := by
  obtain ⟨head, remembered, headClosed⟩ := closed.exists_memory
  obtain ⟨behind, behindClosed, read⟩ :=
    NestedBlock.exists_bracedFrom_text wellFormed headClosed rest
  have goOn := bracedFrom_append ([], none) front (block.text ++ rest)
  rw [remembered] at goOn
  rw [rules, braced, List.append_assoc, goOn, List.filterMap_append, read,
    filterMap_bracedFrom_of_closed behindClosed unopened, List.append_assoc]
  rfl

/-! ## What a block leaks -/

/-- A block leaks nothing exactly when no rule is kept for anything the scan reads
off it. -/
theorem NestedBlock.leaked_eq_nil_iff (block : NestedBlock) :
    block.leaked = [] ↔ ∀ pair ∈ block.scanned, ¬ NamesRule pair.1 := by
  simp only [leaked, List.filterMap_eq_nil_iff]
  exact forall₂_congr fun pair _ => ruleOf?_eq_none_iff pair.1 pair.2

/-- A written rule stands in every written sheet that has the rule. -/
theorem Css.ruleText_isInfix_ofSheet {sheet : StyleSheet} {rule : StyleRule}
    (within : rule ∈ sheet.rules) : Css.ruleText rule <:+: Css.ofSheet sheet := by
  have inRules : Css.ruleText rule <:+: (sheet.rules.map Css.ruleText).flatten :=
    List.infix_of_mem_flatten (List.mem_map_of_mem within)
  delta Css.ofSheet
  rw [List.append_assoc]
  exact inRules.trans (List.infix_append _ _ _)

/-- Between a closed text and one that does not begin with an opening brace, an
at-block adds what it leaks. So it adds no rule exactly when no rule is kept for
anything read off it, and whatever it leaks is printed without its heading. -/
theorem rules_around_nestedBlock {block : NestedBlock} (wellFormed : block.WellFormed)
    {front rest : Text} (closed : IsClosedOff front) (unopened : rest.head? ≠ some '{') :
    rules (front ++ block.text ++ rest) = rules front ++ block.leaked ++ rules rest ∧
    (rules (front ++ block.text ++ rest) = rules front ++ rules rest ↔
      ∀ pair ∈ block.scanned, ¬ NamesRule pair.1) ∧
    ∀ rule ∈ block.leaked,
      Css.ruleText rule <:+: Css.ofSheet (StyleSheet.ofText (front ++ block.text ++ rest)) := by
  have added := rules_append_block_append wellFormed closed unopened
  refine ⟨added, ?_, fun rule isLeaked => Css.ruleText_isInfix_ofSheet ?_⟩
  · rw [added, ← block.leaked_eq_nil_iff]
    constructor
    · intro same
      have sizes := congrArg List.length same
      simp only [List.length_append] at sizes
      exact List.eq_nil_of_length_eq_zero (by omega)
    · intro nothing
      rw [nothing, List.append_nil]
  · have isRule : rule ∈ rules (front ++ block.text ++ rest) := by
      rw [added]
      simp [isLeaked]
    exact List.mem_append_right _ isRule

/-- A media block with three nested rules, two of which it leaks, between two other
rules. -/
theorem rules_around_nestedBlock_three_rules :
    rules (".a { b: c }" ++
        (NestedBlock.text ⟨.media " " "print" " ",
          [⟨" .d ", " e: f "⟩, ⟨" .g ", " h: i "⟩, ⟨" #j ", " k: l "⟩], "\n"⟩) ++
        ".m { n: o }") =
      [⟨".a", [⟨"b", "c"⟩], none⟩, ⟨".g", [⟨"h", "i"⟩], none⟩, ⟨"#j", [⟨"k", "l"⟩], none⟩,
        ⟨".m", [⟨"n", "o"⟩], none⟩] :=
  (rules_around_nestedBlock (by decide) (by decide) (by decide)).1.trans
    (by decide)

/-- A media block with two rules adds the second one to the rules, and the rule is
printed without the condition. -/
theorem nestedBlock_leaks_second_rule :
    ∃ block : NestedBlock, block.WellFormed ∧
      block.text = "@media (x) { .a { b: c } .d { e: f } }" ∧
      rules ([] ++ block.text ++ []) ≠ rules [] ++ rules [] ∧
      Text.occurs ".d \x7b\n  e: f;\n\x7d\n" (Css.ofSheet (StyleSheet.ofText block.text)) := by
  refine ⟨⟨.media " " "x" " ", [⟨" .a ", " b: c "⟩, ⟨" .d ", " e: f "⟩], " "⟩, ?_⟩
  decide

end DesignExport
