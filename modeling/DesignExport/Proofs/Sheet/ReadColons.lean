/-
# The colons that declarations are read from

Every declaration is read at a colon: in the body of a braced rule at the first colon of a
segment, in a layer at the first colon of a line. So the declarations of a sheet are counted
over the places of the colon, once for what the layers read there and once for what the braced
rules do. Neither reader reads a colon twice.

Both go over the same text, and neither leaves all comments out. So a colon can be read twice,
on a line below a label comment that is also part of a braced rule, and a colon in a comment can
be read. For each of these, one colon outside comments has to stay unread if there are to be as
many of them as declarations.
-/

import DesignExport.Proofs.Places
import DesignExport.Proofs.Sheet.LabelComments
import DesignExport.Proofs.Sheet.LayerDeclarations
import DesignExport.Proofs.Sheet.NestedRules

namespace DesignExport

open Text

/-! ## Bodies of braced rules -/

/-- One more character of a body begins a declaration where it is the first colon of its
segment. -/
theorem Declaration.length_ofRuleBody_concat (body : Text) (c : Char) :
    (ofRuleBody (body ++ [c])).length =
      (ofRuleBody body).length +
        if c = ':' ∧ ':' ∉ afterLast (· == ';') body then 1 else 0 := by
  have single {segment : Text} (clear : ';' ∉ segment) :
      (ofRuleBody segment).length = if ':' ∈ segment then 1 else 0 := by
    rw [ofRuleBody_of_not_mem clear]
    rcases cut_cases ':' segment with ⟨noColon, -⟩ | ⟨before, after, rfl, noColon, -⟩
    · simp [ofSegment?_of_not_mem noColon, noColon]
    · simp [ofSegment?_append_colon noColon]
  by_cases ends : c = ';'
  · have nothing : ofRuleBody [] = [] := by decide
    rw [ends, ofRuleBody_append_semicolon, nothing]
    simp
  · have segment {last : Text} (clear : ';' ∉ last) : (ofRuleBody (last ++ [c])).length =
        (ofRuleBody last).length + if c = ':' ∧ ':' ∉ last then 1 else 0 := by
      rw [single clear, single (by simp [clear, Ne.symm ends])]
      by_cases colon : c = ':'
      · by_cases within : ':' ∈ last <;> simp [colon, within]
      · simp [colon, Ne.symm colon]
    by_cases within : ';' ∈ body
    · obtain ⟨before, last, rfl, clear⟩ := exists_last_of_mem within
      rw [List.append_assoc, List.cons_append, ofRuleBody_append_semicolon,
        ofRuleBody_append_semicolon, List.length_append, List.length_append, segment clear,
        afterLast_append_mark, afterLast_of_not_mem clear, Nat.add_assoc]
    · rw [segment within, afterLast_of_not_mem within]

namespace Selector

instance (raw : Text) : Decidable (NamesRule raw) := inferInstanceAs (Decidable (_ = true))

/-- Whether the scan for braced rules, going on with this memory, reads a declaration at the
colon of a place: it is the first colon of its segment, and the rule is closed and kept. -/
def readsColon (memory : Memory) (place : Place) : Bool :=
  match place.before.foldl Memory.next memory with
  | (_, none) => false
  | (head, some body) =>
    NamesRule head.reverse && place.behind.contains '}' &&
      !(afterLast (· == ';') body.reverse).contains ':'

theorem readsColon_some_iff (head body rest : Text) :
    readsColon (head, some body) ⟨[], rest⟩ = true ↔
      (NamesRule head.reverse ∧ '}' ∈ rest) ∧ ':' ∉ afterLast (· == ';') body.reverse := by
  simp only [readsColon, List.foldl_nil, Bool.and_eq_true, decide_eq_true_eq,
    List.contains_iff_mem, Bool.not_eq_true', ← Bool.not_eq_true]

/-- How many declarations the part of an open rule that is read already holds, provided the
rest of the text closes the rule. -/
def Memory.pending (memory : Memory) (rest : Text) : Nat :=
  match memory with
  | (_, none) => 0
  | (head, some body) =>
    if NamesRule head.reverse ∧ '}' ∈ rest then (Declaration.ofRuleBody body.reverse).length
    else 0

/-- How many declarations the rules of some heads and bodies hold. -/
def declarationCount (pairs : List (Text × Text)) : Nat :=
  (StyleRule.allDeclarations (pairs.filterMap ruleOf?)).length

theorem declarationCount_append (pairs others : List (Text × Text)) :
    declarationCount (pairs ++ others) = declarationCount pairs + declarationCount others := by
  simp [declarationCount, StyleRule.allDeclarations]

theorem declarationCount_singleton (head body : Text) :
    declarationCount [(head, body)] =
      if NamesRule head then (Declaration.ofRuleBody body).length else 0 := by
  by_cases named : NamesRule head
  · have kept : (isPlain (clean head) && isSpecific (clean head)) = true := named
    simp [declarationCount, StyleRule.allDeclarations, ruleOf?, kept, named,
      Declaration.ofRuleBody_trim]
  · simp [declarationCount, StyleRule.allDeclarations, (ruleOf?_eq_none_iff head body).mpr named,
      named]

/-- One character ends the declarations that were pending, or adds to them. -/
theorem Memory.pending_cons (memory : Memory) (c : Char) (rest : Text) :
    declarationCount (memory.ended c) + (memory.next c).pending rest =
      memory.pending (c :: rest) + if c = ':' ∧ readsColon memory ⟨[], rest⟩ then 1 else 0 := by
  have noDeclarations : declarationCount [] = 0 := rfl
  have emptyBody : (Declaration.ofRuleBody []).length = 0 := by decide
  obtain ⟨head, state⟩ := memory
  cases state with
  | none =>
      by_cases opens : c = '{'
      · by_cases empty : head = [] <;>
          simp [Memory.next, ended, pending, readsColon, opens, empty, emptyBody, noDeclarations]
      · simp [Memory.next, ended, pending, readsColon, opens, noDeclarations]
  | some body =>
      by_cases closes : c = '}'
      · by_cases empty : body = []
        · simp [Memory.next, ended, pending, closes, empty, emptyBody, noDeclarations]
        · simp [Memory.next, ended, pending, closes, empty, declarationCount_singleton]
      · simp only [readsColon_some_iff]
        by_cases kept : NamesRule head.reverse ∧ '}' ∈ rest
        · simp [Memory.next, ended, pending, closes, Ne.symm closes, kept, noDeclarations,
            Declaration.length_ofRuleBody_concat]
        · simp [Memory.next, ended, pending, closes, Ne.symm closes, kept, noDeclarations]

/-- The braced rules hold the declarations that are pending, and one for each colon at which
one is read. -/
theorem declarationCount_bracedFrom (memory : Memory) (text : Text) :
    declarationCount (bracedFrom memory.1 memory.2 text) =
      memory.pending text + (places ':' text).countP (readsColon memory) := by
  induction text generalizing memory with
  | nil =>
      obtain ⟨head, state⟩ := memory
      cases state <;> simp [bracedFrom, Memory.pending, places, declarationCount,
        StyleRule.allDeclarations]
  | cons c rest ih =>
      have further : ((places ':' rest).countP fun place =>
          readsColon memory ⟨c :: place.before, place.behind⟩) =
          (places ':' rest).countP (readsColon (memory.next c)) := rfl
      have step := memory.pending_cons c rest
      rw [bracedFrom_cons, declarationCount_append, ih, countP_places_cons, further]
      omega

end Selector

/-! ## Lines of a layer -/

namespace OpenDeclaration

/-- What is read of the declaration that a line begins, with the lines behind it. -/
def readFrom (raw : Text) (rest : List Text) : List Declaration :=
  match LayerLine.ofText raw with
  | .beginning property value => ((OpenDeclaration.mk property value).whole rest).finished
  | .skipped | .continuing _ => []

theorem readOn_nothing_cons (raw : Text) (rest : List Text) :
    nothing.readOn (raw :: rest) = readFrom raw rest ++ nothing.readOn rest := by
  rw [readOn_nothing, readOn_nothing, begunBy, readFrom]
  cases LayerLine.ofText raw <;> rfl

theorem length_finished_le (current : OpenDeclaration) : current.finished.length ≤ 1 := by
  rw [finished, Declaration.finished]
  split <;> simp

/-- A line begins at most one declaration, and only with a colon. -/
theorem length_readFrom (raw : Text) (rest : List Text) :
    (readFrom raw rest).length = if ':' ∈ raw ∧ readFrom raw rest ≠ [] then 1 else 0 := by
  rcases LayerLine.ofText_cases raw with
    ⟨-, meaning⟩ | ⟨-, before, after, whole, -, meaning⟩ | ⟨-, -, meaning⟩
  · simp [readFrom, meaning]
  · have colon : ':' ∈ raw := trim_subset raw (by simp [whole])
    have atMost := length_finished_le ((OpenDeclaration.mk (trim before) (trim after)).whole rest)
    simp only [readFrom, meaning, colon, true_and]
    cases read : ((OpenDeclaration.mk (trim before) (trim after)).whole rest).finished with
    | nil => rfl
    | cons first more =>
        rw [read] at atMost
        simpa using atMost
  · simp [readFrom, meaning]

end OpenDeclaration

namespace Layer

/-- Whether a declaration is read at the colon of a place in the text of a layer: it is the
first colon of its line, and the line begins a declaration that has a property and a value. -/
def beginsDeclaration (place : Place) : Bool :=
  let start := afterLast (· == '\n') place.before
  let lines := splitOn '\n' place.behind
  !start.contains ':' &&
    !(OpenDeclaration.readFrom (start ++ ':' :: lines.headD []) lines.tail).isEmpty

/-- A line is counted once when it begins a declaration, whatever lines follow. -/
theorem countP_beginsDeclaration_line {line tail : Text} (clear : '\n' ∉ line) {rest : List Text}
    (follows : ∀ front, '\n' ∉ front → splitOn '\n' (front ++ tail) = front :: rest) :
    ((places ':' line).countP fun place =>
        beginsDeclaration ⟨place.before, place.behind ++ tail⟩) =
      (OpenDeclaration.readFrom line rest).length := by
  have here (place : Place) (whole : line = place.before ++ ':' :: place.behind) :
      beginsDeclaration ⟨place.before, place.behind ++ tail⟩ =
        (!place.before.contains ':' && !(OpenDeclaration.readFrom line rest).isEmpty) := by
    have beforeClear : '\n' ∉ place.before := fun within => clear (by simp [whole, within])
    have behindClear : '\n' ∉ place.behind := fun within => clear (by simp [whole, within])
    simp only [beginsDeclaration, afterLast_of_not_mem beforeClear, follows _ behindClear,
      List.headD_cons, List.tail_cons, ← whole]
  rw [countP_places_congr here, OpenDeclaration.length_readFrom]
  by_cases empty : OpenDeclaration.readFrom line rest = []
  · simp [empty]
  · have full : (OpenDeclaration.readFrom line rest).isEmpty = false := by simpa using empty
    simp only [full, Bool.not_false, Bool.and_true]
    rw [countP_places_first]
    simp [empty]

/-- The declarations of a layer's text are read at as many colons. -/
theorem length_ofLayerBody (body : Text) :
    (Declaration.ofLayerBody body).length = (places ':' body).countP beginsDeclaration := by
  -- A line is taken off as a whole, so the induction is on the length of the text.
  induction size : body.length using Nat.strong_induction_on generalizing body with
  | _ size ih =>
      subst size
      rcases cut_cases '\n' body with ⟨clear, -⟩ | ⟨line, rest, rfl, clear, -⟩
      · have lastLine (front : Text) (clear : '\n' ∉ front) :
            splitOn '\n' (front ++ []) = front :: [] := by
          rw [List.append_nil, splitOn_of_not_mem clear]
        have counted := countP_beginsDeclaration_line clear lastLine
        simp only [List.append_nil] at counted
        rw [counted, OpenDeclaration.ofLayerBody_eq_readOn, splitOn_of_not_mem clear,
          OpenDeclaration.readOn_nothing_cons, OpenDeclaration.readOn_nil,
          OpenDeclaration.nothing.finished_eq_nil (Or.inl rfl), List.append_nil]
      · have apart (place : Place) : beginsDeclaration
            ⟨line ++ '\n' :: place.before, place.behind⟩ = beginsDeclaration place := by
          simp only [beginsDeclaration, afterLast_append_mark]
        have below : ((places ':' ('\n' :: rest)).countP fun place =>
            beginsDeclaration ⟨line ++ place.before, place.behind⟩) =
            (Declaration.ofLayerBody rest).length := by
          rw [countP_places_cons, ih rest.length (by simp; omega) rest rfl]
          simp [apart]
        have counted := countP_beginsDeclaration_line clear fun front clear =>
          splitOn_append_cons clear rest
        rw [countP_places_append, counted, below, OpenDeclaration.ofLayerBody_eq_readOn,
          splitOn_append_cons clear, OpenDeclaration.readOn_nothing_cons, List.length_append]
        rfl

/-! ## Layers of a text -/

/-- The declarations of a layer that is not left out. -/
def declarationsOf (pair : Text × Text) : List Declaration :=
  if (ofCutPair pair).IsKept then Declaration.ofLayerBody pair.2 else []

theorem allDeclarations_ofLayers (text : Text) :
    StyleRule.allDeclarations (StyleRule.ofLayers text) =
      (comment.pieces text).found.flatMap declarationsOf := by
  have ofRule (layer : Layer) : StyleRule.allDeclarations (StyleRule.ofLayer? layer).toList =
      Declaration.ofLayerBody layer.body := by
    rw [StyleRule.ofLayer?]
    split
    · next empty => rw [empty]; rfl
    · next first more full => rw [full]; simp [StyleRule.allDeclarations]
  have ofPair (pair : Text × Text) : StyleRule.allDeclarations
      ((ofPair? pair).bind StyleRule.ofLayer?).toList = declarationsOf pair := by
    rw [ofPair?_eq, declarationsOf]
    split
    · rw [Option.bind_some, ofRule]
      exact Declaration.ofLayerBody_trim pair.2
    · rfl
  rw [StyleRule.ofLayers, ofText, List.filterMap_filterMap, List.filterMap_eq_flatMap_toList,
    StyleRule.allDeclarations, List.flatMap_assoc]
  exact List.flatMap_congr fun pair _ => ofPair pair

/-- Whether a declaration is read where a scan for label comments stands, at a colon with this
text behind it: the layer is not left out, and the colon begins a declaration in its text. -/
def readsColonIn (state : ScanState Text) (behind : Text) : Bool :=
  match state with
  | ⟨0, some (label, gap)⟩ =>
    let more := (comment.pieces behind).before
    (ofCutPair (label, gap ++ ':' :: more)).IsKept && beginsDeclaration ⟨gap, more⟩
  | _ => false

/-- Whether a scan for label comments, going on from this state, reads a declaration at the
colon of a place. -/
def readsColon (state : ScanState Text) (place : Place) : Bool :=
  readsColonIn (comment.stateBehind state place.before (':' :: place.behind)) place.behind

variable {state : ScanState Text} {gap label : Text}

/-- Behind a gap, the colons are read from the state that the gap leads to. -/
theorem readsColon_append_gap (outside : state.covered = 0) {place : Place}
    (skips : comment.Skips gap (place.before ++ ':' :: place.behind)) :
    readsColon state ⟨gap ++ place.before, place.behind⟩ =
      readsColon (.pass state.last gap) place := by
  obtain ⟨covered, last⟩ := state
  obtain rfl : covered = 0 := outside
  rw [readsColon, Pattern.stateBehind_append, Pattern.stateBehind_of_skips skips, readsColon]

/-- Behind a label comment, the colons are those of its layer. -/
theorem readsColon_append_comment (outside : state.covered = 0) (isInside : IsInside label)
    (place : Place) :
    readsColon state ⟨commentText label ++ place.before, place.behind⟩ =
      readsColon (.behind (some label)) place := by
  obtain ⟨covered, last⟩ := state
  obtain rfl : covered = 0 := outside
  rw [readsColon, Pattern.stateBehind_append,
    Pattern.stateBehind_of_match (commentText_ne_nil label)
      (comment_commentText_append isInside _) le_rfl, Nat.sub_self, readsColon]
  rfl

/-- At a colon inside a label comment nothing is read. -/
theorem readsColon_comment (outside : state.covered = 0) (isInside : IsInside label) (rest : Text)
    {place : Place} (whole : commentText label = place.before ++ ':' :: place.behind) :
    readsColon state ⟨place.before, place.behind ++ rest⟩ = false := by
  obtain ⟨covered, last⟩ := state
  obtain rfl : covered = 0 := outside
  obtain ⟨before, behind⟩ := place
  have full : before ≠ [] := by
    rintro rfl
    simp [commentText] at whole
  have hit : comment (before ++ ':' :: (behind ++ rest)) =
      some (label, (commentText label).length) := by
    simpa [whole] using comment_commentText_append isInside rest
  have longer : before.length < (commentText label).length := by simp [whole]
  obtain ⟨more, positive⟩ := Nat.exists_eq_succ_of_ne_zero (Nat.sub_ne_zero_of_lt longer)
  rw [readsColon, Pattern.stateBehind_of_match full hit longer.le, positive]
  rfl

/-- In a gap, the colons are those of the layer whose label comment stands in front. -/
theorem countP_readsColon_gap (label? : Option Text) {rest : Text}
    (skips : comment.Skips gap rest) (ends : (comment.pieces rest).before = []) :
    ((places ':' gap).countP fun place =>
        readsColon (.behind label?) ⟨place.before, place.behind ++ rest⟩) =
      (label?.toList.flatMap fun label => declarationsOf (label, gap)).length := by
  have here (place : Place) (whole : gap = place.before ++ ':' :: place.behind) :
      readsColon (.behind label?) ⟨place.before, place.behind ++ rest⟩ =
        label?.any fun label =>
          (ofCutPair (label, gap)).IsKept && beginsDeclaration place := by
    obtain ⟨before, behind⟩ := place
    subst whole
    have skipsBefore : comment.Skips before (':' :: (behind ++ rest)) := by
      intro later full isSuffix
      have longer : later ++ ':' :: behind <:+ before ++ ':' :: behind :=
        List.suffix_append_self_iff.mpr isSuffix
      simpa using skips _ (by simp) longer
    have skipsBehind : comment.Skips behind rest := fun later full isSuffix =>
      skips later full (isSuffix.trans ((List.suffix_cons _ _).trans (List.suffix_append _ _)))
    rw [readsColon, ScanState.behind, Pattern.stateBehind_of_skips skipsBefore]
    cases label? with
    | none => rfl
    | some label =>
        simp only [ScanState.pass, Option.map_some, readsColonIn, List.nil_append,
          Pattern.pieces_append_of_skips skipsBehind, ends, List.append_nil, Option.any_some]
  rw [countP_places_congr here]
  cases label? with
  | none => simp
  | some label =>
      simp only [Option.any_some, Option.toList_some, List.flatMap_cons, List.flatMap_nil,
        List.append_nil, declarationsOf]
      by_cases kept : (ofCutPair (label, gap)).IsKept
      · simp [kept, length_ofLayerBody]
      · simp [kept]

/-- The colons at which the layers of a cut text are read; the text may go on with the layer of
a label in front of it. -/
theorem countP_readsColon_amongGaps (label? : Option Text) {found : List (Text × Text)}
    (leftmost : IsLeftmost gap found) :
    (places ':' (amongGaps commentText gap found)).countP (readsColon (.behind label?)) =
      (label?.toList.flatMap fun label => declarationsOf (label, gap)).length +
        (found.flatMap declarationsOf).length := by
  induction found generalizing label? gap with
  | nil =>
      have skips : comment.Skips gap [] :=
        (skips_iff_beginsNone gap []).mpr ((beginsNone_nil_iff gap).mpr leftmost)
      have counted := countP_readsColon_gap label? skips rfl
      simpa [amongGaps] using counted
  | cons pair later ih =>
      obtain ⟨label, behind⟩ := pair
      obtain ⟨isInside, none, others⟩ := leftmost
      have skips := (skips_iff_beginsNone _ _).mpr none
      have followed := ih (some label) others
      rw [amongGaps_cons]
      generalize amongGaps commentText behind later = rest at skips followed ⊢
      have ends : (comment.pieces (commentText label ++ rest)).before = [] := by
        rw [Pattern.pieces_append_of_match (commentText_ne_nil label)
          (comment_commentText_append isInside rest)]
      have behindGap (place : Place)
          (whole : commentText label ++ rest = place.before ++ ':' :: place.behind) :
          readsColon (.behind label?) ⟨gap ++ place.before, place.behind⟩ =
            readsColon (.pass (ScanState.behind label?).last gap) place :=
        readsColon_append_gap rfl (whole ▸ skips)
      have inComment : ((places ':' (commentText label)).countP fun place =>
          readsColon (.pass (ScanState.behind label?).last gap)
            ⟨place.before, place.behind ++ rest⟩) = 0 := by
        rw [countP_places_congr fun _ whole => readsColon_comment rfl isInside rest whole]
        simp
      have behindComment (place : Place) :
          readsColon (.pass (ScanState.behind label?).last gap)
              ⟨commentText label ++ place.before, place.behind⟩ =
            readsColon (.behind (some label)) place :=
        readsColon_append_comment rfl isInside place
      rw [countP_places_append, countP_readsColon_gap label? skips ends,
        countP_places_congr behindGap, countP_places_append, inComment, Nat.zero_add]
      simp only [behindComment]
      rw [followed]
      simp

end Layer

/-! ## The colons of a text -/

namespace Place

/-- Whether the layers of the text read a declaration at this colon. -/
def isReadInLayer : Place → Bool := Layer.readsColon (.behind none)

/-- Whether the braced rules of the text read a declaration at this colon. -/
def isReadInRule : Place → Bool := Selector.readsColon ([], none)

/-- Whether a declaration is read at this colon. -/
def isRead (place : Place) : Bool := place.isReadInLayer || place.isReadInRule

/-- Whether this colon stands in no comment. -/
def isOutside : Place → Bool := Selector.comment.leaves ':'

end Place

open Place

theorem StyleRule.length_allDeclarations_ofLayers (text : Text) :
    (allDeclarations (ofLayers text)).length = (places ':' text).countP isReadInLayer := by
  obtain ⟨whole, leftmost⟩ := Layer.isCutOf_pieces text
  have counted := Layer.countP_readsColon_amongGaps none leftmost
  rw [whole, ← Layer.allDeclarations_ofLayers, Option.toList_none, List.flatMap_nil,
    List.length_nil, Nat.zero_add] at counted
  exact counted.symm

theorem StyleRule.length_allDeclarations_rules (text : Text) :
    (allDeclarations (Selector.rules text)).length = (places ':' text).countP isReadInRule := by
  have counted := Selector.declarationCount_bracedFrom ([], none) text
  rw [Selector.Memory.pending, Nat.zero_add] at counted
  exact counted

/-- A sheet has a declaration for each colon at which the layers read one, and one for each
colon at which the braced rules do. -/
theorem StyleSheet.declarationCount_ofText (text : Text) :
    (ofText text).declarationCount =
      (places ':' text).countP isReadInLayer + (places ':' text).countP isReadInRule := by
  have apart : StyleRule.allDeclarations (ofText text).rules =
      StyleRule.allDeclarations (StyleRule.ofLayers text) ++
        StyleRule.allDeclarations (Selector.rules text) := List.flatMap_append
  rw [declarationCount, apart, List.length_append, StyleRule.length_allDeclarations_ofLayers,
    StyleRule.length_allDeclarations_rules]

/-- What two readers read of some items, compared with the items that they should read. -/
theorem countP_add_countP_eq {α : Type} (first second should : α → Bool) (items : List α) :
    items.countP first + items.countP second +
        items.countP (fun item => !(first item || second item) && should item) =
      items.countP should + items.countP (fun item => first item && second item) +
        items.countP (fun item => (first item || second item) && !should item) := by
  induction items with
  | nil => rfl
  | cons item rest ih =>
      have here : (if first item then 1 else 0) + (if second item then 1 else 0) +
          (if !(first item || second item) && should item then 1 else 0) =
          (if should item then 1 else 0) + (if first item && second item then 1 else 0) +
            (if (first item || second item) && !should item then 1 else 0) := by
        cases first item <;> cases second item <;> cases should item <;> rfl
      simp only [List.countP_cons]
      omega

/-- Every declaration of a sheet is read at a colon of the text, and each of the two readers
reads at most one at a colon. There are at most as many declarations as colons outside comments
exactly when the colons that are read twice and those that are read in comments are together no
more than the colons outside comments at which nothing is read. -/
theorem StyleSheet.declarationCount_le_iff (text : Text) :
    (ofText text).declarationCount =
        (places ':' text).countP isReadInLayer + (places ':' text).countP isReadInRule ∧
      ((ofText text).declarationCount ≤ (Selector.comment.erase text).count ':' ↔
        ((places ':' text).countP fun place => place.isReadInLayer && place.isReadInRule) +
            ((places ':' text).countP fun place => place.isRead && !place.isOutside) ≤
          (places ':' text).countP fun place => !place.isRead && place.isOutside) := by
  have misses (rest : Text) : Selector.comment (':' :: rest) = none := by
    simp [Selector.comment]
  have outside : (Selector.comment.erase text).count ':' = (places ':' text).countP isOutside :=
    Pattern.count_erase misses text
  have compared := countP_add_countP_eq isReadInLayer isReadInRule isOutside (places ':' text)
  refine ⟨declarationCount_ofText text, ?_⟩
  rw [declarationCount_ofText, outside]
  simp only [isRead]
  omega

/-- The body of a rule keeps its comments, so a colon in one of them is read. -/
theorem StyleSheet.not_declarationCount_le_comment_in_rule :
    let text : Text := ".a \x7b /* b: c */ \x7d"
    IsBalanced text ∧
      ¬ (ofText text).declarationCount ≤ (Selector.comment.erase text).count ':' := by
  decide +kernel

/-- A line of a rule below a label comment is read by both readers. -/
example : (StyleSheet.ofText "/* a */\n.b \x7b\nc: d\n\x7d").declarationCount = 2 := by
  decide +kernel

end DesignExport
