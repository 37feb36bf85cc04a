/-
# What a text can do to its page

The page of a sheet is a template, too, but what fills its holes is not of a fixed
stock. Names are identifiers, and tags and class names are harmless. The written sheet
stands inside the style and every selector of the outline inside a comment, both as
they are. So an ending of the style or of a comment is the template's own, or it stands
in a piece that was taken over from the text: nothing that the template puts between two
pieces lets an ending go across.
-/

import DesignExport.Code.Basic
import DesignExport.Input.CssText
import DesignExport.Input.Sanitizer
import DesignExport.Proofs.JoinedText
import DesignExport.Proofs.Sheet.ComponentName
import DesignExport.Proofs.Sheet.RuleBraces
import DesignExport.Sheet.Reading

namespace DesignExport

/-! ## Endings -/

namespace Page

/-- A mark that ends a place of a page, and how characters are read when it is looked
for. -/
structure Ending where
  mark : Text
  reads : Char → Char

/-- The end of the style; the case of letters does not matter. -/
def styleEnd : Ending := ⟨"</style", Char.toLower⟩

/-- The end of a comment. -/
def commentEnd : Ending := ⟨"-->", id⟩

/-- The endings that the template of a page has. -/
def endings : List Ending := [styleEnd, commentEnd]

/-- Characters of the template that no ending goes across. -/
def separators : List Char := [' ', '\n', '"', ':', ';', '{', '}']

namespace Ending

/-- How many places of a text an ending stands at. -/
def count (ending : Ending) (text : Text) : Nat :=
  Text.occurrences ending.mark (text.map ending.reads)

variable {ending : Ending}

theorem eq_or_eq_of_mem_endings (isEnding : ending ∈ endings) :
    ending = styleEnd ∨ ending = commentEnd := by
  simpa [endings] using isEnding

theorem count_nil (isEnding : ending ∈ endings) : ending.count [] = 0 := by
  have full : ∀ ending ∈ endings, ending.count [] = 0 := by decide
  exact full ending isEnding

theorem mark_ne_nil (isEnding : ending ∈ endings) : ending.mark ≠ [] := by
  have full : ∀ ending ∈ endings, ending.mark ≠ [] := by decide
  exact full ending isEnding

/-- An ending stands in front of a character that it lacks or behind it. -/
theorem count_append_cons_of_not_mem (isEnding : ending ∈ endings) {c : Char}
    (lacks : ending.reads c ∉ ending.mark) (front rest : Text) :
    ending.count (front ++ c :: rest) = ending.count front + ending.count rest := by
  simp only [count, List.map_append, List.map_cons]
  exact Text.occurrences_append_cons (mark_ne_nil isEnding) lacks _ _

theorem count_append_cons (isEnding : ending ∈ endings) {c : Char} (apart : c ∈ separators)
    (front rest : Text) :
    ending.count (front ++ c :: rest) = ending.count front + ending.count rest := by
  have lacks : ∀ ending ∈ endings, ∀ c ∈ separators, ending.reads c ∉ ending.mark := by decide
  exact count_append_cons_of_not_mem isEnding (lacks ending isEnding c apart) front rest

theorem count_cons (isEnding : ending ∈ endings) {c : Char} (apart : c ∈ separators)
    (rest : Text) : ending.count (c :: rest) = ending.count rest := by
  have split := count_append_cons isEnding apart [] rest
  rwa [count_nil isEnding, Nat.zero_add] at split

/-- No other character is read as an opening bracket. -/
theorem not_mem_map_toLower {text : Text} (lacks : '<' ∉ text) : '<' ∉ text.map Char.toLower := by
  intro within
  obtain ⟨c, inText, isSmall⟩ := List.mem_map.mp within
  have same : c.toLower = c := Text.toLower_eq_self_of_toLower (by rw [isSmall]; decide)
  exact lacks (by rwa [← isSmall, same])

/-- Each ending has an angle bracket. -/
theorem count_eq_zero (isEnding : ending ∈ endings) {text : Text} (opening : '<' ∉ text)
    (closing : '>' ∉ text) : ending.count text = 0 := by
  rcases eq_or_eq_of_mem_endings isEnding with rfl | rfl
  · exact Text.occurrences_eq_zero (c := '<') (by decide) (not_mem_map_toLower opening)
  · refine Text.occurrences_eq_zero (c := '>') (by decide) ?_
    simpa [commentEnd] using closing

/-- A text that is empty or ends a line. -/
def EndsLine (text : Text) : Prop := text = [] ∨ ∃ line, text = line ++ ['\n']

theorem EndsLine.append {front rest : Text} (frontEnds : EndsLine front)
    (restEnds : EndsLine rest) : EndsLine (front ++ rest) := by
  rcases restEnds with rfl | ⟨line, rfl⟩
  · rwa [List.append_nil]
  · exact Or.inr ⟨front ++ line, by rw [List.append_assoc]⟩

theorem EndsLine.flatten {rows : List Text} (each : ∀ row ∈ rows, EndsLine row) :
    EndsLine rows.flatten := by
  induction rows with
  | nil => exact Or.inl rfl
  | cons row rest ih =>
      obtain ⟨ends, others⟩ := List.forall_mem_cons.mp each
      exact ends.append (ih others)

/-- No ending goes across the end of a line. -/
theorem count_append (isEnding : ending ∈ endings) {front : Text} (ends : EndsLine front)
    (rest : Text) : ending.count (front ++ rest) = ending.count front + ending.count rest := by
  rcases ends with rfl | ⟨line, rfl⟩
  · rw [count_nil isEnding, Nat.zero_add, List.nil_append]
  · have apart : '\n' ∈ separators := by decide
    rw [List.append_assoc, List.singleton_append, count_append_cons isEnding apart,
      count_append_cons isEnding apart, count_nil isEnding, Nat.add_zero]

theorem count_flatten_map (isEnding : ending ∈ endings) {α : Type} {items : List α}
    {write : α → Text} {size : α → Nat} (ends : ∀ item ∈ items, EndsLine (write item))
    (each : ∀ item ∈ items, ending.count (write item) = size item) :
    ending.count (items.map write).flatten = (items.map size).sum := by
  induction items with
  | nil => exact count_nil isEnding
  | cons item rest ih =>
      obtain ⟨endsHere, endsLater⟩ := List.forall_mem_cons.mp ends
      obtain ⟨here, later⟩ := List.forall_mem_cons.mp each
      rw [List.map_cons, List.flatten_cons, count_append isEnding endsHere, here,
        ih endsLater later, List.map_cons, List.sum_cons]

end Ending

end Page

/-! ## The written sheet -/

/-- The texts of a rule that a written sheet takes over as they are, if it prints the rule. -/
def StyleRule.takenTexts (rule : StyleRule) : List Text :=
  if rule.selector.isEmpty || rule.declarations.isEmpty then []
  else rule.selector :: rule.declarations.flatMap fun declaration =>
    [declaration.property, declaration.value]

/-- The texts of a sheet that the written sheet takes over as they are. -/
def StyleSheet.writtenTexts (sheet : StyleSheet) : List Text :=
  sheet.customProperties.map CustomProperty.value ++
    sheet.rules.flatMap StyleRule.takenTexts ++
    sheet.mediaBlocks ++ sheet.animations.map Animation.definition

namespace Css

open Page Page.Ending

variable {ending : Ending}

theorem count_declarationLine (isEnding : ending ∈ endings) (declaration : Declaration) :
    ending.count (declarationLine declaration) =
      ending.count declaration.property + ending.count declaration.value := by
  have parts : declarationLine declaration =
      ' ' :: ' ' :: (declaration.property ++ ':' :: ' ' ::
        (declaration.value ++ ';' :: '\n' :: [])) := by
    simp [declarationLine]
  simp (disch := decide) only [parts, count_append_cons isEnding, count_cons isEnding,
    count_nil isEnding, Nat.add_zero]

theorem endsLine_declarationLine (declaration : Declaration) :
    EndsLine (declarationLine declaration) :=
  Or.inr ⟨"  " ++ declaration.property ++ ": " ++ declaration.value ++ ";",
    by simp [declarationLine]⟩

theorem endsLine_ruleBlock (selector : Text) (declarations : List Declaration) :
    EndsLine (ruleBlock selector declarations) :=
  Or.inr ⟨selector ++ " \x7b\n" ++ declarationLines declarations ++ "\x7d\n",
    by simp [ruleBlock]⟩

/-- Braces and blanks let no ending go across. -/
theorem count_ruleBlock (isEnding : ending ∈ endings) (selector : Text)
    (declarations : List Declaration) :
    ending.count (ruleBlock selector declarations) =
      ending.count selector + (declarations.map fun declaration =>
        ending.count declaration.property + ending.count declaration.value).sum := by
  have parts : ruleBlock selector declarations =
      selector ++ ' ' :: '{' :: '\n' :: (declarationLines declarations ++
        '}' :: '\n' :: '\n' :: []) := by
    simp [ruleBlock]
  have lines : ending.count (declarationLines declarations) =
      (declarations.map fun declaration =>
        ending.count declaration.property + ending.count declaration.value).sum :=
    count_flatten_map isEnding (fun declaration _ => endsLine_declarationLine declaration)
      fun declaration _ => count_declarationLine isEnding declaration
  simp (disch := decide) only [parts, count_append_cons isEnding, count_cons isEnding,
    count_nil isEnding, lines, Nat.add_zero]

theorem endsLine_ruleText (rule : StyleRule) : EndsLine (ruleText rule) := by
  rw [ruleText]
  split
  · exact Or.inl rfl
  · exact endsLine_ruleBlock rule.selector rule.declarations

theorem count_ruleText (isEnding : ending ∈ endings) (rule : StyleRule) :
    ending.count (ruleText rule) = (rule.takenTexts.map ending.count).sum := by
  rw [ruleText, StyleRule.takenTexts]
  split
  · exact count_nil isEnding
  · rw [count_ruleBlock isEnding, List.map_cons, List.sum_cons, List.flatMap, List.map_flatten,
      List.sum_flatten, List.map_map, List.map_map]
    simp [Function.comp_def]

/-- Variables with plain names have the endings of their values. -/
theorem count_variableBlock (isEnding : ending ∈ endings) {properties : List CustomProperty}
    (plain : ∀ property ∈ properties, '<' ∉ property.name ∧ '>' ∉ property.name) :
    ending.count (variableBlock properties) =
      (properties.map fun property => ending.count property.value).sum := by
  have root : ending.count (":root" : Text) = 0 :=
    count_eq_zero isEnding (by decide) (by decide)
  have written : (properties.map variableAsDeclaration).map (fun declaration =>
      ending.count declaration.property + ending.count declaration.value) =
        properties.map fun property => ending.count property.value := by
    rw [List.map_map]
    refine List.map_congr_left fun property within => ?_
    obtain ⟨opening, closing⟩ := plain property within
    have name : ending.count (variableAsDeclaration property).property = 0 :=
      count_eq_zero isEnding (by simpa [variableAsDeclaration] using opening)
        (by simpa [variableAsDeclaration] using closing)
    rw [Function.comp_apply, name, Nat.zero_add]
    rfl
  rw [variableBlock]
  split
  · next empty =>
      rw [List.isEmpty_iff.mp empty]
      exact count_nil isEnding
  · rw [count_ruleBlock isEnding, root, written, Nat.zero_add]

theorem endsLine_variableBlock (properties : List CustomProperty) :
    EndsLine (variableBlock properties) := by
  rw [variableBlock]
  split
  · exact Or.inl rfl
  · exact endsLine_ruleBlock _ _

theorem endsLine_verbatimBlock (block : Text) : EndsLine (verbatimBlock block) :=
  Or.inr ⟨block ++ "\n", by simp [verbatimBlock]⟩

theorem count_verbatimBlock (isEnding : ending ∈ endings) (block : Text) :
    ending.count (verbatimBlock block) = ending.count block := by
  have parts : verbatimBlock block = block ++ '\n' :: '\n' :: [] := rfl
  simp (disch := decide) only [parts, count_append_cons isEnding, count_cons isEnding,
    count_nil isEnding, Nat.add_zero]

/-- A written sheet with plain names has the endings of the texts that it takes over. -/
theorem count_ofSheet (isEnding : ending ∈ endings) {sheet : StyleSheet}
    (name : ComponentName.IsIdentifier sheet.componentName)
    (plain : ∀ property ∈ sheet.customProperties, '<' ∉ property.name ∧ '>' ∉ property.name) :
    ending.count (ofSheet sheet) = (sheet.writtenTexts.map ending.count).sum := by
  have header : ending.count ("/* " ++ sheet.componentName ++ " Component */\n\n") = 0 := by
    have opening : '<' ∉ sheet.componentName := name.not_mem (by decide)
    have closing : '>' ∉ sheet.componentName := name.not_mem (by decide)
    exact count_eq_zero isEnding (by simp [opening]) (by simp [closing])
  have headerEnds : EndsLine ("/* " ++ sheet.componentName ++ " Component */\n\n") :=
    Or.inr ⟨"/* " ++ sheet.componentName ++ " Component */\n", by simp⟩
  have rulesEnd : EndsLine (sheet.rules.map ruleText).flatten :=
    EndsLine.flatten (List.forall_mem_map.mpr fun rule _ => endsLine_ruleText rule)
  have blocksEnd : EndsLine (sheet.mediaBlocks.map verbatimBlock).flatten :=
    EndsLine.flatten (List.forall_mem_map.mpr fun block _ => endsLine_verbatimBlock block)
  have variablesEnd := headerEnds.append (endsLine_variableBlock sheet.customProperties)
  have rules : ending.count (sheet.rules.map ruleText).flatten =
      (sheet.rules.map fun rule => (rule.takenTexts.map ending.count).sum).sum :=
    count_flatten_map isEnding (fun rule _ => endsLine_ruleText rule)
      fun rule _ => count_ruleText isEnding rule
  have blocks : ending.count (sheet.mediaBlocks.map verbatimBlock).flatten =
      (sheet.mediaBlocks.map ending.count).sum :=
    count_flatten_map isEnding (fun block _ => endsLine_verbatimBlock block)
      fun block _ => count_verbatimBlock isEnding block
  have animations : ending.count
      (sheet.animations.map fun animation => verbatimBlock animation.definition).flatten =
        (sheet.animations.map fun animation => ending.count animation.definition).sum :=
    count_flatten_map isEnding (fun animation _ => endsLine_verbatimBlock animation.definition)
      fun animation _ => count_verbatimBlock isEnding animation.definition
  delta ofSheet
  rw [count_append isEnding ((variablesEnd.append rulesEnd).append blocksEnd),
    count_append isEnding (variablesEnd.append rulesEnd), count_append isEnding variablesEnd,
    count_append isEnding headerEnds, header, count_variableBlock isEnding plain, rules, blocks,
    animations]
  simp only [StyleSheet.writtenTexts, List.map_append, List.map_map, List.sum_append,
    List.flatMap, List.map_flatten, List.sum_flatten, Function.comp_def, Nat.zero_add]

end Css

/-! ## The outline -/

namespace Outline

open Page Page.Ending

/-- The tags that an element can have. -/
def tags : List Text := "div" :: tagRows.map Prod.snd

theorem tagOf_mem_tags (selector : Text) : tagOf selector ∈ tags := by
  rw [tagOf]
  split
  · next row found =>
      have isTag : row.2 ∈ tagRows.map Prod.snd :=
        List.mem_map_of_mem (List.mem_of_find?_eq_some found)
      exact List.mem_cons_of_mem "div".toList isTag
  · exact List.mem_cons_self

/-- A class name is made of letters, digits, dashes and underscores. -/
theorem isClassChar_of_mem_classOf (selector : Text) :
    ∀ c ∈ classOf selector, isClassChar c = true := by
  rw [classOf]
  cases found : classMark.first? selector with
  | none => decide
  | some name =>
      obtain ⟨later, covered, -, hit⟩ := Pattern.exists_of_mem_all (List.mem_of_head? found)
      unfold classMark at hit
      split at hit
      case h_2 => simp at hit
      case h_1 rest =>
      dsimp only at hit
      split at hit
      · simp at hit
      · obtain ⟨rfl, -⟩ := Prod.mk.inj (Option.some.inj hit)
        exact fun c within => List.mem_takeWhile_imp within

variable {ending : Ending}

/-- An element has the end of its own comment and the endings of its selector. -/
theorem count_renderGuess (isEnding : ending ∈ endings) (guess : ElementGuess) :
    ending.count (renderGuess guess) =
      ending.count commentEnd.mark + ending.count guess.selector := by
  have parts : renderGuess guess =
      ('<' :: tagOf guess.selector) ++ ' ' :: (("class=" : Text) ++ '"' ::
        (classOf guess.selector ++ '"' :: (['>'] ++
          '\n' :: ' ' :: ' ' :: ' ' :: ' ' :: ' ' :: ' ' :: (("<!--" : Text) ++ ' ' ::
            (guess.selector ++ ' ' :: (commentEnd.mark ++ '\n' :: ' ' :: ' ' :: ' ' :: ' ' ::
              (("</" : Text) ++ tagOf guess.selector ++ (">" : Text)))))))) := by
    delta renderGuess
    simp [commentEnd]
  have around : ∀ ending ∈ endings, ∀ tag ∈ tags,
      ending.count ('<' :: tag) = 0 ∧ ending.count (("</" : Text) ++ tag ++ (">" : Text)) = 0 := by
    decide
  have between : ∀ ending ∈ endings, ending.count ("class=" : Text) = 0 ∧
      ending.count ['>'] = 0 ∧ ending.count ("<!--" : Text) = 0 := by
    decide
  obtain ⟨opened, closed⟩ := around ending isEnding _ (tagOf_mem_tags guess.selector)
  obtain ⟨name, bracket, comment⟩ := between ending isEnding
  have className : ending.count (classOf guess.selector) = 0 := by
    have isChar := isClassChar_of_mem_classOf guess.selector
    exact count_eq_zero isEnding (fun within => absurd (isChar _ within) (by decide))
      fun within => absurd (isChar _ within) (by decide)
  rw [parts]
  simp (disch := decide) only [count_append_cons isEnding, count_cons isEnding, opened, closed,
    name, bracket, comment, className, Nat.zero_add, Nat.add_zero]
  omega

theorem count_render (isEnding : ending ∈ endings) (guesses : List ElementGuess) :
    ending.count (render guesses) = guesses.length * ending.count commentEnd.mark +
      ((guesses.map ElementGuess.selector).map ending.count).sum := by
  have across (front rest : Text) :
      ending.count (front ++ ("\n        " : Text) ++ rest) =
        ending.count front + ending.count rest := by
    have parts : front ++ ("\n        " : Text) ++ rest =
        front ++ '\n' :: ' ' :: ' ' :: ' ' :: ' ' :: ' ' :: ' ' :: ' ' :: ' ' :: rest := by simp
    simp (disch := decide) only [parts, count_append_cons isEnding, count_cons isEnding]
  rw [render, Text.sum_joinWith (count_nil isEnding) across, List.map_map]
  simp only [Function.comp_def, count_renderGuess isEnding, List.sum_map_add, List.map_const',
    List.sum_replicate, Nat.nsmul_eq_mul, List.map_map]

end Outline

/-! ## The page -/

namespace Page

open Ending

variable {ending : Ending}

/-- A fixed row is looked through for both endings. -/
theorem Ending.count_eq_zero_of_forall (isEnding : ending ∈ endings) {row : Text}
    (clear : ∀ ending ∈ endings, ending.count row = 0) : ending.count row = 0 :=
  clear ending isEnding

/-- The title is an identifier, in which no ending begins. -/
theorem count_titleRow (isEnding : ending ∈ endings) {name : Text}
    (isName : ComponentName.IsIdentifier name) :
    ending.count ("    <title>" ++ name ++ "</title>") = 0 := by
  rcases eq_or_eq_of_mem_endings isEnding with rfl | rfl
  · -- Behind the opening tag the end of the style could only begin in the name.
    have parts : ("    <title>" ++ name ++ "</title>" : Text) =
        ("    <title" : Text) ++ '>' :: (name ++ ("</title>" : Text)) := by simp
    have opening : styleEnd.count ("    <title" : Text) = 0 := by decide
    have closing : styleEnd.count ("</title>" : Text) = 0 := by decide
    have opens : styleEnd.mark = '<' :: ("/style" : Text) := rfl
    have lacks : '<' ∉ name.map styleEnd.reads := not_mem_map_toLower (isName.not_mem (by decide))
    rw [parts, count_append_cons_of_not_mem isEnding (by decide), opening, Nat.zero_add, count,
      List.map_append, opens, Text.occurrences_append_of_not_mem lacks, ← opens, ← count, closing]
  · refine Text.occurrences_eq_zero (c := '-') (by decide) ?_
    have lacks : '-' ∉ name := isName.not_mem (by decide)
    simp [commentEnd, lacks]

theorem count_nameRow (isEnding : ending ∈ endings) {name : Text}
    (isName : ComponentName.IsIdentifier name) :
    ending.count ("    <div class=\"" ++ Text.lower name ++ "\">") = 0 := by
  have parts : ("    <div class=\"" ++ Text.lower name ++ "\">" : Text) =
      ("    <div class=" : Text) ++ '"' :: (Text.lower name ++ '"' :: ['>']) := by simp
  have around : ∀ ending ∈ endings, ending.count ("    <div class=" : Text) = 0 ∧
      ending.count ['>'] = 0 := by
    decide
  obtain ⟨opened, closed⟩ := around ending isEnding
  have lower : ending.count (Text.lower name) = 0 :=
    count_eq_zero isEnding (isName.lower.not_mem (by decide)) (isName.lower.not_mem (by decide))
  simp (disch := decide) only [parts, count_append_cons isEnding, opened, closed, lower,
    Nat.add_zero]

/-- Beside the end of its own style, a page has the endings of its style and its body. -/
theorem count_frame (isEnding : ending ∈ endings) {name : Text}
    (isName : ComponentName.IsIdentifier name) (css body : Text) :
    ending.count (frame name css body) =
      ending.count styleEnd.mark + ending.count css + ending.count body := by
  have across (front rest : Text) :
      ending.count (front ++ ['\n'] ++ rest) = ending.count front + ending.count rest := by
    rw [List.append_assoc]
    exact count_append_cons isEnding (by decide) front rest
  have bodyRow : ending.count ("        " ++ body) = ending.count body := by
    have parts : ("        " ++ body : Text) =
        ' ' :: ' ' :: ' ' :: ' ' :: ' ' :: ' ' :: ' ' :: ' ' :: body := rfl
    simp (disch := decide) only [parts, count_cons isEnding]
  have closing : ending.count ("    </style>" : Text) = ending.count styleEnd.mark := by
    have same : ∀ ending ∈ endings,
        ending.count ("    </style>" : Text) = ending.count styleEnd.mark := by
      decide
    exact same ending isEnding
  delta frame Text.lines
  rw [Text.sum_joinWith (count_nil isEnding) across]
  simp (disch := decide) only [List.map_cons, List.map_nil, List.sum_cons, List.sum_nil,
    count_titleRow isEnding isName, count_nameRow isEnding isName, bodyRow, closing,
    count_eq_zero_of_forall isEnding, Nat.zero_add, Nat.add_zero]
  omega

/-- The placeholder stands for an outline without elements. -/
theorem count_outline (isEnding : ending ∈ endings) (guesses : List ElementGuess) :
    ending.count (Text.orElse (Outline.render guesses) placeholder) =
      ending.count (Outline.render guesses) := by
  have clear : ending.count placeholder = 0 := by
    have none : ∀ ending ∈ endings, ending.count placeholder = 0 := by decide
    exact none ending isEnding
  rw [Text.orElse]
  split
  · next empty => rw [clear, List.isEmpty_iff.mp empty, count_nil isEnding]
  · rfl

end Page

/-- The texts of a sheet that its page takes over as they are. -/
def StyleSheet.takenTexts (sheet : StyleSheet) : List Text :=
  sheet.writtenTexts ++ sheet.outline.map ElementGuess.selector

namespace Page

open Ending

variable {ending : Ending}

/-- A page has the end of its own style, the end of one comment for each guess of the
outline, and the endings of the texts that it takes over. -/
theorem count_ofText (isEnding : ending ∈ endings) (text : Text) :
    let sheet := StyleSheet.ofText text
    ending.count (GeneratedCode.ofSheet sheet).html =
      ending.count styleEnd.mark + sheet.outline.length * ending.count commentEnd.mark +
        (sheet.takenTexts.map ending.count).sum := by
  intro sheet
  have isName : ComponentName.IsIdentifier sheet.componentName :=
    ComponentName.isIdentifier_ofText text
  have plain : ∀ property ∈ sheet.customProperties,
      '<' ∉ property.name ∧ '>' ∉ property.name := by
    intro property isFound
    have isChar := AtBlock.isNameChar_of_mem_name isFound
    exact ⟨fun within => absurd (isChar _ within) (by decide),
      fun within => absurd (isChar _ within) (by decide)⟩
  have style := Css.count_ofSheet isEnding isName plain
  have body := Outline.count_render isEnding sheet.outline
  change ending.count (frame sheet.componentName (Css.ofSheet sheet) _) = _
  rw [count_frame isEnding isName, count_outline isEnding, style, body, StyleSheet.takenTexts,
    List.map_append, List.sum_append]
  omega

end Page

/-- In the page of a text, the end of the style is only that of the template and the ends of
comments are only those of the elements, exactly when no text that the page takes over has
an ending. -/
theorem html_ofText_contained_iff (text : Text) :
    let sheet := StyleSheet.ofText text
    let html := (GeneratedCode.ofSheet sheet).html
    (Page.styleEnd.count html = 1 ∧ Page.commentEnd.count html = sheet.outline.length) ↔
      ∀ piece ∈ sheet.takenTexts, ∀ ending ∈ Page.endings, ending.count piece = 0 := by
  intro sheet html
  have style : Page.styleEnd.count html = 1 + (sheet.takenTexts.map Page.styleEnd.count).sum :=
    Page.count_ofText List.mem_cons_self text
  have comment : Page.commentEnd.count html =
      0 + sheet.outline.length * 1 + (sheet.takenTexts.map Page.commentEnd.count).sum :=
    Page.count_ofText (List.mem_cons_of_mem _ List.mem_cons_self) text
  have none (ending : Page.Ending) : (sheet.takenTexts.map ending.count).sum = 0 ↔
      ∀ piece ∈ sheet.takenTexts, ending.count piece = 0 := by
    rw [List.sum_eq_zero_iff_forall_eq_nat, List.forall_mem_map]
  have each (piece : Text) : (∀ ending ∈ Page.endings, ending.count piece = 0) ↔
      Page.styleEnd.count piece = 0 ∧ Page.commentEnd.count piece = 0 := by
    simp [Page.endings]
  have noStyleEnd : Page.styleEnd.count html = 1 ↔
      (sheet.takenTexts.map Page.styleEnd.count).sum = 0 := by omega
  have noCommentEnd : Page.commentEnd.count html = sheet.outline.length ↔
      (sheet.takenTexts.map Page.commentEnd.count).sum = 0 := by omega
  rw [noStyleEnd, noCommentEnd, none, none]
  simp only [each, forall_and]

/-- A value that is accepted and sanitized can end the style of its page, and a comment. -/
theorem html_not_contained_value :
    let css : Text := ".a \x7b b: --></style> \x7d"
    CssText.check CssText.defaultLimit (.text css) = .ok css ∧ Sanitizer.sanitize css = css ∧
      let sheet := StyleSheet.ofText css
      let html := (GeneratedCode.ofSheet sheet).html
      Page.styleEnd.count html = 2 ∧ Page.commentEnd.count html = 2 ∧
        sheet.outline.length = 1 := by
  decide +kernel

end DesignExport
