/-
# What a text can do to the source of its component

The source is a template with holes, and nothing that fills a hole can close a brace
or a quotation of the template or add a hole for children: a name is an identifier, a
line of classes is put together from a fixed stock, and the inner markup is one of a
few fixed texts. So the braces and the quotations of the source are those of the
template, whatever the text says.
-/

import DesignExport.Code.Basic
import DesignExport.Proofs.Braces
import DesignExport.Proofs.Code.UtilityClasses
import DesignExport.Proofs.Sheet.ComponentName
import DesignExport.Sheet.Reading

namespace DesignExport

/-- The characters that open or close a hole or a quotation of the source. -/
def Component.marks : List Char := ['{', '}', '\x60']

/-! ## Holes for children -/

namespace Roles

open Component

/-- A text without closing braces has no hole for children. -/
theorem occurrences_children_eq_zero {text : Text} (unclosed : '}' ∉ text) :
    Text.occurrences children text = 0 :=
  Text.occurrences_eq_zero (c := '}') (by decide) unclosed

/-- No hole for children goes across a character that is not in it. -/
theorem occurrences_children_append_cons {mark : Char} (lacks : mark ∉ children)
    (front rest : Text) :
    Text.occurrences children (front ++ mark :: rest) =
      Text.occurrences children front + Text.occurrences children rest :=
  Text.occurrences_append_cons (by decide) lacks front rest

/-! ## The inner markup -/

/-- The drawing has no mark. -/
theorem checkIcon_clear : ∀ c ∈ checkIcon, c ∉ marks := by
  delta checkIcon Text.lines
  refine Text.forall_mem_joinWith (by decide) ?_
  simp only [List.forall_mem_cons, List.not_mem_nil, false_implies, implies_true, and_true]
  and_intros <;> exact Text.forall_mem_toList_ofList (by decide +kernel)

/-- What adds up across the line breaks of the inner markup is known from its holes, when the
markup around them does not count. -/
theorem sum_innerMarkup {measure : Text → Nat} (empty : measure [] = 0)
    (across : ∀ front rest,
      measure (front ++ ("\n        " : Text) ++ rest) = measure front + measure rest)
    (ending : ∀ front, measure (front ++ ("\n      </div>" : Text)) = measure front)
    (frame : measure frameOpening = 0) (icon : measure checkIcon = 0)
    (content : measure ("<div className=\"figma-content\">" : Text) = 0) (roles : Roles) :
    measure roles.innerMarkup =
      (if (roles.button || roles.frame) && roles.text then measure textHole else 0) +
        measure children := by
  rw [innerMarkup]
  split
  · next framed =>
      have parts : (roles.frameParts.map measure).sum =
          (if roles.text then measure textHole else 0) + measure children := by
        cases texts : roles.text <;> cases icons : roles.icon <;>
          simp [frameParts, texts, icons, frame, icon]
      rw [ending, Text.sum_joinWith empty across, parts, framed, Bool.true_and]
  · next plain =>
      have bare : (roles.button || roles.frame) = false := by simpa using plain
      have parts :
          ("<div className=\"figma-content\">\n        " ++ children ++ "\n      </div>" : Text) =
            ("<div className=\"figma-content\">" : Text) ++ ("\n        " : Text) ++ children ++
              ("\n      </div>" : Text) := rfl
      rw [parts, ending, across, content, bare]
      simp

/-- The marks of the inner markup are those of its holes. -/
theorem count_innerMarkup {c : Char} (isMark : c ∈ marks) (roles : Roles) :
    roles.innerMarkup.count c =
      (if (roles.button || roles.frame) && roles.text then textHole.count c else 0) +
        children.count c := by
  have around : ∀ c ∈ marks, c ∉ ("\n        " : Text) ∧ c ∉ ("\n      </div>" : Text) ∧
      c ∉ frameOpening ∧ c ∉ ("<div className=\"figma-content\">" : Text) := by decide
  obtain ⟨inRow, inEnding, inFrame, inContent⟩ := around c isMark
  have inIcon : c ∉ checkIcon := fun within => checkIcon_clear c within isMark
  refine sum_innerMarkup List.count_nil (Text.count_append_mark inRow) ?_
    (List.count_eq_zero_of_not_mem inFrame) (List.count_eq_zero_of_not_mem inIcon)
    (List.count_eq_zero_of_not_mem inContent) roles
  intro front
  rw [List.count_append, List.count_eq_zero_of_not_mem inEnding, Nat.add_zero]

/-- The braces of the inner markup are those around its holes. -/
theorem isBalanced_innerMarkup (roles : Roles) : Text.IsBalanced roles.innerMarkup := by
  have paired : textHole.count '{' = textHole.count '}' ∧
      children.count '{' = children.count '}' := by decide
  rw [Text.IsBalanced, count_innerMarkup (by decide), count_innerMarkup (by decide), paired.1,
    paired.2]

theorem count_backtick_innerMarkup (roles : Roles) : roles.innerMarkup.count '\x60' = 0 := by
  have none : textHole.count '\x60' = 0 ∧ children.count '\x60' = 0 := by decide
  rw [count_innerMarkup (by decide), none.1, none.2, ite_self]

/-- The inner markup has one hole for children, whatever the roles. -/
theorem occurrences_children_innerMarkup (roles : Roles) :
    Text.occurrences children roles.innerMarkup = 1 := by
  have across (front rest : Text) :
      Text.occurrences children (front ++ ("\n        " : Text) ++ rest) =
        Text.occurrences children front + Text.occurrences children rest := by
    have parts : front ++ ("\n        " : Text) ++ rest =
        (front ++ '\n' :: ("       " : Text)) ++ ' ' :: rest := by simp
    have blanks : Text.occurrences children ("       " : Text) = 0 :=
      occurrences_children_eq_zero (by decide)
    rw [parts, occurrences_children_append_cons (by decide),
      occurrences_children_append_cons (by decide), blanks, Nat.add_zero]
  have ending (front : Text) :
      Text.occurrences children (front ++ ("\n      </div>" : Text)) =
        Text.occurrences children front := by
    have closed : Text.occurrences children ("      </div>" : Text) = 0 :=
      occurrences_children_eq_zero (by decide)
    refine (occurrences_children_append_cons (by decide) front ("      </div>" : Text)).trans ?_
    rw [closed, Nat.add_zero]
  have icon : Text.occurrences children checkIcon = 0 :=
    occurrences_children_eq_zero fun within => checkIcon_clear _ within (by decide)
  have otherHole : Text.occurrences children textHole = 0 := by decide
  have itself : Text.occurrences children children = 1 := by decide
  rw [sum_innerMarkup rfl across ending (occurrences_children_eq_zero (by decide)) icon
    (occurrences_children_eq_zero (by decide)), otherHole, itself, ite_self]

end Roles

/-! ## The source -/

namespace Component

/-- Every character but the line break is counted hole by hole; the name fills four holes. -/
theorem count_source {c : Char} (inLine : c ∉ ['\n']) (name classes inner : Text) :
    (source name classes inner).count c =
      (source [] [] []).count c + 4 * name.count c + classes.count c + inner.count c := by
  have rows := Text.sum_joinWith List.count_nil (Text.count_append_mark inLine)
  delta source Text.lines
  rw [rows, rows]
  simp only [List.map_cons, List.map_nil, List.sum_cons, List.sum_nil, List.count_append,
    List.count_nil]
  omega

/-- Only the inner markup has holes for children. -/
theorem occurrences_children_source {name classes : Text} (nameClear : '}' ∉ name)
    (classesClear : '}' ∉ classes) (inner : Text) :
    Text.occurrences Roles.children (source name classes inner) =
      Text.occurrences Roles.children inner := by
  have interfaceRow :
      Text.occurrences Roles.children ("interface " ++ name ++ "Props \x7b") = 0 :=
    Roles.occurrences_children_eq_zero (by simp [nameClear])
  have constRow :
      Text.occurrences Roles.children
        ("const " ++ name ++ ": React.FC<" ++ name ++ "Props> = (\x7b") = 0 :=
    Roles.occurrences_children_eq_zero (by simp [nameClear])
  have exportRow : Text.occurrences Roles.children ("export default " ++ name ++ ";") = 0 :=
    Roles.occurrences_children_eq_zero (by simp [nameClear])
  have classRow :
      Text.occurrences Roles.children
        ("      className=\x7b`" ++ classes ++ " $\x7bclassName || \"\"\x7d`\x7d") = 0 := by
    have parts : ("      className=\x7b`" ++ classes ++ " $\x7bclassName || \"\"\x7d`\x7d" : Text) =
        ("      className=\x7b`" ++ classes : Text) ++
          ' ' :: ("$\x7bclassName || \"\"\x7d`\x7d" : Text) := rfl
    have behind : Text.occurrences Roles.children
        ("$\x7bclassName || \"\"\x7d`\x7d" : Text) = 0 := by decide
    rw [parts, Roles.occurrences_children_append_cons (by decide), behind,
      Roles.occurrences_children_eq_zero (by simp [classesClear])]
  have innerRow : Text.occurrences Roles.children ("      " ++ inner) =
      Text.occurrences Roles.children inner := by
    have parts : ("      " ++ inner : Text) = ("     " : Text) ++ ' ' :: inner := rfl
    rw [parts, Roles.occurrences_children_append_cons (by decide),
      Roles.occurrences_children_eq_zero (by decide), Nat.zero_add]
  -- These rows close braces of the template, none of them around children.
  have closingRow : Text.occurrences Roles.children ("\x7d" : Text) = 0 := by decide
  have arrowRow : Text.occurrences Roles.children ("\x7d) => \x7b" : Text) = 0 := by decide
  have propsRow : Text.occurrences Roles.children ("      \x7b...props\x7d" : Text) = 0 := by
    decide
  have endRow : Text.occurrences Roles.children ("\x7d;" : Text) = 0 := by decide
  have across (front rest : Text) :
      Text.occurrences Roles.children (front ++ ['\n'] ++ rest) =
        Text.occurrences Roles.children front + Text.occurrences Roles.children rest := by
    rw [List.append_assoc]
    exact Roles.occurrences_children_append_cons (by decide) front rest
  delta source Text.lines
  rw [@Text.sum_joinWith ['\n'] (Text.occurrences Roles.children) rfl across]
  simp (disch := decide) only [List.map_cons, List.map_nil, List.sum_cons, List.sum_nil,
    interfaceRow, constRow, exportRow, classRow, innerRow, closingRow, arrowRow, propsRow, endRow,
    Roles.occurrences_children_eq_zero, Nat.zero_add, Nat.add_zero]

/-- With an identifier for a name and a line of classes without marks, the source of a
component has the braces and the two backticks of the template, and one hole for
children. -/
theorem source_closed {name classes : Text} (plain : ComponentName.IsIdentifier name)
    (classesClear : ∀ c ∈ classes, c ∉ marks) (roles : Roles) :
    let source := source name classes roles.innerMarkup
    Text.IsBalanced source ∧ source.count '\x60' = 2 ∧
      Text.occurrences Roles.children source = 1 := by
  intro source
  have nameClear : ∀ c ∈ name, c ∉ marks := by
    intro c within isMark
    have noMark : ∀ c ∈ marks, ComponentName.isIdentifierChar c = false := by decide
    exact absurd (plain c within) (by simp [noMark c isMark])
  have template : Text.IsBalanced (Component.source [] [] []) ∧
      (Component.source [] [] []).count '\x60' = 2 := by decide +kernel
  have counted {c : Char} (isMark : c ∈ marks) :
      source.count c = (Component.source [] [] []).count c + roles.innerMarkup.count c := by
    have inLine : ∀ c ∈ marks, c ∉ ['\n'] := by decide
    have inName : c ∉ name := fun within => nameClear c within isMark
    have inClasses : c ∉ classes := fun within => classesClear c within isMark
    rw [count_source (inLine c isMark), List.count_eq_zero_of_not_mem inName,
      List.count_eq_zero_of_not_mem inClasses]
    omega
  refine ⟨?_, ?_, ?_⟩
  · rw [Text.IsBalanced, counted (by decide), counted (by decide), template.1,
      roles.isBalanced_innerMarkup]
  · rw [counted (by decide), template.2, roles.count_backtick_innerMarkup]
  · have children := occurrences_children_source (fun within => nameClear _ within (by decide))
      (fun within => classesClear _ within (by decide)) roles.innerMarkup
    exact children.trans roles.occurrences_children_innerMarkup

end Component

/-- The source for a text is made from its name, its line of classes and its roles. -/
theorem jsx_ofText_eq_source (text : Text) :
    (GeneratedCode.ofSheet (StyleSheet.ofText text)).jsx =
      Component.source (StyleSheet.ofText text).componentName
        (GeneratedCode.ofSheet (StyleSheet.ofText text)).classes
        (Roles.ofRules (StyleSheet.ofText text).rules).innerMarkup := rfl

/-- No text gets out of the holes of its component's source: the braces are paired, the two
backticks and the hole for children are those of the template, every class is one of the
fixed vocabulary, and the source depends only on the name, the roles and the line of
classes. -/
theorem jsx_ofText_closed (text : Text) :
    let code := GeneratedCode.ofSheet (StyleSheet.ofText text)
    Text.IsBalanced code.jsx ∧ code.jsx.count '\x60' = 2 ∧
      Text.occurrences Roles.children code.jsx = 1 ∧
      (∀ token ∈ Text.words code.classes, token ∈ Styling.vocabulary) ∧
      ∀ other : Text,
        (StyleSheet.ofText other).componentName = (StyleSheet.ofText text).componentName →
        Roles.ofRules (StyleSheet.ofText other).rules =
          Roles.ofRules (StyleSheet.ofText text).rules →
        (GeneratedCode.ofSheet (StyleSheet.ofText other)).classes = code.classes →
        (GeneratedCode.ofSheet (StyleSheet.ofText other)).jsx = code.jsx := by
  intro code
  have classesClear : ∀ c ∈ code.classes, c ∉ Component.marks :=
    UtilityStyle.forall_mem_mainClasses (by decide) (by decide +kernel)
  obtain ⟨balanced, quoted, once⟩ := Component.source_closed
    (ComponentName.isIdentifier_ofText text) classesClear
    (Roles.ofRules (StyleSheet.ofText text).rules)
  refine ⟨balanced, quoted, once, fun token => UtilityStyle.mem_vocabulary, ?_⟩
  intro other sameName sameRoles sameClasses
  rw [jsx_ofText_eq_source other, sameName, sameRoles, sameClasses]
  exact (jsx_ofText_eq_source text).symm

/-- A value with braces, a backtick and a hole of its own changes nothing in the source. -/
theorem jsx_ofText_closed_hostile_value :
    (GeneratedCode.ofSheet (StyleSheet.ofText
        ".card \x7b padding: `$\x7bx 2px; \x7bchildren\x7d: y \x7d")).jsx =
      (GeneratedCode.ofSheet (StyleSheet.ofText ".card \x7b padding: 1px 2px \x7d")).jsx :=
  (jsx_ofText_closed ".card \x7b padding: 1px 2px \x7d").2.2.2.2
    ".card \x7b padding: `$\x7bx 2px; \x7bchildren\x7d: y \x7d"
    (by decide) (by decide) (by decide)

end DesignExport
