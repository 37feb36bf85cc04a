/-
# Style sheets

The result of reading a design export: style rules in source order, verbatim
at-blocks, variables, and what is guessed from the selectors. Declarations keep
their text exactly as it was trimmed, and duplicates are kept.
-/

import DesignExport.Keyed
import DesignExport.UnknownName

namespace DesignExport

/-- How a component arranges its children. -/
inductive Layout where
  | flexbox
  | grid
  | absolute
  | static
deriving DecidableEq

namespace Layout

/-- The word for a layout in every output. -/
def name : Layout → Text
  | flexbox => "flexbox"
  | grid => "grid"
  | absolute => "absolute"
  | static => "static"

/-- All layouts. -/
def all : List Layout := [flexbox, grid, absolute, static]

/-- The layout of a word. -/
def ofName (word : Text) : Except UnknownName Layout :=
  match all.find? fun layout => layout.name == word with
  | some layout => .ok layout
  | none => .error ⟨"LayoutType", word⟩

end Layout

/-- One `property: value` pair. -/
structure Declaration where
  property : Text
  value : Text
deriving DecidableEq

/-- A declaration on one line, as it is written in a sheet. -/
def Declaration.text (declaration : Declaration) : Text :=
  declaration.property ++ ": " ++ declaration.value

/-- A selector with its declarations in source order. A rule that comes from a
layer comment of the design carries the layer's label. -/
structure StyleRule where
  selector : Text
  declarations : List Declaration
  layer : Option Text := none
deriving DecidableEq

/-- The values that a rule gives to a property, in source order. -/
def StyleRule.valuesOf (property : Text) (rule : StyleRule) : List Text :=
  (rule.declarations.filter fun declaration => declaration.property == property).map
    Declaration.value

/-- A named `@keyframes` block with its verbatim text. -/
structure Animation where
  name : Text
  definition : Text
deriving DecidableEq

/-- A variable of the sheet; the name goes without its two leading dashes. -/
structure CustomProperty where
  name : Text
  value : Text
deriving DecidableEq

/-- A guess at one page element, made from a selector: its depth is the number
of words of the selector, which are kept as its elements. -/
structure ElementGuess where
  selector : Text
  depth : Nat
  elements : List Text
deriving DecidableEq

/-- Everything that the generated code is made from. -/
structure StyleSheet where
  componentName : Text
  rules : List StyleRule := []
  mediaBlocks : List Text := []
  animations : List Animation := []
  customProperties : List CustomProperty := []
  layout : Layout := .static
  tokens : Keyed Text Text := []
  outline : List ElementGuess := []
deriving DecidableEq

/-- All declarations of the rules, in rule order. -/
def StyleRule.allDeclarations (rules : List StyleRule) : List Declaration :=
  rules.flatMap StyleRule.declarations

/-- How many declarations the rules of a sheet hold. -/
def StyleSheet.declarationCount (sheet : StyleSheet) : Nat :=
  (StyleRule.allDeclarations sheet.rules).length

end DesignExport
