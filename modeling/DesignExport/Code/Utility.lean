/-
# Utility classes

A declaration becomes a utility class where the class scale has one for it: by
an exact row of the table, or by a rule of thumb for radii, padding and gaps.
Sizes and visual properties that the scale cannot express are kept as literal
styles. Everything else is dropped, and classes are not deduplicated.
-/

import DesignExport.Sheet.Basic
import DesignExport.Text.Blank

namespace DesignExport

/-- What becomes of a declaration: class names, a literal style, or nothing. -/
inductive Styling where
  | classes (names : Text)
  | style (text : Text)
  | dropped
deriving DecidableEq

namespace Styling

/-- The class names of a styling, empty when it has none. -/
def classNames : Styling → Text
  | classes names => names
  | _ => []

/-- The literal style of a styling, empty when it has none. -/
def literalStyle : Styling → Text
  | style text => text
  | _ => []

/-- Declarations that stand for exactly one class. -/
def table : List (Declaration × Text) :=
  [(⟨"display", "flex"⟩, "flex"),
   (⟨"display", "block"⟩, "block"),
   (⟨"display", "inline"⟩, "inline"),
   (⟨"display", "inline-block"⟩, "inline-block"),
   (⟨"display", "grid"⟩, "grid"),
   (⟨"flex-direction", "column"⟩, "flex-col"),
   (⟨"flex-direction", "row"⟩, "flex-row"),
   (⟨"justify-content", "center"⟩, "justify-center"),
   (⟨"justify-content", "space-between"⟩, "justify-between"),
   (⟨"justify-content", "flex-start"⟩, "justify-start"),
   (⟨"justify-content", "flex-end"⟩, "justify-end"),
   (⟨"align-items", "center"⟩, "items-center"),
   (⟨"align-items", "flex-start"⟩, "items-start"),
   (⟨"align-items", "flex-end"⟩, "items-end"),
   (⟨"text-align", "center"⟩, "text-center"),
   (⟨"text-align", "left"⟩, "text-left"),
   (⟨"text-align", "right"⟩, "text-right"),
   (⟨"font-weight", "bold"⟩, "font-bold"),
   (⟨"font-weight", "600"⟩, "font-semibold"),
   (⟨"font-weight", "500"⟩, "font-medium"),
   (⟨"font-weight", "400"⟩, "font-normal"),
   (⟨"font-weight", "300"⟩, "font-light"),
   (⟨"position", "relative"⟩, "relative"),
   (⟨"position", "absolute"⟩, "absolute"),
   (⟨"position", "fixed"⟩, "fixed"),
   (⟨"position", "sticky"⟩, "sticky"),
   (⟨"overflow", "hidden"⟩, "overflow-hidden"),
   (⟨"overflow", "auto"⟩, "overflow-auto"),
   (⟨"border-radius", "50%"⟩, "rounded-full"),
   (⟨"cursor", "pointer"⟩, "cursor-pointer"),
   (⟨"isolation", "isolate"⟩, "isolate")]

/-- A radius that makes a pill is round; any other has the large radius. -/
def ofRadius (value : Text) : Styling :=
  if Text.occursAny ["100px", "90px"] value then classes "rounded-full"
  else classes "rounded-lg"

/-- Padding of one or two values has a class; three and four values have none. -/
def ofPadding (value : Text) : Styling :=
  match (Text.words value).length with
  | 1 => classes "p-4"
  | 2 => classes "py-3 px-6"
  | _ => dropped

/-- Two gaps are on the scale. -/
def ofGap (value : Text) : Styling :=
  if value == "10px" then classes "gap-2.5"
  else if value == "8px" then classes "gap-2"
  else dropped

/-- Properties that are kept as literal styles. -/
def literalProperties : List Text := ["width", "height", "box-shadow", "backdrop-filter"]

/-- A declaration that no row of the table fits. -/
def byProperty (declaration : Declaration) : Styling :=
  let property := declaration.property
  let value := declaration.value
  if property == "border-radius" then ofRadius value
  else if property == "padding" then ofPadding value
  else if property == "gap" then ofGap value
  else if property == "background" then
    if ("#" : Text).isPrefixOf value then style ("background-color: " ++ value)
    else style ("background: " ++ value)
  else if literalProperties.contains property then style declaration.text
  else dropped

/-- The styling of a declaration. -/
def ofDeclaration (declaration : Declaration) : Styling :=
  match table.find? fun row => row.1 == declaration with
  | some row => classes row.2
  | none => byProperty declaration

end Styling

/-- The classes of a whole sheet in one line, and the literal styles beside them. -/
structure UtilityStyle where
  mainClasses : Text
  customStyles : List Text
deriving DecidableEq

namespace UtilityStyle

/-- The single classes of the line. -/
def classList (style : UtilityStyle) : List Text := Text.words style.mainClasses

/-- The styling of all declarations of all rules, in order. -/
def ofRules (rules : List StyleRule) : UtilityStyle :=
  let stylings := (StyleRule.allDeclarations rules).map Styling.ofDeclaration
  { mainClasses := Text.joinWith " "
      ((stylings.map Styling.classNames).filter fun names => !names.isEmpty)
    customStyles :=
      (stylings.map Styling.literalStyle).filter fun style => !style.isEmpty }

end UtilityStyle

end DesignExport
