/-
# The report on a sheet

A few lines for a reader: the name, the layout, the rules, and everything else
that was found, with the classes that the rules stand for.
-/

import DesignExport.Code.Utility
import DesignExport.Sheet.Basic

namespace DesignExport.CommandLine.Report

/-- A heading with a count. -/
def heading (title : Text) (count : Nat) : Text := title ++ " (" ++ Text.ofNat count ++ "):"

/-- A heading and the lines below it, or nothing where there are no lines. -/
def titled (title : Text) (lines : List Text) : List Text :=
  if lines.isEmpty then [] else heading title lines.length :: lines

/-- The line of a rule. -/
def ruleLine (rule : StyleRule) : Text :=
  let origin : Text := match rule.layer with
    | some label => if label.isEmpty then [] else "  [" ++ label ++ "]"
    | none => []
  "  " ++ rule.selector ++ " (" ++ Text.ofNat rule.declarations.length ++ " declarations)" ++ origin

/-- The line of a variable. -/
def variableLine (found : CustomProperty) : Text := "  --" ++ found.name ++ ": " ++ found.value

/-- The line of a design token. -/
def tokenLine (token : Text × Text) : Text := "  " ++ token.1 ++ ": " ++ token.2

/-- The line of a style that no class stands for. -/
def styleLine (style : Text) : Text := "  custom: " ++ style

/-- The line that names the animations, if there are any. -/
def animationLines (animations : List Animation) : List Text :=
  if animations.isEmpty then []
  else ["Animations: " ++ Text.joinWith ", " (animations.map Animation.name)]

/-- The lines on a sheet. -/
def ofSheet (sheet : StyleSheet) : List Text :=
  let utility := UtilityStyle.ofRules sheet.rules
  let summary : List Text :=
    ["Component: " ++ sheet.componentName, "Layout:    " ++ sheet.layout.name,
     heading "Rules" sheet.rules.length]
  let blocks : List Text := ["Media blocks: " ++ Text.ofNat sheet.mediaBlocks.length]
  let classes : List Text := ["Tailwind: " ++ Text.orElse utility.mainClasses "(none)"]
  summary ++ sheet.rules.map ruleLine ++
    titled "Custom properties" (sheet.customProperties.map variableLine) ++
    animationLines sheet.animations ++ blocks ++
    titled "Design tokens" (sheet.tokens.map tokenLine) ++ classes ++
    utility.customStyles.map styleLine

end DesignExport.CommandLine.Report
