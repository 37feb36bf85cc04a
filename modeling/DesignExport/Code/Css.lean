/-
# Writing a style sheet

A sheet is written as a heading comment, a block of variables, the rules, the
media blocks and the animations. Rules without a selector or without
declarations are left out.
-/

import DesignExport.Sheet.Basic

namespace DesignExport.Css

/-- One declaration on a line of its own. -/
def declarationLine (declaration : Declaration) : Text :=
  "  " ++ declaration.property ++ ": " ++ declaration.value ++ ";\n"

/-- Declarations on lines of their own. -/
def declarationLines (declarations : List Declaration) : Text :=
  (declarations.map declarationLine).flatten

/-- A selector with its declarations in braces, and an empty line. -/
def ruleBlock (selector : Text) (declarations : List Declaration) : Text :=
  selector ++ " \x7b\n" ++ declarationLines declarations ++ "\x7d\n\n"

/-- A variable as a declaration. -/
def variableAsDeclaration (property : CustomProperty) : Declaration :=
  ⟨"--" ++ property.name, property.value⟩

/-- The block of variables, nothing when there are none. -/
def variableBlock (properties : List CustomProperty) : Text :=
  if properties.isEmpty then [] else ruleBlock ":root" (properties.map variableAsDeclaration)

/-- A rule, nothing when it has no selector or no declarations. -/
def ruleText (rule : StyleRule) : Text :=
  if rule.selector.isEmpty || rule.declarations.isEmpty then []
  else ruleBlock rule.selector rule.declarations

/-- A verbatim block and an empty line. -/
def verbatimBlock (block : Text) : Text := block ++ "\n\n"

/-- The written sheet. -/
def ofSheet (sheet : StyleSheet) : Text :=
  "/* " ++ sheet.componentName ++ " Component */\n\n" ++
    variableBlock sheet.customProperties ++
    (sheet.rules.map ruleText).flatten ++
    (sheet.mediaBlocks.map verbatimBlock).flatten ++
    (sheet.animations.map fun animation => verbatimBlock animation.definition).flatten

end DesignExport.Css
