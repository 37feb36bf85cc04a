/-
# Component source

The source of a component is a fixed template with three holes: the name, the
line of utility classes, and the inner markup. The inner markup depends only on
which roles the labels of the layers mention.
-/

import DesignExport.Sheet.Basic
import DesignExport.Text.Lowercase

namespace DesignExport

/-- The roles that the labels of the layers mention. -/
structure Roles where
  button : Bool
  frame : Bool
  text : Bool
  icon : Bool
deriving DecidableEq

namespace Roles

/-- The labels of the rules that come from layers, in lower case. -/
def labels (rules : List StyleRule) : List Text :=
  (rules.filterMap StyleRule.layer).map Text.lower

/-- The roles that the labels of the rules mention. -/
def ofRules (rules : List StyleRule) : Roles :=
  let names := labels rules
  { button := names.any (Text.occurs "button")
    frame := names.any (Text.occurs "frame")
    text := names.any (Text.occursAny ["text", "brief"])
    icon := names.any (Text.occursAny ["check", "icon"]) }

/-- The hole for the children of a component. -/
def children : Text := "\x7bchildren\x7d"

/-- The drawing of a check mark. -/
def checkIcon : Text :=
  Text.lines
    ["<div className=\"check-icon\">",
     "          <svg width=\"16\" height=\"16\" viewBox=\"0 0 16 16\" fill=\"none\">",
     "            <rect width=\"16\" height=\"16\" rx=\"2\" fill=\"#00A656\"/>",
     "            <path d=\"M6.5 9.5L4.5 7.5L3.5 8.5L6.5 11.5L12.5 5.5L11.5 4.5L6.5 9.5Z\" fill=\"white\"/>",
     "          </svg>",
     "        </div>"]

/-- The opening of the markup of a button or frame. -/
def frameOpening : Text := "<div className=\"frame-content\">"

/-- The hole for the text of a component. -/
def textHole : Text := "<span className=\"button-text\">\x7btext\x7d</span>"

/-- The parts inside the markup of a button or frame with these roles. -/
def frameParts (roles : Roles) : List Text :=
  frameOpening :: (if roles.text then [textHole] else []) ++
    (if roles.icon then [checkIcon] else []) ++ [children]

/-- The markup inside the root element of a component with these roles. -/
def innerMarkup (roles : Roles) : Text :=
  if roles.button || roles.frame then
    Text.joinWith "\n        " roles.frameParts ++ "\n      </div>"
  else
    "<div className=\"figma-content\">\n        " ++ children ++ "\n      </div>"

end Roles

namespace Component

/-- The source of a component with this name, line of classes and inner markup. -/
def source (name classes inner : Text) : Text :=
  Text.lines
    ["import React from \"react\";",
     "",
     "interface " ++ name ++ "Props \x7b",
     "  className?: string;",
     "  children?: React.ReactNode;",
     "  text?: string;",
     "  variant?: \"default\" | \"primary\" | \"secondary\";",
     "  size?: \"sm\" | \"md\" | \"lg\";",
     "\x7d",
     "",
     "const " ++ name ++ ": React.FC<" ++ name ++ "Props> = (\x7b",
     "  className,",
     "  children,",
     "  text = \"Brief generated\",",
     "  variant = \"default\",",
     "  size = \"md\",",
     "  ...props",
     "\x7d) => \x7b",
     "  return (",
     "    <div",
     "      className=\x7b`" ++ classes ++ " $\x7bclassName || \"\"\x7d`\x7d",
     "      \x7b...props\x7d",
     "    >",
     "      " ++ inner,
     "    </div>",
     "  );",
     "\x7d;",
     "",
     "export default " ++ name ++ ";",
     ""]

/-- The source of the component of a sheet with this line of classes. -/
def ofSheet (sheet : StyleSheet) (classes : Text) : Text :=
  source sheet.componentName classes (Roles.ofRules sheet.rules).innerMarkup

end Component

end DesignExport
