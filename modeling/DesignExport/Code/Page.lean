/-
# A page of its own

The page shows the outline of a sheet with the written sheet as its style. A
sheet without an outline shows a placeholder.
-/

import DesignExport.Sheet.Outline
import DesignExport.Text.Lowercase

namespace DesignExport.Page

/-- What a page shows when there is no outline. -/
def placeholder : Text := "<div class=\"figma-content\">Figma component content</div>"

/-- The page with this title, style and body. -/
def frame (name css body : Text) : Text :=
  Text.lines
    ["<!DOCTYPE html>",
     "<html lang=\"en\">",
     "<head>",
     "    <meta charset=\"UTF-8\">",
     "    <meta name=\"viewport\" content=\"width=device-width, initial-scale=1.0\">",
     "    <title>" ++ name ++ "</title>",
     "    <style>",
     css,
     "    </style>",
     "</head>",
     "<body>",
     "    <div class=\"" ++ Text.lower name ++ "\">",
     "        " ++ body,
     "    </div>",
     "</body>",
     "</html>",
     ""]

/-- The page of a sheet with this style. -/
def ofSheet (sheet : StyleSheet) (css : Text) : Text :=
  frame sheet.componentName css (Text.orElse (Outline.render sheet.outline) placeholder)

end DesignExport.Page
