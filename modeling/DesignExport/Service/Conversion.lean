/-
# Conversions

A conversion is a sheet together with the code that is generated from it. Its
form for users names the component, counts what was found, and holds the five
artifacts.
-/

import DesignExport.Code.Basic
import DesignExport.Json.Basic
import DesignExport.Text.Blank

namespace DesignExport

/-- The artifacts as members of an object. -/
def GeneratedCode.members (code : GeneratedCode) : List (Text × Json) :=
  [("jsx", .text code.jsx),
   ("css", .text code.css),
   ("html", .text code.html),
   ("tailwindClasses", .text code.classes),
   ("customStyles", .ofTexts code.customStyles)]

/-- A sheet together with everything that is generated from it. -/
structure Conversion where
  sheet : StyleSheet
  code : GeneratedCode
deriving DecidableEq

namespace Conversion

/-- The conversion of a sheet. -/
def ofSheet (sheet : StyleSheet) : Conversion := ⟨sheet, GeneratedCode.ofSheet sheet⟩

/-- The design tokens as an object. -/
def tokens (conversion : Conversion) : Json :=
  .object (conversion.sheet.tokens.map fun token => (token.1, .text token.2))

/-- How many things of each kind were found and made. -/
def stats (conversion : Conversion) : Json :=
  let sheet := conversion.sheet
  .object
    [("rules", .int sheet.rules.length),
     ("declarations", .int sheet.declarationCount),
     ("animations", .int sheet.animations.length),
     ("responsiveRules", .int sheet.mediaBlocks.length),
     ("customProperties", .int sheet.customProperties.length),
     ("layoutType", .text sheet.layout.name),
     ("tailwindClassCount", .int (Text.words conversion.code.classes).length),
     ("customStyleCount", .int conversion.code.customStyles.length)]

/-- What is told about the sheet, as members of an object. -/
def overview (conversion : Conversion) : List (Text × Json) :=
  [("componentName", .text conversion.sheet.componentName),
   ("layoutType", .text conversion.sheet.layout.name),
   ("designTokens", conversion.tokens),
   ("stats", conversion.stats)]

/-- A conversion as users see it. -/
def toJson (conversion : Conversion) : Json :=
  .object (conversion.overview ++ conversion.code.members)

end Conversion

end DesignExport
