/-
# Generated code

All artifacts of a sheet. They depend on the sheet alone.
-/

import DesignExport.Code.Component
import DesignExport.Code.Css
import DesignExport.Code.Page
import DesignExport.Code.Utility

namespace DesignExport

/-- The artifacts made from one sheet. -/
structure GeneratedCode where
  jsx : Text
  css : Text
  html : Text
  classes : Text
  customStyles : List Text
deriving DecidableEq

/-- The artifacts of a sheet. -/
def GeneratedCode.ofSheet (sheet : StyleSheet) : GeneratedCode :=
  let utility := UtilityStyle.ofRules sheet.rules
  let css := Css.ofSheet sheet
  { jsx := Component.ofSheet sheet utility.mainClasses
    css := css
    html := Page.ofSheet sheet css
    classes := utility.mainClasses
    customStyles := utility.customStyles }

end DesignExport
