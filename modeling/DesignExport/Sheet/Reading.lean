/-
# Reading a style sheet

Reading never fails: what no scan recognises is left out, and the least result
is an empty sheet with the default name. Rules from layers come before braced
rules. The scans for at-blocks, variables and the outline each go over the
whole text on their own.
-/

import DesignExport.Sheet.AtBlock
import DesignExport.Sheet.ComponentName
import DesignExport.Sheet.Layer
import DesignExport.Sheet.Outline
import DesignExport.Sheet.Token

namespace DesignExport

/-- The rule of a layer, unless the layer has no declarations. -/
def StyleRule.ofLayer? (layer : Layer) : Option StyleRule :=
  match Declaration.ofLayerBody layer.body with
  | [] => none
  | first :: more =>
    some
      { selector := '.' :: Layer.className layer.label
        declarations := first :: more
        layer := some layer.label }

/-- The rules of the layers of a text. -/
def StyleRule.ofLayers (text : Text) : List StyleRule :=
  (Layer.ofText text).filterMap StyleRule.ofLayer?

/-- The style sheet that a text describes. -/
def StyleSheet.ofText (text : Text) : StyleSheet :=
  let rules := StyleRule.ofLayers text ++ Selector.rules text
  { componentName := ComponentName.ofText text
    rules := rules
    mediaBlocks := AtBlock.mediaBlocks text
    animations := AtBlock.animations text
    customProperties := AtBlock.customProperties text
    layout := Layout.ofRules rules
    tokens := Token.ofRules rules
    outline := Outline.ofText text }

end DesignExport
