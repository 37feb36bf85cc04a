/-
# Settings

Settings have defaults, and variables of the environment override them one by
one. A variable with a number that cannot be read is refused; of several, the
first in the order of the settings.
-/

import DesignExport.Keyed
import DesignExport.Number.Reading
import DesignExport.Number.Shortest
import DesignExport.Text.Lowercase

namespace DesignExport

/-- The settings of the converter. -/
structure Settings where
  dbPath : Text := "figma_converter.db"
  host : Text := "127.0.0.1"
  port : Int := 5000
  figmaApiBase : Text := "https://api.figma.com/v1"
  figmaTimeout : Binary64 := Binary64.ofDecimal false 30 0
  maxCssLength : Int := 500000
  enableParseCache : Bool := true
  parseCacheMaxEntries : Int := 256
  defaultUserId : Int := 1

namespace Settings

/-- How the name of every variable begins. -/
def variableMark : Text := "FIGMA_CONVERTER_"

/-- Words that switch a setting on. -/
def onWords : List Text := ["true", "1", "yes"]

/-- Whether the value of a variable switches a setting on, in any case. -/
def isOn (value : Text) : Bool := onWords.contains (Text.lower value)

/-- The value that a variable gives to a setting, or the default. -/
def override {α : Type} (environment : Keyed Text Text) (name : Text)
    (read : Text → Except NumberError α) (byDefault : α) : Except NumberError α :=
  match Keyed.get? (variableMark ++ name) environment with
  | none => .ok byDefault
  | some value => read value

/-- The settings that an environment gives. -/
def ofEnvironment (environment : Keyed Text Text) : Except NumberError Settings := do
  let defaults : Settings := {}
  let dbPath ← override environment "DB_PATH" .ok defaults.dbPath
  let host ← override environment "HOST" .ok defaults.host
  let port ← override environment "PORT" Numeral.readInt defaults.port
  let figmaApiBase ← override environment "FIGMA_API_BASE" .ok defaults.figmaApiBase
  let figmaTimeout ← override environment "FIGMA_TIMEOUT" Numeral.readFloat defaults.figmaTimeout
  let maxCssLength ← override environment "MAX_CSS_LENGTH" Numeral.readInt defaults.maxCssLength
  let enableParseCache ←
    override environment "ENABLE_PARSE_CACHE" (fun value => .ok (isOn value))
      defaults.enableParseCache
  let parseCacheMaxEntries ←
    override environment "PARSE_CACHE_MAX_ENTRIES" Numeral.readInt defaults.parseCacheMaxEntries
  let defaultUserId ← override environment "DEFAULT_USER_ID" Numeral.readInt defaults.defaultUserId
  pure
    { dbPath, host, port, figmaApiBase, figmaTimeout, maxCssLength, enableParseCache
      parseCacheMaxEntries, defaultUserId }

end Settings

end DesignExport
