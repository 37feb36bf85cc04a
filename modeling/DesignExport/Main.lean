/-
# The program

The outer layer: what the command may need is looked up first, the run is
computed, and its effects are carried out in order. The design service is out
of reach here, so that every request ends with a failed connection, and a
server that is to start is only announced.
-/

import DesignExport.CommandLine.Command

namespace DesignExport.CommandLine

/-- The variables that a command may look at. -/
def variableNames : List Text :=
  "FIGMA_TOKEN" ::
    (["DB_PATH", "HOST", "PORT", "FIGMA_API_BASE", "FIGMA_TIMEOUT", "MAX_CSS_LENGTH",
      "ENABLE_PARSE_CACHE", "PARSE_CACHE_MAX_ENTRIES", "DEFAULT_USER_ID"] : List Text).map
      (Settings.variableMark ++ ·)

/-- The variables that are set. -/
def environment : IO (Keyed Text Text) :=
  variableNames.filterMapM fun name => do
    let value ← IO.getEnv (String.ofList name)
    pure (value.map fun value => (name, value.toList))

/-- The texts among arguments that may show a path. -/
def pathTexts (arguments : List Text) : List Text :=
  arguments ++ arguments.filterMap fun argument => (Text.cut '=' argument).2

/-- A place as text. -/
def placeText (place : List Text) : String :=
  let path : Path := match place with
    | [] => {}
    | first :: rest =>
      if first == Folder.root then { rooted := true, segments := rest } else { segments := place }
  String.ofList path.text

/-- What is found at a place. -/
def look (place : List Text) : IO Entry := do
  try
    let bytes ← IO.FS.readBinFile (placeText place)
    pure (.file bytes.toList)
  catch
    | .noFileOrDirectory .. => pure .nothing
    | .inappropriateType .. => pure .folder
    | _ => pure .nothing

/-- A folder with what is found at a place. -/
def addFound (folder : Folder) (place : List Text) : IO Folder := do
  match ← look place with
  | .nothing => pure folder
  | .folder => pure { folder with folders := place :: folder.folders }
  | .file bytes => pure { folder with files := Keyed.put place bytes folder.files }

/-- The places that a path passes, the last one included. -/
def placesOf (text : Text) : List (List Text) :=
  let path := Path.ofText text
  path.steps.map fun step =>
    step.segments.foldl Folder.next (Folder.start step.rooted)

/-- The part of the file system that arguments and settings point to. -/
def folderOf (texts : List Text) : IO Folder :=
  (texts.flatMap placesOf).foldlM addFound {}

/-- No request finds its way. -/
def noReply (_ : Figma.FileRequest) : Figma.Reply :=
  .failure .disconnected "ConnectError" "no connection"

/-- Carry out an effect. -/
def carryOut : Effect → IO Unit
  | .print line => IO.println (String.ofList line)
  | .complain line => IO.eprintln (String.ofList line)
  | .write place content => do
    IO.FS.createDirAll (placeText place.dropLast)
    IO.FS.writeFile (placeText place) (String.ofList content)
  | .makeStore place => do
    if (← look place) == .nothing then IO.FS.writeFile (placeText place) ""
  | .connect _ _ | .request _ | .serve _ => pure ()

end DesignExport.CommandLine

open DesignExport DesignExport.CommandLine in
/-- Run the program with the arguments of the process. -/
def main (arguments : List String) : IO UInt32 := do
  let given := arguments.map String.toList
  let found ← environment
  let defaults : Settings := {}
  let stores := [defaults.dbPath] ++ found.map Prod.snd
  let folder ← folderOf (pathTexts given ++ stores)
  let run := Command.run { folder := folder, environment := found, reply := noReply } given
  run.effects.forM carryOut
  match run.ending with
  | .exit code => pure code.toUInt32
  | .crash reason => do
    IO.eprintln (String.ofList reason.message)
    pure 1
