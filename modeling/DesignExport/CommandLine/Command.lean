/-
# Commands

Four commands: write or print the generated code of a file, print a report on
a file, list a design file of the service, and serve the API. Arguments are
checked before a command does anything: options in the order in which they
came, then operands.
-/

import DesignExport.CommandLine.Artifact
import DesignExport.CommandLine.Report
import DesignExport.CommandLine.Session
import DesignExport.Figma.Token
import DesignExport.Input.CssText
import DesignExport.Input.Sanitizer
import DesignExport.Settings
import DesignExport.Sheet.Reading
import DesignExport.Text.Newline

namespace DesignExport.CommandLine

/-- The option that shows how a command is used. -/
def helpFlag : Flag := ⟨"--help", "help", .means "on"⟩

/-- The usage of the program. -/
def programUsage : Usage :=
  { path := "cli"
    pattern := "[OPTIONS] COMMAND [ARGS]..."
    flags :=
      [⟨"-v", "verbose", .means "on"⟩, ⟨"--verbose", "verbose", .means "on"⟩,
       ⟨"--version", "version", .means "on"⟩, helpFlag] }

/-- The line that tells the version. -/
def versionLine : Text := "figma-converter, version 0.1.0"

/-- The name of the operand that is a file. -/
def fileOperand : Text := "CSSFILE"

/-- The name of the operand that is a URL. -/
def urlOperand : Text := "URL"

/-- The usage of the command that generates code. -/
def convertUsage : Usage :=
  { path := "cli convert"
    pattern := "[OPTIONS] " ++ fileOperand
    flags :=
      [⟨"--format", "--format", .takesValue⟩, ⟨"--out-dir", "--out-dir", .takesValue⟩, helpFlag] }

/-- The usage of the command that reports on a file. -/
def inspectUsage : Usage :=
  { path := "cli inspect", pattern := "[OPTIONS] " ++ fileOperand, flags := [helpFlag] }

/-- The usage of the command that lists a design file. -/
def fetchUsage : Usage :=
  { path := "cli fetch"
    pattern := "[OPTIONS] " ++ urlOperand
    flags := [⟨"--token", "--token", .takesValue⟩, ⟨"--raw", "--raw", .means "on"⟩, helpFlag] }

/-- The usage of the command that serves the API. -/
def serveUsage : Usage :=
  { path := "cli serve"
    pattern := "[OPTIONS]"
    flags :=
      [⟨"--host", "--host", .takesValue⟩, ⟨"--port", "--port", .takesValue⟩,
       ⟨"--db", "--db", .takesValue⟩, ⟨"--debug", "--debug", .means "on"⟩,
       ⟨"--no-debug", "--debug", .means "off"⟩, helpFlag] }

namespace Command

/-- The checks of one option's value. -/
def checkSetting (folder : Folder) (usage : Usage) (setting : Text × Text) : Session Unit := do
  let (key, value) := setting
  if key == "--format" then
    if (Artifact.chosen? value).isNone then
      Session.misuse usage (.notAChoice key value Artifact.choices)
  else if key == "--out-dir" then
    match ← Session.look folder value with
    | .file _ => Session.misuse usage (.fileForFolder key value)
    | _ => pure ()
  else if key == "--port" then
    match Numeral.readInt value with
    | .ok _ => pure ()
    | .error _ => Session.misuse usage (.notAnInteger key value)

/-- Nothing more than what is used may be given. -/
def checkExtra (usage : Usage) (operands : List Text) : Session Unit :=
  if operands.isEmpty then pure () else Session.misuse usage (.extraOperands operands)

/-- The only operand, after `check`. -/
def onlyOperand {α : Type} (usage : Usage) (name : Text) (check : Text → Session α) :
    List Text → Session α
  | [] => Session.misuse usage (.missingOperand name)
  | operand :: more => do
    let value ← check operand
    checkExtra usage more
    pure value

/-- The bytes of the file that the only operand names. -/
def fileBytes (folder : Folder) (usage : Usage) (operands : List Text) : Session (List UInt8) :=
  onlyOperand usage fileOperand
    (fun path => do
      match ← Session.look folder path with
      | .file bytes => pure bytes
      | .folder => Session.misuse usage (.folderForFile fileOperand path)
      | .nothing => Session.misuse usage (.noSuchFile fileOperand path))
    operands

/-- The arguments of a command, with the values of its options checked. A
question for the usage is answered at once. -/
def arguments (folder : Folder) (usage : Usage) (given : List Text) : Session Arguments := do
  let read ← Session.orExplain usage (Arguments.read usage true given)
  if (read.get? "help").isSome then
    Session.print usage.line
    throw (.exit 0)
  read.final.forM (checkSetting folder usage)
  pure read

/-- The sheet that the bytes of a file describe. -/
def readSheet (bytes : List UInt8) : Session StyleSheet := do
  let text ← Session.orCrash .encoding (Text.decodeUtf8 bytes)
  match CssText.checkText CssText.defaultLimit (Text.unifyLines text) with
  | .ok usable => pure (StyleSheet.ofText (Sanitizer.sanitize usable))
  | .error refusal => Session.refuse ["Invalid CSS: " ++ refusal.fault.messageText]

/-- Print artifacts, each under its name when there are several. -/
def printArtifacts (code : GeneratedCode) (chosen : List Artifact) : Session Unit :=
  chosen.forM fun artifact => do
    if 1 < chosen.length then
      Session.print ("=== " ++ artifact.name ++ " ===")
    Session.print (artifact.of code)

/-- Write artifacts to a folder, one file each, named for the component. -/
def writeArtifacts (folder : Folder) (target : Path) (name : Text) (code : GeneratedCode)
    (chosen : List Artifact) : Session Unit := do
  let folder ← Session.orCrash .entry (folder.makeFolder target)
  chosen.forM fun artifact => do
    let path := target.child (name ++ artifact.ending)
    let place ← Session.orCrash .entry (folder.placeForFile path)
    Session.emit (.write place (artifact.of code))
    Session.print ("Wrote " ++ path.text)

/-- Generate code from a file. -/
def convert (world : World) (given : List Text) : Session Unit := do
  let read ← arguments world.folder convertUsage given
  let bytes ← fileBytes world.folder convertUsage read.operands
  let sheet ← readSheet bytes
  let code := GeneratedCode.ofSheet sheet
  let chosen := (Artifact.chosen? ((read.get? "--format").getD Artifact.everything)).getD []
  match read.get? "--out-dir" with
  | none => printArtifacts code chosen
  | some target =>
    writeArtifacts world.folder (Path.ofText target) sheet.componentName code chosen

/-- Report on a file. -/
def inspect (world : World) (given : List Text) : Session Unit := do
  let read ← arguments world.folder inspectUsage given
  let bytes ← fileBytes world.folder inspectUsage read.operands
  let sheet ← readSheet bytes
  (Report.ofSheet sheet).forM Session.print

/-- The document that the service at a URL holds. A fault ends the command with
its code, its message and its advice. -/
def fetchDocument (world : World) (base token fileId : Text) : Session Json := do
  let client ← Session.orCrash (fun error => .fetch (.request error))
    (Figma.Client.connect base token)
  let request ← Session.orCrash (fun error => .fetch (.request error)) (client.request fileId)
  Session.emit (.request request)
  match request.documentOf fileId (world.reply request) with
  | .ok document => pure document
  | .error (.fault fault) =>
    Session.refuse ["Error [" ++ fault.code ++ "]: " ++ fault.messageText, fault.userAction]
  | .error error => throw (.crash (.fetch error))

/-- List a design file, or print its document. -/
def fetch (world : World) (given : List Text) : Session Unit := do
  let read ← arguments world.folder fetchUsage given
  let url ← onlyOperand fetchUsage urlOperand pure read.operands
  let token := (read.get? "--token").getD
    ((Keyed.get? ("FIGMA_TOKEN" : Text) world.environment).getD [])
  let isFile ← Session.orCrash .address (Url.validate url)
  if !isFile then Session.refuse ["Not a Figma file URL: " ++ url]
  if !AccessToken.isValid token then
    Session.refuse ["A Figma token starting with 'figd_' is required"]
  let fileId ← Session.orCrash .address (Url.extractFileId url)
  let settings ← Session.orCrash .setting (Settings.ofEnvironment world.environment)
  Session.emit (.connect settings.figmaApiBase settings.figmaTimeout)
  let named := fileId.getD "None"
  let document ← fetchDocument world settings.figmaApiBase token named
  if (read.get? "--raw").isSome then Session.print (document.indent 0)
  else
    let listed := Figma.listing named document
    listed.1.forM Session.print
    match listed.2 with
    | some error => throw (.crash (.document error))
    | none => pure ()

/-- The name of a store that is kept in memory alone. -/
def memoryStore : Text := ":memory:"

/-- How the file of a store begins. -/
def storeMark : Text := "SQLite format 3\x00"

/-- The sizes that the pages of a store may have, as the first bytes of the number. -/
def pageSizes : List (List UInt8) :=
  [[2, 0], [4, 0], [8, 0], [16, 0], [32, 0], [64, 0], [128, 0], [0, 1]]

/-- Whether bytes are the file of a store: none at all, or a header with the
mark, a size of pages, versions that can be read, and three fixed shares. -/
def isStoreFile (bytes : List UInt8) : Bool :=
  bytes.isEmpty ||
    ((Text.utf8 storeMark).isPrefixOf bytes && pageSizes.contains ((bytes.drop 16).take 2) &&
      ((bytes.drop 19).take 1).all (fun version => decide (version ≤ 2)) &&
      (bytes.drop 21).take 3 == [64, 32, 32])

/-- The place of the file of a store. Steps upwards only undo the segment before
them, and folders that are passed through need not be there; but no file is
passed through, and no segment is too long for a name. -/
def storePlace? (folder : Folder) (place : List Text) : List Text → Option (List Text)
  | [] => some place
  | segment :: rest =>
    if segment == Folder.upwards then storePlace? folder (Folder.above place) rest
    else if folder.found place matches .file _ then none
    else if Folder.longestName < Folder.byteCount segment then none
    else storePlace? folder (place ++ [segment]) rest

/-- What is added to the name of a store's file while it is changed. -/
def changeMark : Text := "-journal"

/-- Whether a store can be changed whose file has this name. -/
def isChangeable (place : List Text) : Bool :=
  decide (Folder.byteCount (place.getLast?.getD [] ++ changeMark) ≤ Folder.longestName)

/-- Open the file of a store at a place. A new file stays empty if its name is
too long for the store to be changed. -/
def openStoreAt (folder : Folder) (place : List Text) : Session Unit := do
  if folder.found place.dropLast != .folder then throw (.crash (.store .cannotOpen))
  match folder.found place with
  | .folder => throw (.crash (.store .cannotOpen))
  | .file bytes => if !isStoreFile bytes then throw (.crash (.store .notAStore))
  | .nothing => if !isChangeable place then Session.emit (.write place [])
  if !isChangeable place then throw (.crash (.store .cannotOpen))
  Session.emit (.makeStore place)

/-- Open a store, which has no file when it is kept in memory. -/
def openStore (folder : Folder) (text : Text) : Session Unit := do
  if text.isEmpty || text == memoryStore then return
  Session.checkPath text
  let path := Path.ofText text
  match storePlace? folder (Folder.start path.rooted) path.segments with
  | none => throw (.crash (.store .cannotOpen))
  | some place => openStoreAt folder place

/-- Serve the API. Options that are empty or zero leave the settings as they are. -/
def serve (world : World) (given : List Text) : Session Unit := do
  let read ← arguments world.folder serveUsage given
  checkExtra serveUsage read.operands
  let settings ← Session.orCrash .setting (Settings.ofEnvironment world.environment)
  let port := ((read.get? "--port").bind fun value => (Numeral.readInt value).toOption).getD 0
  let server : Server :=
    { host := Text.orElse ((read.get? "--host").getD []) settings.host
      port := if port = 0 then settings.port else port
      debug := read.get? "--debug" == some "on" }
  openStore world.folder (Text.orElse ((read.get? "--db").getD []) settings.dbPath)
  Session.print ("Starting Figma Converter on " ++ server.host ++ ":" ++ Text.ofInt server.port)
  Session.emit (.serve server)

/-- The commands by their names. -/
def table : Keyed Text (World → List Text → Session Unit) :=
  [("convert", convert), ("fetch", fetch), ("inspect", inspect), ("serve", serve)]

/-- The line that answers an option which asks something of the program. -/
def answerOf? (setting : Text × Text) : Option Text :=
  if setting.1 == "help" then some programUsage.line
  else if setting.1 == "version" then some versionLine
  else none

/-- The operands behind the options of the program. An option that asks
something is answered, and the program ends. -/
def programOperands (given : List Text) : Session (List Text) := do
  let read ← Session.orExplain programUsage (Arguments.read programUsage false given)
  match read.final.findSome? answerOf? with
  | some line =>
    Session.print line
    throw (.exit 0)
  | none => pure read.operands

/-- Refuse a command that there is not. A name that looks like an option is read
as one first. -/
def refuseName (name : Text) (rest : List Text) : Session Unit := do
  if name.head? == some '-' then
    let _ ← programOperands (name :: rest)
  Session.misuse programUsage (.noSuchCommand name (Text.closeWords name (table.map Prod.fst)))

/-- The program: options of its own, then a command with its arguments. -/
def program (world : World) (given : List Text) : Session Unit := do
  match ← programOperands given with
  | [] => Session.misuse programUsage .missingCommand
  | name :: rest =>
    match Keyed.get? name table with
    | some command => command world rest
    | none => refuseName name rest

/-- The run of the program in a world. -/
def run (world : World) (given : List Text) : Run := Session.run (program world given)

end Command

end DesignExport.CommandLine
