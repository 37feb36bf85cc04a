/-
# Running a command

A command runs in a world of files, variables and a design service that
replies to requests. What it does is a list of effects, and it ends with an
exit code or breaks off.
-/

import DesignExport.CommandLine.Arguments
import DesignExport.CommandLine.Folder
import DesignExport.Figma.Client
import DesignExport.Figma.Document
import DesignExport.Figma.Url
import DesignExport.Text.Terminal

namespace DesignExport.CommandLine

/-- What a command finds when it runs. -/
structure World where
  folder : Folder := {}
  environment : Keyed Text Text := []
  reply : Figma.FileRequest → Figma.Reply

/-- Where a server listens, and whether it shows what goes wrong. -/
structure Server where
  host : Text
  port : Int
  debug : Bool
deriving DecidableEq

/-- What a command does. Lines go out without terminal codes. -/
inductive Effect where
  | print (line : Text)
  | complain (line : Text)
  | write (place : List Text) (content : Text)
  | makeStore (place : List Text)
  | connect (base : Text) (timeout : Binary64)
  | request (request : Figma.FileRequest)
  | serve (server : Server)

/-- Why a file cannot be the file of a store. -/
inductive StoreFileError where
  | cannotOpen
  | notAStore
deriving DecidableEq

/-- The message of an error. -/
def StoreFileError.message : StoreFileError → Text
  | cannotOpen => "unable to open database file"
  | notAStore => "file is not a database"

/-- Why a command breaks off. -/
inductive Crash where
  | setting (error : NumberError)
  | address (error : UrlError)
  | encoding (error : Text.Utf8Error)
  | entry (error : EntryError)
  | zeroInPath
  | fetch (error : Figma.FetchError)
  | document (error : Figma.DocumentError)
  | store (error : StoreFileError)

/-- The message with which a command breaks off. -/
def Crash.message : Crash → Text
  | setting error => error.message
  | address error => error.message
  | encoding error => error.message
  | entry error => error.message
  | zeroInPath => "embedded null byte"
  | fetch error => error.message
  | document error => error.message
  | store error => error.message

/-- How a command ends. -/
inductive Ending where
  | exit (code : Nat)
  | crash (reason : Crash)

/-- The exit code of an ending. -/
def Ending.code : Ending → Nat
  | exit code => code
  | crash _ => 1

/-- What a command did and how it ended. -/
structure Run where
  effects : List Effect
  ending : Ending

/-- A part of a command; what it did remains when it ends the command. -/
abbrev Session (α : Type) := ExceptT Ending (StateM (List Effect)) α

namespace Session

/-- Do something. -/
def emit (effect : Effect) : Session Unit := modify (· ++ [effect])

/-- Print a line. -/
def print (line : Text) : Session Unit := emit (.print (Text.withoutCodes line))

/-- Show a line of complaint. -/
def complain (line : Text) : Session Unit := emit (.complain (Text.withoutCodes line))

/-- Break off where there is an error. -/
def orCrash {ε α : Type} (crash : ε → Crash) : Except ε α → Session α
  | .ok value => pure value
  | .error error => throw (.crash (crash error))

/-- End with complaints. -/
def refuse {α : Type} (lines : List Text) : Session α := do
  lines.forM complain
  throw (.exit 1)

/-- End with an explanation of the usage. -/
def misuse {α : Type} (usage : Usage) (error : UsageError) : Session α := do
  complain (usage.explain error)
  throw (.exit 2)

/-- End with an explanation of the usage where arguments are refused. -/
def orExplain {α : Type} (usage : Usage) : Except UsageError α → Session α
  | .ok value => pure value
  | .error error => misuse usage error

/-- A path that can be looked up: it holds no zero character. -/
def checkPath (path : Text) : Session Unit :=
  if path.contains '\x00' then throw (.crash .zeroInPath) else pure ()

/-- What is found at the path that a text shows. -/
def look (folder : Folder) (path : Text) : Session Entry := do
  checkPath path
  pure (folder.entryAt path)

/-- The run of a command. -/
def run (session : Session Unit) : Run :=
  match (ExceptT.run session).run [] with
  | (.ok (), effects) => ⟨effects, .exit 0⟩
  | (.error ending, effects) => ⟨effects, ending⟩

end Session

end DesignExport.CommandLine
