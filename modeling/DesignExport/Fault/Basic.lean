/-
# Faults

A fault is a failure that the user is told about: a message, a code for
programs, and advice. Code and advice follow from the category unless they are
given.
-/

import DesignExport.Fault.Category
import DesignExport.Json.Basic

namespace DesignExport

/-- The kinds of fault. The general kind counts as a fault of processing. -/
inductive FaultKind where
  | general
  | validation
  | network
  | figmaApi
  | processing
deriving DecidableEq

/-- The category of a kind of fault. -/
def FaultKind.category : FaultKind → Category
  | general => .processing
  | validation => .validation
  | network => .network
  | figmaApi => .figmaApi
  | processing => .processing

/-- A failure that the user is told about. Its message is given by codes, among which there
may be halves of characters. -/
structure Fault where
  kind : FaultKind
  message : List Nat
  code : Text
  status : Option Int
  recoverable : Bool
  userAction : Text
  context : List (Text × Json)
  /-- The kind of problem that led to this fault. -/
  cause : Option Text

/-- What can be given for a fault in place of what follows from its category. -/
structure FaultDetails where
  code : Text := []
  status : Option Int := none
  recoverable : Option Bool := none
  userAction : Text := []
  context : List (Text × Json) := []
  cause : Option Text := none

namespace Fault

/-- The category of a fault. -/
def category (fault : Fault) : Category := fault.kind.category

/-- The code of a fault for which none is given. -/
def defaultCode (category : Category) : Text := category.name.map Char.toUpper ++ "_ERROR"

/-- A fault of a kind, with what is given and what follows from the category. -/
def make (kind : FaultKind) (message : Text) (details : FaultDetails := {}) : Fault :=
  let category := kind.category
  { kind := kind
    message := message.codes
    code := Text.orElse details.code (defaultCode category)
    status := details.status
    recoverable := details.recoverable.getD (category.isRecoverable details.status)
    userAction := Text.orElse details.userAction (category.userAction details.status)
    context := details.context
    cause := details.cause }

theorem kind_make (kind : FaultKind) (message : Text) (details : FaultDetails) :
    (make kind message details).kind = kind := rfl

theorem status_make (kind : FaultKind) (message : Text) (details : FaultDetails) :
    (make kind message details).status = details.status := rfl

theorem cause_make (kind : FaultKind) (message : Text) (details : FaultDetails) :
    (make kind message details).cause = details.cause := rfl

/-- The message as a text, in which halves of characters read as replacement characters. -/
def messageText (fault : Fault) : Text := fault.message.map Text.charOfCode

/-- A fault as the user sees it. -/
def summary (fault : Fault) : Json :=
  .object
    [("error", .ofCodes fault.message),
     ("code", .text fault.code),
     ("category", .text fault.category.name),
     ("recoverable", .bool fault.recoverable),
     ("userAction", .text fault.userAction)]

/-- The fault of an answer of the design service that is no success. The four
known statuses have texts of their own. The detail is kept as context. -/
def ofFigmaStatus (status : Int) (detail : Text) : Fault :=
  let details : FaultDetails :=
    { status := some status
      context := if detail.isEmpty then [] else [("detail", .text detail)] }
  if status = 401 then
    make .figmaApi "Invalid or expired Figma access token"
      { details with
        code := "FIGMA_UNAUTHORIZED"
        recoverable := some false
        userAction := "Please update your Figma access token in Settings" }
  else if status = 403 then
    make .figmaApi "Access denied to Figma file"
      { details with
        code := "FIGMA_FORBIDDEN"
        recoverable := some false
        userAction := "Check file permissions or verify the file URL" }
  else if status = 404 then
    make .figmaApi "Figma file not found"
      { details with
        code := "FIGMA_NOT_FOUND"
        recoverable := some false
        userAction := "Verify the Figma file URL is correct" }
  else if status = 429 then
    make .figmaApi "Figma API rate limit exceeded"
      { details with
        code := "FIGMA_RATE_LIMIT"
        recoverable := some true
        userAction := "Please wait a moment before trying again" }
  else
    make .figmaApi ("Figma API error: " ++ Text.ofInt status)
      { details with
        code := "FIGMA_API_ERROR"
        recoverable := some true
        userAction := "Please try again in a few moments" }

end Fault

end DesignExport
