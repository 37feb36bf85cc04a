/-
# The web API

Style sheets are submitted or previewed, and jobs, components and counts are
looked up. A request is answered in the order: resource, method, body, user,
service.
-/

import DesignExport.Json.Printer
import DesignExport.Cache.ParseCache
import DesignExport.Service.Basic
import DesignExport.Settings
import DesignExport.Sheet.Reading
import DesignExport.Web.Request
import DesignExport.Web.Resource
import DesignExport.Web.Response

namespace DesignExport.Web

/-- What the API works with: a service, and the user of requests that name none. -/
structure App (σ : Type) where
  service : Service σ
  defaultUser : Int

/-- The refusal of a body that is no object. -/
def badBody : Fault :=
  Fault.make .validation "Request body must be a JSON object" { code := "VALIDATION_BAD_BODY" }

/-- The refusal of a user that is no integer. -/
def badUser (given : Json) : Fault :=
  Fault.make .validation ("userId must be an integer, got " ++ given.display)
    { code := "VALIDATION_BAD_USER_ID" }

/-- The object in the body; a missing body is an object without members. -/
def bodyObject (request : Request) : Except Problem Json :=
  match request.json with
  | .error error => .error (.ofText "RecursionError" (error.message []))
  | .ok .null => .ok (.object [])
  | .ok (.object members) => .ok (.object members)
  | .ok _ => .error (.fault badBody)

/-- The user that a body names. Numbers lose their fraction and texts are read. -/
def userOf (byDefault : Int) (body : Json) : Except Problem Int :=
  match body.memberOrNull "userId" with
  | .null => .ok byDefault
  | .bool value => .ok (if value then 1 else 0)
  | .int value => .ok value
  | .float .nan => .error (.fault (badUser (.float .nan)))
  | .float (.infinite _) =>
    .error (.ofText "OverflowError" "cannot convert float infinity to integer")
  | .float (.finite negative significand exponent) =>
    .ok (Binary64.truncate negative significand exponent)
  | .text value =>
    if value.isEmpty then .ok byDefault
    else match Numeral.readInt value with
      | .ok user => .ok user
      | .error _ => .error (.fault (badUser (.text value)))
  | given => .error (.fault (badUser given))

/-- The user that a query names; the default where none can be read. -/
def queriedUser (byDefault : Int) (request : Request) : Int :=
  match Keyed.get? ("userId" : Text) request.parameters with
  | none => byDefault
  | some value => (Numeral.readInt value).toOption.getD byDefault

/-- The greatest number of jobs in a list. -/
def listedJobs : Int := 10

/-- The counts of jobs by their state. -/
def countsJson (counts : Keyed JobStatus Nat) : Json :=
  .object
    [("jobs", .object (counts.map fun entry => (JobStatus.name entry.1, .int entry.2)))]

/-- The refusal of an identifier that nothing has. -/
def notFound (message : Text) : Response := .json 404 (.object [("error", .text message)])

/-- The response that shows a value which may have no written form: a job shows what was
submitted, which is nested deeper there than in the body that it came in. -/
def showValue (value : Json) : Except Problem Response :=
  match value.checkWritten with
  | .ok () => .ok (.json 200 value)
  | .error error => .error (.ofWriteError error)

/-- The response that shows an answer of the store. -/
def showAnswer : StoreAnswer → Except Problem Response
  | .done => .ok (.bare 200)
  | .job (some found) => showValue found.toJson
  | .job none => .ok (notFound "Job not found")
  | .jobs found => showValue (.array (found.map Job.toJson))
  | .component (some found) => .ok (.json 200 found.toJson)
  | .component none => .ok (notFound "Component not found")
  | .components found => .ok (.json 200 (.array (found.map ComponentRecord.toJson)))
  | .counts found => .ok (.json 200 (countsJson found))

namespace App

variable {σ : Type} (app : App σ)

/-- A value that was made outside the service, or the problem in its place. -/
def given {α : Type} (value : Except Problem α) : ServiceAction σ α :=
  match value with
  | .ok value => pure value
  | .error problem => throw problem

/-- Submit the style sheet in the body. -/
def submit (request : Request) : ServiceAction σ Response := do
  let body ← given (bodyObject request)
  let user ← given (userOf app.defaultUser body)
  let job ← app.service.submit (body.memberOrNull "cssCode") (body.memberOrNull "options") user
  pure (.json 202 (.object [("jobId", .text job.id), ("status", .text job.status.name)]))

/-- Convert the style sheet in the body and keep nothing. -/
def preview (request : Request) : ServiceAction σ Response := do
  let body ← given (bodyObject request)
  let conversion ← app.service.convert (body.memberOrNull "cssCode")
  pure (.json 200 conversion.toJson)

/-- The response that shows what the store answers. -/
def lookUp (operation : StoreOperation) : ServiceAction σ Response := do
  given (showAnswer (← app.service.perform operation))

/-- The response of a resource that is looked up or acted upon. -/
def visit (request : Request) : Resource → ServiceAction σ Response
  | .submission => app.submit request
  | .preview => app.preview request
  | .jobs => app.lookUp (.listByUser (queriedUser app.defaultUser request) listedJobs)
  | .job id => app.lookUp (.getJob id)
  | .component id => app.lookUp (.getComponent id)
  | .stats => app.lookUp .countByStatus
  | .file _ => pure { status := 404 }

/-- The response to a question about the methods of a resource. -/
def showMethods : Resource → Response
  | .submission | .preview => .bare 204
  | .file _ => { status := 200 }
  | _ => .bare 200

/-- The response of a resource to a method that it knows. -/
def respond (request : Request) (resource : Resource) (method : Option Method) :
    ServiceAction σ Response :=
  match method with
  | some .options => pure (showMethods resource)
  | some .head => do pure { ← app.visit request resource with body := none }
  | _ => app.visit request resource

/-- The response to a path that leads to no resource for the method: a
redirection if merging slashes helps, or else a refusal. -/
def strayResponse (path : Text) (method : Option Method) : Response :=
  match Resource.ofPath? path, Resource.ofPath? (Resource.mergeSlashes path) with
  | some _, _ => { status := 405 }
  | none, some resource => { status := if resource.knows method then 308 else 405 }
  | none, none => { status := 404 }

/-- The response to a request, and the service after it. -/
def handle (request : Request) (state : ServiceState σ) : Response × ServiceState σ :=
  let method := Method.ofName? request.method
  match (Resource.ofPath? request.path).filter fun resource => resource.knows method with
  | none => (strayResponse request.path method, state)
  | some resource =>
    match (app.respond request resource method).run state with
    | (.ok response, state) => (response, state)
    | (.error problem, state) =>
      let response := Response.ofProblem problem
      (if method == some .head then { response with body := none } else response, state)

/-- The responses to requests one after the other, and the service after them. -/
def handleAll (state : ServiceState σ) : List Request → List Response × ServiceState σ
  | [] => ([], state)
  | request :: rest =>
    let first := app.handle request state
    let others := handleAll first.2 rest
    (first.1 :: others.1, others.2)

end App

/-- How an app reads sheets under its settings: with a bounded memory, or with none. -/
def readerOf (settings : Settings) : Option CachingReader :=
  if settings.enableParseCache then some (.bounded (some settings.parseCacheMaxEntries)) else none

/-- The sheet of a text, read with the memory where there is one. -/
def readSheet (text : Text) : Option CachingReader →
    Except Problem StyleSheet × Option CachingReader
  | none => (.ok (StyleSheet.ofText text), none)
  | some reader =>
    let answer := reader.read (fun codes => .ofText (codes.map Text.charOfCode)) text.codes
    (answer.1, some answer.2)

namespace App

/-- The app under its settings. Where it has a memory, a text is encoded to find its key. -/
def ofSettings (settings : Settings) (idOf timeOf : Nat → Text) : App (Option CachingReader) :=
  { service :=
      { limit := settings.maxCssLength
        readSheet := readSheet
        encodes := settings.enableParseCache
        idOf := idOf
        timeOf := timeOf }
    defaultUser := settings.defaultUserId }

/-- What an app begins with under its settings: an empty store and an empty memory. -/
def start (settings : Settings) : ServiceState (Option CachingReader) :=
  { reader := readerOf settings }

end App

end DesignExport.Web
