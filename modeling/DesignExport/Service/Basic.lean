/-
# The conversion service

The service converts CSS and records submissions as jobs. Input is checked
before a job is made. What goes wrong afterwards is recorded on the job, which
ends completed with a component or failed with a message.

The service is given how a text is read, which may keep a state of its own and
may fail, and where identifiers and times come from. A text is read with replacement
characters for the halves of characters in it, but recorded with the halves.

Not everything can be recorded. The input of a job may have no written form, and the
message of a problem may be no text. Then the service itself fails: in the first case
before there is a job, in the second one with a job that has not ended.
-/

import DesignExport.Fault.Problem
import DesignExport.Input.CssText
import DesignExport.Input.Sanitizer
import DesignExport.Service.Conversion
import DesignExport.Store.Operation

namespace DesignExport

/-- What a service works with: the greatest length of CSS text, the reading of a
text with a state `σ` and whether it encodes the text, the problem of a store
that takes no components, and the identifiers and times in the order in which
they are drawn, counted from one. -/
structure Service (σ : Type) where
  limit : Int := CssText.defaultLimit
  readSheet : Text → σ → Except Problem StyleSheet × σ
  encodes : Bool := false
  refusal : Option Problem := none
  idOf : Nat → Text
  timeOf : Nat → Text

/-- What a service has reached: the store, the state of the reader, how many
identifiers and times were drawn, and the operations on the store so far. -/
structure ServiceState (σ : Type) where
  store : Store := .empty
  reader : σ
  ids : Nat := 0
  times : Nat := 0
  performed : List StoreOperation := []

/-- An action of a service; its effects remain when it ends with a problem. -/
abbrev ServiceAction (σ α : Type) := ExceptT Problem (StateM (ServiceState σ)) α

namespace Service

variable {σ : Type} (service : Service σ)

/-- Draw the next identifier. -/
def newId : ServiceAction σ Text := do
  let state ← get
  set { state with ids := state.ids + 1 }
  pure (service.idOf (state.ids + 1))

/-- Draw the next time. -/
def now : ServiceAction σ Text := do
  let state ← get
  set { state with times := state.times + 1 }
  pure (service.timeOf (state.times + 1))

/-- The problem of an operation that never reaches the store. Beside the input of a job,
everything that a service records are texts and counts, which have a written form. -/
def refusalOf : StoreOperation → Option Problem
  | .createJob job =>
    match job.input.checkWritten with
    | .ok () => none
    | .error error => some (.ofWriteError error)
  | .createComponent _ => service.refusal
  | _ => none

/-- The answer of the store to an operation. -/
def perform (operation : StoreOperation) : ServiceAction σ StoreAnswer := do
  if let some problem := service.refusalOf operation then throw problem
  let state ← get
  let answer := state.store.run operation
  set { state with store := answer.2, performed := state.performed ++ [operation] }
  match answer.1 with
  | .ok found => pure found
  | .error error => throw (.store error)

/-- An operation on the store whose answer holds nothing. -/
def record (operation : StoreOperation) : ServiceAction σ Unit := do
  let _ ← service.perform operation

/-- The checked text of CSS input. -/
def checked (css : Json) : ServiceAction σ Text :=
  match CssText.check service.limit css with
  | .ok text => pure text
  | .error refusal => throw (.fault refusal.fault)

/-- The sheet of a text. -/
def read (text : Text) : ServiceAction σ StyleSheet := do
  let state ← get
  let answer := service.readSheet text state.reader
  set { state with reader := answer.2 }
  match answer.1 with
  | .ok sheet => pure sheet
  | .error problem => throw problem

/-- The text of CSS input that is read: checked, and without injection vectors. -/
def readableText (css : Json) : Except CssRefusal Text :=
  (CssText.check service.limit css).map Sanitizer.sanitize

/-- The problem of a text in which halves of characters are left where texts are encoded. -/
def encodingProblem : Json → Option Problem
  | .broken codes =>
    match Text.Charset.check .utf8 (Sanitizer.sanitizeCodes codes) with
    | .ok () => none
    | .error error =>
      if service.encodes then some (.ofCharsetError error) else none
  | _ => none

/-- The conversion of CSS input. -/
def convert (css : Json) : ServiceAction σ Conversion := do
  let text ← service.checked css
  if let some problem := service.encodingProblem css then throw problem
  let sheet ← service.read (Sanitizer.sanitize text)
  pure (Conversion.ofSheet sheet)

/-- The component that a job has made from CSS input. -/
def componentOf (jobId : Text) (css : Json) (id extractedAt createdAt : Text)
    (conversion : Conversion) : ComponentRecord :=
  { id := id
    name := conversion.sheet.componentName
    jobId := jobId
    sourceData := (Json.object [("cssCode", css)]).joined
    generatedCode := .object conversion.code.members
    designTokens := conversion.tokens
    metadata :=
      .object
        [("extractedAt", .text extractedAt),
         ("cssRulesCount", .int conversion.sheet.rules.length)]
    createdAt := createdAt }

/-- The output of a job that has made a component. -/
def outputOf (component : ComponentRecord) (conversion : Conversion) : Json :=
  .object
    [("componentId", .text component.id),
     ("componentName", .text component.name),
     ("stats", conversion.stats),
     ("generatedCode", component.generatedCode)]

/-- Convert the CSS input of a job, and record the component and the end of the job. -/
def process (jobId : Text) (css : Json) : ServiceAction σ Unit := do
  service.record (.updateProgress jobId 30)
  let conversion ← service.convert css
  service.record (.updateProgress jobId 70)
  let id ← service.newId
  let extractedAt ← service.now
  let createdAt ← service.now
  let component := componentOf jobId css id extractedAt createdAt conversion
  service.record (.createComponent component)
  let completedAt ← service.now
  service.record (.completeJob jobId (outputOf component conversion) completedAt)

/-- The text of codes; codes that no character stands for are a problem. -/
def encoded (codes : List Nat) : ServiceAction σ Text :=
  match Text.ofCodes codes with
  | .ok text => pure text
  | .error error => throw (.ofCharsetError error)

/-- Record a problem as the end of a job. This is a problem of its own where the message is
no text. -/
def recordFailure (jobId : Text) (problem : Problem) : ServiceAction σ Unit := do
  let completedAt ← service.now
  let message ← encoded problem.record
  service.record (.failJob jobId message completedAt)

/-- What was submitted, as it is to be recorded. -/
def inputOf (css options : Json) : Json :=
  .object [("cssCode", css), ("options", if options.isFalsy then .object [] else options)]

/-- The job of a submission before anything is done for it. Its input is kept in written
form, so it is the input that is read back. -/
def jobOf (id : Text) (css options : Json) (user : Int) (createdAt : Text) : Job :=
  { id := id
    status := .processing
    input := (inputOf css options).joined
    userId := user
    createdAt := createdAt }

/-- The stored form of a job. -/
def stored (job : Job) : ServiceAction σ Job := do
  match ← service.perform (.getJob job.id) with
  | .job (some found) => pure found
  | _ => pure job

/-- Make a job for CSS input and bring it to its end. -/
def submit (css options : Json) (user : Int) : ServiceAction σ Job := do
  let _ ← service.checked css
  let id ← service.newId
  let createdAt ← service.now
  let job := jobOf id css options user createdAt
  service.record (.createJob job)
  tryCatch (service.process id css) (service.recordFailure id)
  service.stored job

end Service

end DesignExport
