/-
# Rows

A record is kept as a row of texts and integers. Words stand for the kind and the
state of a job, values are kept in their written form, and a job without output
has nothing in that column. A row is read back column by column.
-/

import DesignExport.Json.Writing
import DesignExport.Store.Records

namespace DesignExport

/-- A job as it is kept. -/
structure JobRow where
  id : Text
  type : Text
  status : Text
  input : Text
  output : Option Text
  errorMessage : Text
  progress : Int
  userId : Int
  createdAt : Text
  completedAt : Text
deriving DecidableEq

/-- A component as it is kept. -/
structure ComponentRow where
  id : Text
  name : Text
  jobId : Text
  sourceType : Text
  sourceData : Text
  generatedCode : Text
  designTokens : Text
  metadata : Text
  createdAt : Text
deriving DecidableEq

/-- Why a row is no record. -/
inductive RowError where
  | unknownName (error : UnknownName)
  | unreadable (error : Json.ReadError) (given : Text)
deriving DecidableEq

/-- The message of a refusal. -/
def RowError.message : RowError → Text
  | unknownName error => error.message
  | unreadable error given => error.message given

namespace Json

/-- The written form of a value; nothing for null. -/
def writtenOrNothing : Json → Except WriteError (Option Text)
  | null => .ok none
  | value => value.written.map some

/-- The value of a column. -/
def ofColumn (column : Text) : Except RowError Json :=
  (read column).mapError fun error => .unreadable error column

/-- The value of a column that may hold nothing. -/
def ofColumn? : Option Text → Except RowError Json
  | some column => ofColumn column
  | none => .ok null

end Json

/-- The row of a job. -/
def Job.row (job : Job) : Except Json.WriteError JobRow := do
  let input ← job.input.written
  let output ← job.output.writtenOrNothing
  pure
    { id := job.id
      type := job.type.name
      status := job.status.name
      input := input
      output := output
      errorMessage := job.errorMessage
      progress := job.progress
      userId := job.userId
      createdAt := job.createdAt
      completedAt := job.completedAt }

/-- The job of a row. -/
def JobRow.job (row : JobRow) : Except RowError Job := do
  let type ← (JobType.ofName row.type).mapError .unknownName
  let status ← (JobStatus.ofName row.status).mapError .unknownName
  let input ← Json.ofColumn row.input
  let output ← Json.ofColumn? row.output
  pure
    { id := row.id
      type := type
      status := status
      input := input
      output := output
      errorMessage := row.errorMessage
      progress := row.progress
      userId := row.userId
      createdAt := row.createdAt
      completedAt := row.completedAt }

/-- The row of a component. -/
def ComponentRecord.row (component : ComponentRecord) : Except Json.WriteError ComponentRow := do
  let sourceData ← component.sourceData.written
  let generatedCode ← component.generatedCode.written
  let designTokens ← component.designTokens.written
  let metadata ← component.metadata.written
  pure
    { id := component.id
      name := component.name
      jobId := component.jobId
      sourceType := component.sourceType
      sourceData := sourceData
      generatedCode := generatedCode
      designTokens := designTokens
      metadata := metadata
      createdAt := component.createdAt }

/-- The component of a row. -/
def ComponentRow.component (row : ComponentRow) : Except RowError ComponentRecord := do
  let sourceData ← Json.ofColumn row.sourceData
  let generatedCode ← Json.ofColumn row.generatedCode
  let designTokens ← Json.ofColumn row.designTokens
  let metadata ← Json.ofColumn row.metadata
  pure
    { id := row.id
      name := row.name
      jobId := row.jobId
      sourceType := row.sourceType
      sourceData := sourceData
      generatedCode := generatedCode
      designTokens := designTokens
      metadata := metadata
      createdAt := row.createdAt }

end DesignExport
