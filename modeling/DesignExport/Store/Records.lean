/-
# Records of jobs and components

A job records one submission from its start to its end. A component records
what a completed job has generated. Both have a form for users, in which empty
texts of some fields are shown as null.
-/

import DesignExport.Json.Basic
import DesignExport.UnknownName

namespace DesignExport

/-- The kinds of job. -/
inductive JobType where
  | cssProcessing
  | figmaExtraction
deriving DecidableEq

namespace JobType

/-- The word for a kind of job. -/
def name : JobType → Text
  | cssProcessing => "css_processing"
  | figmaExtraction => "figma_extraction"

/-- The kind of job of a word. -/
def ofName (word : Text) : Except UnknownName JobType :=
  match [cssProcessing, figmaExtraction].find? fun type => type.name == word with
  | some type => .ok type
  | none => .error ⟨"JobType", word⟩

end JobType

/-- The states of a job. -/
inductive JobStatus where
  | pending
  | processing
  | completed
  | failed
deriving DecidableEq

namespace JobStatus

/-- The word for a state. -/
def name : JobStatus → Text
  | pending => "pending"
  | processing => "processing"
  | completed => "completed"
  | failed => "failed"

/-- All states. -/
def all : List JobStatus := [pending, processing, completed, failed]

/-- The state of a word. -/
def ofName (word : Text) : Except UnknownName JobStatus :=
  match all.find? fun status => status.name == word with
  | some status => .ok status
  | none => .error ⟨"JobStatus", word⟩

end JobStatus

/-- The record of a submission. -/
structure Job where
  id : Text
  type : JobType := .cssProcessing
  status : JobStatus := .pending
  input : Json := .object []
  output : Json := .null
  errorMessage : Text := []
  progress : Int := 0
  userId : Int := 1
  createdAt : Text := []
  completedAt : Text := []

/-- A job as users see it. -/
def Job.toJson (job : Job) : Json :=
  .object
    [("id", .text job.id),
     ("type", .text job.type.name),
     ("status", .text job.status.name),
     ("inputData", job.input),
     ("outputData", job.output),
     ("errorMessage", .ofNonEmpty job.errorMessage),
     ("progressPercentage", .int job.progress),
     ("userId", .int job.userId),
     ("createdAt", .text job.createdAt),
     ("completedAt", .ofNonEmpty job.completedAt)]

/-- The record of a generated component. -/
structure ComponentRecord where
  id : Text
  name : Text
  jobId : Text
  sourceType : Text := "css_import"
  sourceData : Json := .object []
  generatedCode : Json := .object []
  designTokens : Json := .object []
  metadata : Json := .object []
  createdAt : Text := []

/-- A component as users see it. -/
def ComponentRecord.toJson (component : ComponentRecord) : Json :=
  .object
    [("id", .text component.id),
     ("name", .text component.name),
     ("jobId", .text component.jobId),
     ("sourceType", .text component.sourceType),
     ("sourceData", component.sourceData),
     ("generatedCode", component.generatedCode),
     ("designTokens", component.designTokens),
     ("metadata", component.metadata),
     ("createdAt", .text component.createdAt)]

end DesignExport
