/-
# The store

The store keeps jobs and components in two tables, in the order in which their
rows came. Identifiers are unique in their table, and a component belongs to a
stored job. Integers have 64 bits. A store that is connected anew is empty and
has no tables until they are made.
-/

import DesignExport.Store.Error
import DesignExport.Store.Records

namespace DesignExport

/-- The rows of the two tables, oldest first. -/
structure Tables where
  jobs : List Job := []
  components : List ComponentRecord := []

/-- A store without a connection, one without tables, or one with its tables. -/
inductive Store where
  | closed
  | bare
  | ready (tables : Tables)

namespace Tables

/-- The least integer of a column. -/
def leastInteger : Int := -0x8000000000000000

/-- The greatest integer of a column. -/
def greatestInteger : Int := 0x7FFFFFFFFFFFFFFF

/-- Whether an integer fits a column. -/
def fits (i : Int) : Bool := decide (leastInteger ≤ i) && decide (i ≤ greatestInteger)

/-- The job with an identifier. -/
def job? (id : Text) (tables : Tables) : Option Job :=
  tables.jobs.find? fun job => job.id == id

/-- The component with an identifier. -/
def component? (id : Text) (tables : Tables) : Option ComponentRecord :=
  tables.components.find? fun component => component.id == id

/-- Add a job. -/
def addJob (job : Job) (tables : Tables) : Except StoreError Tables :=
  if !(fits job.progress && fits job.userId) then .error .integerTooLarge
  else if (tables.job? job.id).isSome then .error (.duplicateId .jobs)
  else .ok { tables with jobs := tables.jobs ++ [job] }

/-- Change the job with an identifier, if there is one. -/
def changeJob (id : Text) (change : Job → Job) (tables : Tables) : Tables :=
  { tables with jobs := tables.jobs.map fun job => if job.id == id then change job else job }

/-- Record how far a job has come. -/
def setProgress (id : Text) (progress : Int) (tables : Tables) : Except StoreError Tables :=
  if fits progress then .ok (tables.changeJob id fun job => { job with progress := progress })
  else .error .integerTooLarge

/-- Record the end of a job with its output. -/
def completeJob (id : Text) (output : Json) (time : Text) (tables : Tables) : Tables :=
  tables.changeJob id fun job =>
    { job with status := .completed, progress := 100, output := output, completedAt := time }

/-- Record the failure of a job. -/
def failJob (id message time : Text) (tables : Tables) : Tables :=
  tables.changeJob id fun job =>
    { job with status := .failed, progress := 100, errorMessage := message, completedAt := time }

/-- The jobs of a user, those with the latest time first and of one time the
latest row first; a limit below zero is none. -/
def jobsOfUser (user limit : Int) (tables : Tables) : Except StoreError (List Job) :=
  if !(fits user && fits limit) then .error .integerTooLarge
  else
    let own := tables.jobs.reverse.filter fun job => job.userId == user
    let sorted := own.mergeSort fun first second => !decide (first.createdAt < second.createdAt)
    .ok (if limit < 0 then sorted else sorted.take limit.toNat)

/-- How many jobs are in each state that some job is in. -/
def statusCounts (tables : Tables) : Keyed JobStatus Nat :=
  (JobStatus.all.map fun status =>
    (status, tables.jobs.countP fun job => job.status == status)).filter fun entry => entry.2 != 0

/-- Add a component. -/
def addComponent (component : ComponentRecord) (tables : Tables) : Except StoreError Tables :=
  if (tables.component? component.id).isSome then .error (.duplicateId .components)
  else if (tables.job? component.jobId).isNone then .error .missingJob
  else .ok { tables with components := tables.components ++ [component] }

/-- The components of a job, oldest first. -/
def componentsOfJob (jobId : Text) (tables : Tables) : List ComponentRecord :=
  tables.components.filter fun component => component.jobId == jobId

end Tables

namespace Store

/-- The tables of a store, for an operation on the named one. -/
def tables (table : TableName) : Store → Except StoreError Tables
  | closed => .error .notConnected
  | bare => .error (.noTable table)
  | ready tables => .ok tables

/-- A store that is connected and has its tables, all empty. -/
def empty : Store := ready {}

end Store

end DesignExport
