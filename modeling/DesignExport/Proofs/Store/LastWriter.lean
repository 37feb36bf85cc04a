/-
# The last writer of a field

Each of the calls that write jobs sets some fields of one job: creation makes the job,
and the other calls set the progress, or the state, the progress, the time and either
the output or the message. Whatever else is written in between, each field of a job is
what the last call for the job that sets the field has set, or what was created. The
record is read back from its row with characters in place of their halves, and otherwise
unchanged.
-/

import DesignExport.Proofs.Store.Newest
import DesignExport.Proofs.Store.Representation

namespace DesignExport

/-- The calls that write jobs. -/
inductive JobCall where
  | create (job : Job)
  | updateProgress (id : Text) (progress : Int)
  | complete (id : Text) (output : Json) (time : Text)
  | fail (id message time : Text)

namespace JobCall

/-- A call as an operation of the store. -/
def operation : JobCall → StoreOperation
  | create job => .createJob job
  | updateProgress id progress => .updateProgress id progress
  | complete id output time => .completeJob id output time
  | fail id message time => .failJob id message time

/-- A call with its values as they are read back. -/
def joined : JobCall → JobCall
  | create job => create job.joined
  | complete id output time => complete id output.joined time
  | call => call

/-- The identifier that a call names. -/
def id : JobCall → Text
  | create job => job.id
  | updateProgress id _ | complete id _ _ | fail id _ _ => id

/-! ## The fields that a call sets -/

def status? : JobCall → Option JobStatus
  | complete .. => some .completed
  | fail .. => some .failed
  | _ => none

def progress? : JobCall → Option Int
  | updateProgress _ progress => some progress
  | complete .. | fail .. => some 100
  | create _ => none

def output? : JobCall → Option Json
  | complete _ output _ => some output
  | _ => none

def errorMessage? : JobCall → Option Text
  | fail _ message _ => some message
  | _ => none

def completedAt? : JobCall → Option Text
  | complete _ _ time | fail _ _ time => some time
  | _ => none

/-- The last value that calls for an identifier set for a field, or the one that was created. -/
def lastSet {α : Type} (field : JobCall → Option α) (id : Text) (calls : List JobCall)
    (created : α) : α :=
  ((calls.filter fun call => call.id == id).filterMap field).getLast?.getD created

/-- The record of a job behind calls. -/
def recordAfter (job : Job) (calls : List JobCall) : Job :=
  { job with
    status := lastSet status? job.id calls job.status
    progress := lastSet progress? job.id calls job.progress
    output := lastSet output? job.id calls job.output
    errorMessage := lastSet errorMessage? job.id calls job.errorMessage
    completedAt := lastSet completedAt? job.id calls job.completedAt }

variable {α : Type} {field : JobCall → Option α} {id : Text} {call : JobCall}
  {calls : List JobCall} {created : α}

/-- A job with the fields that a call sets. -/
def change (call : JobCall) (job : Job) : Job :=
  { job with
    status := call.status?.getD job.status
    progress := call.progress?.getD job.progress
    output := call.output?.getD job.output
    errorMessage := call.errorMessage?.getD job.errorMessage
    completedAt := call.completedAt?.getD job.completedAt }

/-- What is found under an identifier behind a call. -/
def apply (id : Text) (found : Option Job) (call : JobCall) : Option Job :=
  match found, call with
  | none, create job => if job.id = id then some job else none
  | none, _ => none
  | some job, call => some (if call.id = id then call.change job else job)

variable {rows changed : Rows} {database : Database} {found : Option Job}

/-- A call with values of the program. -/
def IsValue (call : JobCall) : Prop := call.operation.IsValue

@[simp] theorem recordAfter_nil (job : Job) : recordAfter job [] = job := rfl

end JobCall

namespace Database

variable {database : Database} {rows : Rows} {id : Text}

theorem runAll_append (database : Database) (first second : List StoreOperation) :
    database.runAll (first ++ second) =
      ((database.runAll first).1 ++ ((database.runAll first).2.runAll second).1,
        ((database.runAll first).2.runAll second).2) := by
  induction first generalizing database with
  | nil => rfl
  | cons operation first ih =>
      have others := ih (database.run operation).2
      simp only [List.cons_append, runAll, others]

/-- A job that its row shows is what the database answers. -/
theorem run_getJob (isShown : database.rows .jobs = .ok rows) {found : Option Job}
    (shows : Option.Rel JobRow.Shows (rows.job? id) found) :
    (database.run (.getJob id)).1 = .ok (.job found) := by
  rw [run, ask, isShown]
  exact answer_of_job shows

end Database

end DesignExport
