/-
# The database under the store

The store keeps its rows in a database, in memory or in a file. A connection
shows the rows that were saved. A statement that changes rows begins a
transaction if none is open, also when it is then refused; the change is saved
when the transaction is committed, and lost when the connection ends before.
Rows in memory are lost with the connection in any case.

Making tables commits what is open, and makes them only where they are missing.
-/

import DesignExport.Store.Operation
import DesignExport.Store.Row

namespace DesignExport

/-- The rows of the two tables, oldest first. -/
structure Rows where
  jobs : List JobRow := []
  components : List ComponentRow := []
deriving DecidableEq

namespace Rows

/-- The row of the job with an identifier. -/
def job? (id : Text) (rows : Rows) : Option JobRow :=
  rows.jobs.find? fun row => row.id == id

/-- The row of the component with an identifier. -/
def component? (id : Text) (rows : Rows) : Option ComponentRow :=
  rows.components.find? fun row => row.id == id

/-- Insert a job. -/
def insertJob (row : JobRow) (rows : Rows) : Except StoreError Rows :=
  if !(Tables.fits row.progress && Tables.fits row.userId) then .error .integerTooLarge
  else if (rows.job? row.id).isSome then .error (.duplicateId .jobs)
  else .ok { rows with jobs := rows.jobs ++ [row] }

/-- Change the rows of the job with an identifier. -/
def updateJob (id : Text) (change : JobRow → JobRow) (rows : Rows) : Rows :=
  { rows with jobs := rows.jobs.map fun row => if row.id == id then change row else row }

/-- Set how far a job has come. -/
def setProgress (id : Text) (progress : Int) (rows : Rows) : Except StoreError Rows :=
  if Tables.fits progress then
    .ok (rows.updateJob id fun row => { row with progress := progress })
  else .error .integerTooLarge

/-- Set the end of a job with its output. -/
def completeJob (id output time : Text) (rows : Rows) : Rows :=
  rows.updateJob id fun row =>
    { row with status := JobStatus.completed.name, progress := 100, output := some output
               completedAt := time }

/-- Set the failure of a job. -/
def failJob (id message time : Text) (rows : Rows) : Rows :=
  rows.updateJob id fun row =>
    { row with status := JobStatus.failed.name, progress := 100, errorMessage := message
               completedAt := time }

/-- Insert a component. -/
def insertComponent (row : ComponentRow) (rows : Rows) : Except StoreError Rows :=
  if (rows.component? row.id).isSome then .error (.duplicateId .components)
  else if (rows.job? row.jobId).isNone then .error .missingJob
  else .ok { rows with components := rows.components ++ [row] }

/-- The rows of the jobs of a user, those with the latest time first and of one
time the latest row first; a limit below zero is none. -/
def jobsOfUser (user limit : Int) (rows : Rows) : Except StoreError (List JobRow) :=
  if !(Tables.fits user && Tables.fits limit) then .error .integerTooLarge
  else
    let own := rows.jobs.reverse.filter fun row => row.userId == user
    let sorted := own.mergeSort fun first second => !decide (first.createdAt < second.createdAt)
    .ok (if limit < 0 then sorted else sorted.take limit.toNat)

/-- How many jobs are in each state that some job is in. -/
def statusCounts (rows : Rows) : Keyed JobStatus Nat :=
  (JobStatus.all.map fun status =>
    (status, rows.jobs.countP fun row => row.status == status.name)).filter fun entry =>
      entry.2 != 0

/-- The rows of the components of a job, oldest first. -/
def componentsOfJob (jobId : Text) (rows : Rows) : List ComponentRow :=
  rows.components.filter fun row => row.jobId == jobId

end Rows

/-- What a connection shows, nothing before the tables are made, and whether a
transaction is open. -/
structure Connection where
  shown : Option Rows
  isOpen : Bool := false

/-- A database: where it is kept, what is saved there, and the connection. -/
structure Database where
  path : Text := ":memory:"
  saved : Option Rows := none
  connection : Option Connection := none

/-- Why the database refuses an operation: the statement is refused, a value has
no written form, the codes of a parameter are no text, or a row is no record. -/
inductive DatabaseError where
  | refused (error : StoreError)
  | unwritable (error : Json.WriteError)
  | unencodable (error : Text.CharsetError)
  | unreadable (error : RowError)
deriving DecidableEq

namespace Database

/-- Whether rows at a path are lost with the connection. -/
def isPassing (path : Text) : Bool := path == ":memory:" || path.isEmpty

/-- Connect to the path anew. A connection that is replaced ends. -/
def connect (database : Database) : Database :=
  let saved := if isPassing database.path then none else database.saved
  { database with saved := saved, connection := some { shown := saved } }

/-- End the connection. What was not committed is lost. -/
def close (database : Database) : Database := { database with connection := none }

/-- Save what the connection shows, if a transaction is open. -/
def commit (database : Database) : Database :=
  match database.connection with
  | some ⟨shown, true⟩ => { database with saved := shown, connection := some { shown := shown } }
  | _ => database

/-- Make the tables that are missing. -/
def migrate (database : Database) : Except DatabaseError StoreAnswer × Database :=
  let database := database.commit
  match database.connection with
  | none => (.error (.refused .notConnected), database)
  | some connection =>
    let made := connection.shown.getD {}
    (.ok .done, { database with saved := some made, connection := some { shown := some made } })

/-- The rows that the connection shows, for a statement on the named table. -/
def rows (table : TableName) (database : Database) : Except StoreError Rows :=
  match database.connection with
  | none => .error .notConnected
  | some ⟨none, _⟩ => .error (.noTable table)
  | some ⟨some rows, _⟩ => .ok rows

/-- Run a statement that changes rows, in a transaction that stays open. -/
def execute (table : TableName) (database : Database) (statement : Rows → Except StoreError Rows) :
    Except StoreError Unit × Database :=
  match database.rows table with
  | .error error => (.error error, database)
  | .ok rows =>
    match statement rows with
    | .error error =>
      (.error error, { database with connection := some { shown := some rows, isOpen := true } })
    | .ok changed =>
      (.ok (), { database with connection := some { shown := some changed, isOpen := true } })

/-- Run a statement that changes rows, and commit. -/
def change (table : TableName) (database : Database) (statement : Rows → Except StoreError Rows) :
    Except DatabaseError StoreAnswer × Database :=
  match database.execute table statement with
  | (.error error, left) => (.error (.refused error), left)
  | (.ok (), changed) => (.ok .done, changed.commit)

/-- Run a statement with a value in its written form, and commit. The value is
written before the connection is used. -/
def changeWith {α : Type} (table : TableName) (database : Database)
    (value : Except Json.WriteError α) (statement : α → Rows → Except StoreError Rows) :
    Except DatabaseError StoreAnswer × Database :=
  match value with
  | .error error => (.error (.unwritable error), database)
  | .ok given => database.change table (statement given)

/-- Ask for rows of the named table. -/
def ask {α : Type} (table : TableName) (database : Database)
    (select : Rows → Except StoreError α) (answer : α → Except RowError StoreAnswer) :
    Except DatabaseError StoreAnswer × Database :=
  (do
    let found ← ((database.rows table).bind select).mapError .refused
    (answer found).mapError .unreadable, database)

/-- The answer to an operation, and the database after it. -/
def run (database : Database) : StoreOperation → Except DatabaseError StoreAnswer × Database
  | .createJob job => database.changeWith .jobs job.row Rows.insertJob
  | .getJob id =>
    database.ask .jobs (fun rows => .ok (rows.job? id)) fun
      | none => .ok (.job none)
      | some row => row.job.map fun job => .job (some job)
  | .updateProgress id progress => database.change .jobs (Rows.setProgress id progress)
  | .completeJob id output time =>
    database.changeWith .jobs output.written fun output rows =>
      .ok (rows.completeJob id output time)
  | .failJob id message time => database.change .jobs fun rows => .ok (rows.failJob id message time)
  | .listByUser user limit =>
    database.ask .jobs (Rows.jobsOfUser user limit) fun rows => (rows.mapM JobRow.job).map .jobs
  | .countByStatus => database.ask .jobs (fun rows => .ok rows.statusCounts) fun counts =>
    .ok (.counts counts)
  | .createComponent component =>
    database.changeWith .components component.row Rows.insertComponent
  | .getComponent id =>
    database.ask .components (fun rows => .ok (rows.component? id)) fun
      | none => .ok (.component none)
      | some row => row.component.map fun component => .component (some component)
  | .listByJob jobId =>
    database.ask .components (fun rows => .ok (rows.componentsOfJob jobId)) fun rows =>
      (rows.mapM ComponentRow.component).map .components
  | .migrate => database.migrate
  | .connect => (.ok .done, database.connect)
  | .close | .exit => (.ok .done, database.close)
  | .enter => (.ok .done, if database.connection.isSome then database else database.connect)

/-- The answer to the question for a job under an identifier that is given by its codes. The
statement is looked at before its parameter. -/
def findJob (codes : List Nat) (database : Database) : Except DatabaseError StoreAnswer := do
  let _ ← (database.rows .jobs).mapError .refused
  let id ← (Text.ofCodes codes).mapError .unencodable
  (database.run (.getJob id)).1

/-- The answers to operations one after the other, and the database after them. -/
def runAll (database : Database) :
    List StoreOperation → List (Except DatabaseError StoreAnswer) × Database
  | [] => ([], database)
  | operation :: rest =>
    let first := database.run operation
    let others := first.2.runAll rest
    (first.1 :: others.1, others.2)

/-- The message of a refusal. -/
def message (database : Database) : DatabaseError → Text
  | .refused .notConnected => "Database " ++ Text.quoted database.path ++ " is not connected"
  | .refused error => error.message
  | .unwritable error => error.message
  | .unencodable error => error.message
  | .unreadable error => error.message

end Database

end DesignExport
