/-
# Integrity of the database

Whatever is done with a database, the rows that are saved keep their keys: no two
rows of a table have one identifier, and every component belongs to a stored job.
Between operations the connection shows exactly what is saved, so an open
transaction holds nothing. For this reason a refused operation is without any
effect: databases that differ only in the transaction answer alike ever after.
-/

import DesignExport.Store.Database
import Mathlib.Data.List.Nodup

namespace DesignExport

/-! ## Rows with their keys -/

/-- Identifiers are unique in their table, and every component belongs to a stored job. -/
structure Rows.IsIntact (rows : Rows) : Prop where
  jobs : (rows.jobs.map JobRow.id).Nodup
  components : (rows.components.map ComponentRow.id).Nodup
  owners : ∀ row ∈ rows.components, ∃ job ∈ rows.jobs, job.id = row.jobId

namespace Rows

variable {rows changed : Rows}

theorem insertJob_eq_ok {row : JobRow} :
    rows.insertJob row = .ok changed ↔
      (Tables.fits row.progress = true ∧ Tables.fits row.userId = true) ∧ rows.job? row.id = none ∧
        changed = { rows with jobs := rows.jobs ++ [row] } := by
  rw [insertJob, ← Bool.and_eq_true]
  cases fitting : Tables.fits row.progress && Tables.fits row.userId with
  | false => simp
  | true => cases used : rows.job? row.id <;> simp [eq_comm]

theorem setProgress_eq_ok {id : Text} {progress : Int} :
    rows.setProgress id progress = .ok changed ↔
      Tables.fits progress = true ∧
        changed = rows.updateJob id fun row => { row with progress := progress } := by
  rw [setProgress]
  split_ifs with fitting <;> simp [fitting, eq_comm]

theorem insertComponent_eq_ok {row : ComponentRow} :
    rows.insertComponent row = .ok changed ↔
      rows.component? row.id = none ∧ (rows.job? row.jobId).isSome ∧
        changed = { rows with components := rows.components ++ [row] } := by
  rw [insertComponent]
  cases used : rows.component? row.id with
  | some stored => simp
  | none => cases owner : rows.job? row.jobId <;> simp [eq_comm]

theorem isIntact_empty : IsIntact {} := ⟨by simp, by simp, by simp⟩

theorem IsIntact.insertJob (intact : rows.IsIntact) {row : JobRow}
    (inserted : rows.insertJob row = .ok changed) : changed.IsIntact := by
  obtain ⟨-, unused, rfl⟩ := insertJob_eq_ok.mp inserted
  have new : row.id ∉ rows.jobs.map JobRow.id := by
    simpa [job?, List.find?_eq_none] using unused
  constructor
  · simpa [List.nodup_append, intact.jobs] using new
  · exact intact.components
  · intro component within
    obtain ⟨job, stored, owner⟩ := intact.owners component within
    exact ⟨job, List.mem_append_left _ stored, owner⟩

theorem IsIntact.insertComponent (intact : rows.IsIntact) {row : ComponentRow}
    (inserted : rows.insertComponent row = .ok changed) : changed.IsIntact := by
  obtain ⟨unused, owner, rfl⟩ := insertComponent_eq_ok.mp inserted
  have new : row.id ∉ rows.components.map ComponentRow.id := by
    simpa [component?, List.find?_eq_none] using unused
  constructor
  · exact intact.jobs
  · simpa [List.nodup_append, intact.components] using new
  · refine List.forall_mem_append.mpr ⟨intact.owners, List.forall_mem_singleton.mpr ?_⟩
    simpa [job?, List.find?_isSome] using owner

/-- A change of rows that keeps their identifiers breaks no key. -/
theorem IsIntact.updateJob (intact : rows.IsIntact) (id : Text) {change : JobRow → JobRow}
    (keeps : ∀ row, (change row).id = row.id) : (rows.updateJob id change).IsIntact := by
  have sameId (row : JobRow) : (if row.id == id then change row else row).id = row.id := by
    split_ifs
    · exact keeps row
    · rfl
  have sameIds : (rows.updateJob id change).jobs.map JobRow.id = rows.jobs.map JobRow.id := by
    rw [Rows.updateJob, List.map_map]
    exact List.map_congr_left fun row _ => sameId row
  constructor
  · rw [sameIds]
    exact intact.jobs
  · exact intact.components
  · intro component within
    obtain ⟨job, stored, owner⟩ := intact.owners component within
    exact ⟨_, List.mem_map_of_mem stored, (sameId job).trans owner⟩

end Rows

/-! ## Statements on a database -/

namespace Database

variable {database left : Database} {table : TableName} {rows : Rows}

theorem exists_connection_of_rows (isShown : database.rows table = .ok rows) :
    ∃ isOpen, database.connection = some ⟨some rows, isOpen⟩ := by
  obtain ⟨path, saved, connection⟩ := database
  match connection, isShown with
  | some ⟨some _, isOpen⟩, rfl => exact ⟨isOpen, rfl⟩

theorem change_of_error {statement : Rows → Except StoreError Rows} {error : StoreError}
    (unshown : database.rows table = .error error) :
    database.change table statement = (.error (.refused error), database) := by
  rw [change, execute, unshown]

/-- A refused statement leaves a transaction open. -/
theorem change_of_refused {statement : Rows → Except StoreError Rows} {error : StoreError}
    (isShown : database.rows table = .ok rows) (refused : statement rows = .error error) :
    database.change table statement =
      (.error (.refused error), { database with connection := some ⟨some rows, true⟩ }) := by
  rw [change, execute, isShown]
  simp only [refused]

theorem change_of_ok {statement : Rows → Except StoreError Rows} {changed : Rows}
    (isShown : database.rows table = .ok rows) (accepted : statement rows = .ok changed) :
    database.change table statement =
      (.ok .done,
        { database with saved := some changed, connection := some ⟨some changed, false⟩ }) := by
  rw [change, execute, isShown]
  simp only [accepted, commit]

/-! ## Databases with their keys -/

/-- What the connection shows is what is saved, and it keeps its keys. -/
structure IsSound (database : Database) : Prop where
  committed : ∀ connection, database.connection = some connection →
    connection.shown = database.saved
  intact : ∀ rows, database.saved = some rows → rows.IsIntact

theorem isSound_new (path : Text) : IsSound { path := path } := ⟨by simp, by simp⟩

/-- Rows that are shown and saved, with or without an open transaction. -/
theorem isSound_of_intact (path : Text) (isOpen : Bool) (intact : rows.IsIntact) :
    IsSound { path := path, saved := some rows, connection := some ⟨some rows, isOpen⟩ } where
  committed := by
    rintro connection ⟨⟩
    rfl
  intact := by
    rintro saved ⟨⟩
    exact intact

/-- The rows that a statement sees are the saved ones. -/
theorem IsSound.saved_of_rows (sound : database.IsSound)
    (isShown : database.rows table = .ok rows) : database.saved = some rows := by
  obtain ⟨isOpen, connected⟩ := exists_connection_of_rows isShown
  exact (sound.committed _ connected).symm

theorem IsSound.change (sound : database.IsSound) {statement : Rows → Except StoreError Rows}
    (keeps : ∀ rows changed, rows.IsIntact → statement rows = .ok changed → changed.IsIntact) :
    (database.change table statement).2.IsSound := by
  cases isShown : database.rows table with
  | error error =>
      rw [change_of_error isShown]
      exact sound
  | ok rows =>
      have saved := sound.saved_of_rows isShown
      have intact := sound.intact rows saved
      cases accepted : statement rows with
      | error error =>
          rw [change_of_refused isShown accepted, saved]
          exact isSound_of_intact database.path true intact
      | ok changed =>
          rw [change_of_ok isShown accepted]
          exact isSound_of_intact database.path false (keeps rows changed intact accepted)

theorem IsSound.changeWith {α : Type} (sound : database.IsSound)
    (value : Except Json.WriteError α) {statement : α → Rows → Except StoreError Rows}
    (keeps : ∀ given rows changed, rows.IsIntact → statement given rows = .ok changed →
      changed.IsIntact) :
    (database.changeWith table value statement).2.IsSound := by
  cases value with
  | error error => exact sound
  | ok given => exact sound.change (keeps given)

theorem IsSound.connect (sound : database.IsSound) : database.connect.IsSound where
  committed := by
    rintro connection ⟨⟩
    rfl
  intact := by
    intro rows saved
    rw [Database.connect] at saved
    split_ifs at saved
    exact sound.intact rows saved

theorem IsSound.close (sound : database.IsSound) : database.close.IsSound where
  committed := by simp [Database.close]
  intact := sound.intact

theorem IsSound.migrate (sound : database.IsSound) : database.migrate.2.IsSound := by
  obtain ⟨path, saved, connection⟩ := database
  match connection with
  | none => exact sound
  | some ⟨none, false⟩ => exact isSound_of_intact path false Rows.isIntact_empty
  | some ⟨none, true⟩ => exact isSound_of_intact path false Rows.isIntact_empty
  | some ⟨some rows, isOpen⟩ =>
      have isSaved : some rows = saved := sound.committed _ rfl
      have intact := sound.intact rows isSaved.symm
      cases isOpen <;> exact isSound_of_intact path false intact

/-- Every operation keeps a database sound. -/
theorem IsSound.run (sound : database.IsSound) (operation : StoreOperation) :
    (database.run operation).2.IsSound := by
  cases operation with
  | createJob job => exact sound.changeWith job.row fun _ _ _ intact => intact.insertJob
  | updateProgress id progress =>
      refine sound.change fun rows changed intact accepted => ?_
      obtain ⟨-, rfl⟩ := Rows.setProgress_eq_ok.mp accepted
      exact intact.updateJob id fun row => rfl
  | completeJob id output time =>
      refine sound.changeWith output.written fun output rows changed intact accepted => ?_
      obtain rfl := Except.ok.inj accepted
      exact intact.updateJob id fun row => rfl
  | failJob id message time =>
      refine sound.change fun rows changed intact accepted => ?_
      obtain rfl := Except.ok.inj accepted
      exact intact.updateJob id fun row => rfl
  | createComponent component =>
      exact sound.changeWith component.row fun _ _ _ intact => intact.insertComponent
  | migrate => exact sound.migrate
  | connect => exact sound.connect
  | close => exact sound.close
  | exit => exact sound.close
  | enter =>
      rw [Database.run]
      split_ifs
      · exact sound
      · exact sound.connect
  | getJob | listByUser | countByStatus | getComponent | listByJob => exact sound

theorem IsSound.runAll (sound : database.IsSound) (operations : List StoreOperation) :
    (database.runAll operations).2.IsSound := by
  induction operations generalizing database with
  | nil => exact sound
  | cons operation rest ih => exact ih (sound.run operation)

/-! ## Refused operations -/

/-- Databases with the same rows, which differ at most in whether a transaction is open. -/
structure SameRows (database left : Database) : Prop where
  path : left.path = database.path
  saved : left.saved = database.saved
  shown : left.connection.map Connection.shown = database.connection.map Connection.shown

theorem SameRows.refl (database : Database) : database.SameRows database := ⟨rfl, rfl, rfl⟩

theorem sameRows_change {statement : Rows → Except StoreError Rows} {error : DatabaseError}
    (refused : (database.change table statement).1 = .error error) :
    database.SameRows (database.change table statement).2 := by
  cases isShown : database.rows table with
  | error reason =>
      rw [change_of_error isShown]
      exact .refl database
  | ok rows =>
      obtain ⟨isOpen, connected⟩ := exists_connection_of_rows isShown
      cases accepted : statement rows with
      | error reason =>
          rw [change_of_refused isShown accepted]
          exact ⟨rfl, rfl, by simp [connected]⟩
      | ok changed =>
          rw [change_of_ok isShown accepted] at refused
          cases refused

theorem sameRows_changeWith {α : Type} {value : Except Json.WriteError α}
    {statement : α → Rows → Except StoreError Rows} {error : DatabaseError}
    (refused : (database.changeWith table value statement).1 = .error error) :
    database.SameRows (database.changeWith table value statement).2 := by
  cases value with
  | error reason => exact .refl database
  | ok given => exact sameRows_change refused

/-- A refused operation changes no row. -/
theorem sameRows_of_refused {operation : StoreOperation} {error : DatabaseError}
    (refused : (database.run operation).1 = .error error) :
    database.SameRows (database.run operation).2 := by
  cases operation with
  | createJob | completeJob | createComponent => exact sameRows_changeWith refused
  | updateProgress | failJob => exact sameRows_change refused
  | getJob | listByUser | countByStatus | getComponent | listByJob => exact .refl database
  | migrate =>
      obtain ⟨path, saved, connection⟩ := database
      match connection, refused with
      | none, _ => exact .refl _
  | connect | close | enter | exit => cases refused

/-- What a statement sees does not depend on the transaction. -/
theorem SameRows.rows_eq (same : database.SameRows left) (table : TableName) :
    left.rows table = database.rows table := by
  have shows (database : Database) : database.rows table =
      match database.connection.map Connection.shown with
      | none => .error .notConnected
      | some none => .error (.noTable table)
      | some (some rows) => .ok rows := by
    obtain ⟨path, saved, connection⟩ := database
    match connection with
    | none | some ⟨none, _⟩ | some ⟨some rows, _⟩ => rfl
  rw [shows, shows, same.shown]

/-- Databases with the same rows give the same answer and have the same rows again. -/
theorem SameRows.change (same : database.SameRows left)
    (statement : Rows → Except StoreError Rows) :
    (left.change table statement).1 = (database.change table statement).1 ∧
      (database.change table statement).2.SameRows (left.change table statement).2 := by
  cases isShown : database.rows table with
  | error error =>
      rw [change_of_error isShown, change_of_error ((same.rows_eq table).trans isShown)]
      exact ⟨rfl, same⟩
  | ok rows =>
      have isShownLeft := (same.rows_eq table).trans isShown
      cases accepted : statement rows with
      | error error =>
          rw [change_of_refused isShown accepted, change_of_refused isShownLeft accepted]
          exact ⟨rfl, same.path, same.saved, rfl⟩
      | ok changed =>
          rw [change_of_ok isShown accepted, change_of_ok isShownLeft accepted]
          exact ⟨rfl, same.path, rfl, rfl⟩

theorem SameRows.changeWith {α : Type} (same : database.SameRows left)
    (value : Except Json.WriteError α) (statement : α → Rows → Except StoreError Rows) :
    (left.changeWith table value statement).1 = (database.changeWith table value statement).1 ∧
      (database.changeWith table value statement).2.SameRows
        (left.changeWith table value statement).2 := by
  cases value with
  | error error => exact ⟨rfl, same⟩
  | ok given => exact same.change (statement given)

theorem SameRows.ask {α : Type} (same : database.SameRows left)
    (select : Rows → Except StoreError α) (answer : α → Except RowError StoreAnswer) :
    (left.ask table select answer).1 = (database.ask table select answer).1 ∧
      (database.ask table select answer).2.SameRows (left.ask table select answer).2 :=
  ⟨by simp only [Database.ask, same.rows_eq], same⟩

theorem SameRows.connect (same : database.SameRows left) :
    database.connect.SameRows left.connect := by
  constructor <;> simp [Database.connect, same.path, same.saved]

theorem SameRows.close (same : database.SameRows left) : database.close.SameRows left.close :=
  ⟨same.path, same.saved, rfl⟩

theorem SameRows.migrate (same : database.SameRows left) :
    left.migrate.1 = database.migrate.1 ∧ database.migrate.2.SameRows left.migrate.2 := by
  have migrates (database : Database) :
      database.migrate =
        match database.connection.map Connection.shown with
        | none => (.error (.refused .notConnected), database)
        | some shown =>
          (.ok .done, { database with saved := some (shown.getD {})
                                      connection := some ⟨some (shown.getD {}), false⟩ }) := by
    obtain ⟨path, saved, connection⟩ := database
    match connection with
    | none | some ⟨_, false⟩ | some ⟨_, true⟩ => rfl
  rw [migrates, migrates, same.shown]
  cases database.connection.map Connection.shown with
  | none => exact ⟨rfl, same⟩
  | some shown => exact ⟨rfl, same.path, rfl, rfl⟩

theorem SameRows.run (same : database.SameRows left) (operation : StoreOperation) :
    (left.run operation).1 = (database.run operation).1 ∧
      (database.run operation).2.SameRows (left.run operation).2 := by
  cases operation with
  | createJob | completeJob | createComponent => exact same.changeWith _ _
  | updateProgress | failJob => exact same.change _
  | getJob | listByUser | countByStatus | getComponent | listByJob => exact same.ask _ _
  | migrate => exact same.migrate
  | connect => exact ⟨rfl, same.connect⟩
  | close | exit => exact ⟨rfl, same.close⟩
  | enter =>
      have connected : left.connection.isSome = database.connection.isSome := by
        simpa using congrArg Option.isSome same.shown
      simp only [Database.run, connected]
      split_ifs
      · exact ⟨trivial, same⟩
      · exact ⟨trivial, same.connect⟩

theorem SameRows.runAll (same : database.SameRows left) (operations : List StoreOperation) :
    (left.runAll operations).1 = (database.runAll operations).1 ∧
      (database.runAll operations).2.SameRows (left.runAll operations).2 := by
  induction operations generalizing database left with
  | nil => exact ⟨rfl, same⟩
  | cons operation rest ih =>
      obtain ⟨answer, same⟩ := same.run operation
      obtain ⟨answers, same⟩ := ih same
      exact ⟨by rw [Database.runAll, Database.runAll, answer, answers], same⟩

end Database

/-- Behind any operations on a new database, the connection shows what is saved, and
that keeps its keys. An operation that is then refused leaves all rows as they are, and
whatever comes later is answered and saved as if it had not been tried. -/
theorem database_keeps_keys (path : Text) (operations : List StoreOperation) :
    let database := (Database.runAll { path := path } operations).2
    database.IsSound ∧
      ∀ operation error, (database.run operation).1 = .error error →
        database.SameRows (database.run operation).2 ∧
        ∀ later, ((database.run operation).2.runAll later).1 = (database.runAll later).1 ∧
          (database.runAll later).2.SameRows ((database.run operation).2.runAll later).2 := by
  intro database
  refine ⟨(Database.isSound_new path).runAll operations, fun operation error refused => ?_⟩
  have same := Database.sameRows_of_refused refused
  exact ⟨same, fun later => same.runAll later⟩

/-- A component of a job that is not stored, behind a job that came twice. -/
theorem database_keeps_keys_missing_job :
    let operations : List StoreOperation :=
      [.connect, .migrate, .createJob { id := "a" }, .createJob { id := "a" }]
    let database := (Database.runAll { path := "jobs.db" } operations).2
    let operation : StoreOperation := .createComponent { id := "c", name := "Card", jobId := "b" }
    (database.run operation).1 = .error (.refused .missingJob) ∧ database.IsSound ∧
      database.SameRows (database.run operation).2 ∧
      ∀ later, ((database.run operation).2.runAll later).1 = (database.runAll later).1 ∧
        (database.runAll later).2.SameRows ((database.run operation).2.runAll later).2 := by
  intro operations database operation
  have refused : (database.run operation).1 = .error (.refused .missingJob) := rfl
  obtain ⟨sound, unchanged⟩ := database_keeps_keys "jobs.db" operations
  exact ⟨refused, sound, unchanged operation _ refused⟩

end DesignExport
