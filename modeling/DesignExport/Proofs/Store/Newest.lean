/-
# The newest job

A job that is being worked on is the newest row of its table, and no other row
has its identifier. So every change that names the identifier changes that row
and no other, and the row is what the store answers when it is asked for it.
-/

import DesignExport.Store.Operation

namespace DesignExport

/-- Changing the rows with one identifier changes what is found under it, and nothing else. -/
theorem find?_map_change {α : Type} (idOf : α → Text) {change : α → α}
    (keeps : ∀ row, idOf (change row) = idOf row) (named id : Text) (rows : List α) :
    (rows.map fun row => if idOf row == named then change row else row).find?
        (fun row => idOf row == id) =
      (rows.find? fun row => idOf row == id).map fun row =>
        if named = id then change row else row := by
  have sameId (row : α) : idOf (if idOf row == named then change row else row) = idOf row := by
    split
    · exact keeps row
    · rfl
  have isFound : (rows.map fun row => if idOf row == named then change row else row).find?
        (fun row => idOf row == id) =
      (rows.find? fun row => idOf row == id).map fun row =>
        if idOf row == named then change row else row := by
    rw [List.find?_map]
    simp only [Function.comp_def, sameId]
  rw [isFound]
  cases stored : rows.find? fun row => idOf row == id with
  | none => rfl
  | some row =>
      have isId : idOf row = id := by simpa using List.find?_some stored
      simp only [Option.map_some, isId, beq_iff_eq, eq_comm (a := id)]

namespace Tables

/-- The tables with one more job, the newest. -/
def withJob (job : Job) (tables : Tables) : Tables :=
  { tables with jobs := tables.jobs ++ [job] }

/-- The tables with one more component, the newest. -/
def withComponent (component : ComponentRecord) (tables : Tables) : Tables :=
  { tables with components := tables.components ++ [component] }

/-- No job has the identifier. -/
def NoJob (id : Text) (tables : Tables) : Prop := ∀ row ∈ tables.jobs, row.id ≠ id

/-- No component has the identifier. -/
def NoComponent (id : Text) (tables : Tables) : Prop := ∀ row ∈ tables.components, row.id ≠ id

variable {tables : Tables} {job : Job}

theorem job?_eq_none {id : Text} (fresh : tables.NoJob id) : tables.job? id = none := by
  rw [job?, List.find?_eq_none]
  intro row within
  simpa using fresh row within

theorem noJob_of_job?_eq_none {id : Text} (unused : tables.job? id = none) : tables.NoJob id := by
  simpa [job?, NoJob, List.find?_eq_none] using unused

theorem job?_withJob (fresh : tables.NoJob job.id) :
    (tables.withJob job).job? job.id = some job := by
  have others : tables.jobs.find? (fun row => row.id == job.id) = none := job?_eq_none fresh
  simp [job?, withJob, List.find?_append, others]

theorem component?_eq_none {id : Text} (fresh : tables.NoComponent id) :
    tables.component? id = none := by
  rw [component?, List.find?_eq_none]
  intro row within
  simpa using fresh row within

theorem component?_withComponent {component : ComponentRecord}
    (new : tables.NoComponent component.id) :
    (tables.withComponent component).component? component.id = some component := by
  have others : tables.components.find? (fun row => row.id == component.id) = none :=
    component?_eq_none new
  simp [component?, withComponent, List.find?_append, others]

/-- A change that names no job leaves every row. -/
theorem map_change_of_noJob {id : Text} (fresh : tables.NoJob id) (change : Job → Job) :
    (tables.jobs.map fun row => if row.id == id then change row else row) = tables.jobs :=
  calc
    _ = tables.jobs.map fun row => row :=
      List.map_congr_left fun row within => by simp [fresh row within]
    _ = tables.jobs := List.map_id' tables.jobs

/-- A change that names the newest job changes only that row. -/
theorem changeJob_withJob (fresh : tables.NoJob job.id) (change : Job → Job) :
    (tables.withJob job).changeJob job.id change = tables.withJob (change job) := by
  simp only [changeJob, withJob, List.map_append, map_change_of_noJob fresh, List.map_cons,
    List.map_nil, beq_self_eq_true, if_true]

/-- A change that keeps identifiers changes what is found under the identifier that it names,
and nothing else. -/
theorem job?_changeJob {change : Job → Job} (keeps : ∀ job, (change job).id = job.id)
    (named id : Text) :
    (tables.changeJob named change).job? id =
      (tables.job? id).map fun job => if named = id then change job else job :=
  find?_map_change Job.id keeps named id tables.jobs

end Tables

namespace Store

open Tables

variable {tables : Tables} {job : Job}

theorem run_createJob (fresh : tables.NoJob job.id) (progress : fits job.progress = true)
    (user : fits job.userId = true) :
    (ready tables).run (.createJob job) = (.ok .done, ready (tables.withJob job)) := by
  have added : tables.addJob job = .ok (tables.withJob job) := by
    simp [addJob, progress, user, job?_eq_none fresh, withJob]
  simp [run, change, Store.tables, Except.bind, added]

/-- A job whose user does not fit its column is refused. -/
theorem run_createJob_of_not_fits (tooLarge : fits job.userId = false) :
    (ready tables).run (.createJob job) = (.error .integerTooLarge, ready tables) := by
  have refused : tables.addJob job = .error .integerTooLarge := by simp [addJob, tooLarge]
  simp [run, change, Store.tables, Except.bind, refused]

theorem run_getJob (fresh : tables.NoJob job.id) :
    (ready (tables.withJob job)).run (.getJob job.id) =
      (.ok (.job (some job)), ready (tables.withJob job)) := by
  simp [run, ask, Store.tables, Except.bind, job?_withJob fresh]

theorem run_updateProgress (fresh : tables.NoJob job.id) {progress : Int}
    (fitting : fits progress = true) :
    (ready (tables.withJob job)).run (.updateProgress job.id progress) =
      (.ok .done, ready (tables.withJob { job with progress := progress })) := by
  have changed : (tables.withJob job).setProgress job.id progress =
      .ok (tables.withJob { job with progress := progress }) := by
    rw [setProgress, if_pos fitting, changeJob_withJob fresh]
  simp [run, change, Store.tables, Except.bind, changed]

theorem run_completeJob (fresh : tables.NoJob job.id) (output : Json) (time : Text) :
    (ready (tables.withJob job)).run (.completeJob job.id output time) =
      (.ok .done, ready (tables.withJob
        { job with status := .completed, progress := 100, output := output
                   completedAt := time })) := by
  have changed := changeJob_withJob fresh fun row =>
    { row with status := .completed, progress := 100, output := output, completedAt := time }
  simp [run, change, Store.tables, Except.bind, completeJob, changed]

theorem run_failJob (fresh : tables.NoJob job.id) (message time : Text) :
    (ready (tables.withJob job)).run (.failJob job.id message time) =
      (.ok .done, ready (tables.withJob
        { job with status := .failed, progress := 100, errorMessage := message
                   completedAt := time })) := by
  have changed := changeJob_withJob fresh fun row =>
    { row with status := .failed, progress := 100, errorMessage := message, completedAt := time }
  simp [run, change, Store.tables, Except.bind, failJob, changed]

/-- A new component of the newest job is taken. -/
theorem run_createComponent {component : ComponentRecord} (fresh : tables.NoJob job.id)
    (new : tables.NoComponent component.id) (owned : component.jobId = job.id) :
    (ready (tables.withJob job)).run (.createComponent component) =
      (.ok .done, ready ((tables.withComponent component).withJob job)) := by
  have unused : (tables.withJob job).component? component.id = none := component?_eq_none new
  have added : (tables.withJob job).addComponent component =
      .ok ((tables.withComponent component).withJob job) := by
    simp only [addComponent, unused, owned, job?_withJob fresh, Option.isSome_none,
      Option.isNone_some, Bool.false_eq_true, if_false]
    rfl
  simp [run, change, Store.tables, Except.bind, added]

end Store

end DesignExport
