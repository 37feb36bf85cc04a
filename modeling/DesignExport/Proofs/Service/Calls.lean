/-
# The calls of a submission

A submission that reaches the store makes its job, records its progress and then
the end of the job: a failure before or after the text was converted, or a
component and the completion. At last it reads the job. All calls are about the
job and the component under the identifiers that the submission has drawn, so a
store without these identifiers takes them all.
-/

import DesignExport.Proofs.Service.JobLifecycle
import DesignExport.Proofs.Store.Separation

namespace DesignExport

variable {σ : Type}

/-! ## Courses -/

/-- How the calls behind the first record of progress bring a job to its end. -/
inductive CourseEnd where
  | failed (message time : Text)
  | failedLate (message time : Text)
  | completed (component : ComponentRecord) (output : Json) (time : Text)

namespace CourseEnd

/-- The calls that bring a job to its end. -/
def calls (jobId : Text) : CourseEnd → List StoreOperation
  | failed message time => [.failJob jobId message time]
  | failedLate message time => [.updateProgress jobId 70, .failJob jobId message time]
  | completed component output time =>
    [.updateProgress jobId 70, .createComponent component, .completeJob jobId output time]

/-- A component that is made has the identifiers. -/
def IsUnder (ids : RecordIds) : CourseEnd → Prop
  | completed component _ _ => component.id = ids.component ∧ component.jobId = ids.job
  | _ => True

end CourseEnd

/-- The calls of one submission: what its job is at first, and how it ends. -/
structure Course where
  job : Job
  ending : CourseEnd

namespace Course

/-- All calls in their order. -/
def calls (course : Course) : List StoreOperation :=
  [.createJob course.job, .updateProgress course.job.id 30] ++ course.ending.calls course.job.id ++
    [.getJob course.job.id]

/-- A course whose rows have the identifiers and whose numbers fit their columns. -/
structure IsUnder (ids : RecordIds) (course : Course) : Prop where
  job : course.job.id = ids.job
  progress : Tables.fits course.job.progress = true
  user : Tables.fits course.job.userId = true
  ending : course.ending.IsUnder ids

variable {ids : RecordIds} {course : Course}

theorem IsUnder.isAbout (under : course.IsUnder ids) :
    ∀ operation ∈ course.calls, operation.IsAbout ids := by
  obtain ⟨job, ending⟩ := course
  have named : job.id = ids.job := under.job
  cases ending with
  | failed => simp [calls, CourseEnd.calls, StoreOperation.IsAbout, named]
  | failedLate => simp [calls, CourseEnd.calls, StoreOperation.IsAbout, named]
  | completed component output time =>
      have owned : component.id = ids.component ∧ component.jobId = ids.job := under.ending
      simpa [calls, CourseEnd.calls, StoreOperation.IsAbout, named] using owned

/-- A store without rows takes every call of a course. -/
theorem IsUnder.take (under : course.IsUnder ids) : ∃ last, Tables.Take {} course.calls last := by
  obtain ⟨job, ending⟩ := course
  have fresh : Tables.NoJob job.id {} := by simp [Tables.NoJob]
  -- the job has its identifier whatever is recorded of it
  have freshAt (progress : Int) : Tables.NoJob ({ job with progress := progress } : Job).id {} :=
    fresh
  have created := Store.run_createJob fresh under.progress under.user
  have begun := Store.run_updateProgress fresh (by decide : Tables.fits 30 = true)
  have halfway := Store.run_updateProgress (freshAt 30) (by decide : Tables.fits 70 = true)
  cases ending with
  | failed message time =>
      exact ⟨_, _, _, created, _, _, begun, _, _, Store.run_failJob (freshAt 30) message time,
        _, _, Store.run_getJob fresh, rfl⟩
  | failedLate message time =>
      exact ⟨_, _, _, created, _, _, begun, _, _, halfway,
        _, _, Store.run_failJob (freshAt 70) message time, _, _, Store.run_getJob fresh, rfl⟩
  | completed component output time =>
      have owned : component.jobId = job.id := under.ending.2.trans under.job.symm
      have new : Tables.NoComponent component.id {} := by simp [Tables.NoComponent]
      have made := Store.run_createComponent (freshAt 70) new owned
      have freshBehind : Tables.NoJob ({ job with progress := 70 } : Job).id
        (Tables.withComponent component {}) := freshAt 70
      have completed := Store.run_completeJob freshBehind output time
      exact ⟨_, _, _, created, _, _, begun, _, _, halfway, _, _, made, _, _, completed,
        _, _, Store.run_getJob fresh, rfl⟩

end Course

/-! ## The calls that a submission makes -/

/-- A state whose store holds the tables, behind so many identifiers drawn and behind
the operations. -/
structure ServiceState.IsBehind (state : ServiceState σ) (tables : Tables) (ids : Nat)
    (performed : List StoreOperation) : Prop extends state.IsAt tables ids where
  performed : state.performed = performed

namespace Service

open ServiceAction Tables

variable {service : Service σ} {state : ServiceState σ} {before : Tables} {job : Job} {ids : Nat}
  {performed : List StoreOperation}

theorem isBehind_newId (service : Service σ) (here : state.IsBehind before ids performed) :
    ∃ next, outcome service.newId state = (.ok (service.idOf (ids + 1)), next) ∧
      next.IsBehind before (ids + 1) performed := by
  rw [outcome_newId, here.ids]
  exact ⟨_, rfl, ⟨here.store, rfl⟩, here.performed⟩

theorem isBehind_now (service : Service σ) (here : state.IsBehind before ids performed) :
    ∃ time next, outcome service.now state = (.ok time, next) ∧
      next.IsBehind before ids performed :=
  ⟨_, _, outcome_now service state, ⟨here.store, here.ids⟩, here.performed⟩

/-- Converting calls nothing. -/
theorem isBehind_convert (service : Service σ) (here : state.IsBehind before ids performed)
    (css : Json) :
    ∃ answer next, outcome (service.convert css) state = (answer, next) ∧
      next.IsBehind before ids performed :=
  ⟨_, _, outcome_convert service state css, ⟨here.store, here.ids⟩, here.performed⟩

/-- An operation that reaches the store is called. -/
theorem performed_outcome_record (service : Service σ) (state : ServiceState σ)
    {operation : StoreOperation} (reaches : service.refusalOf operation = none) :
    (outcome (service.record operation) state).2.performed = state.performed ++ [operation] := by
  cases run : state.store.run operation with
  | mk answer store =>
      cases answer with
      | ok found => rw [outcome_record_of_ok reaches run]
      | error error => rw [outcome_record_of_error reaches run]

/-- Whatever is answered, the job is asked for. -/
theorem performed_outcome_stored (service : Service σ) (state : ServiceState σ) (asked : Job) :
    (outcome (service.stored asked) state).2.performed =
      state.performed ++ [.getJob asked.id] := by
  cases run : state.store.run (.getJob asked.id) with
  | mk answer store =>
      have performs : outcome (service.perform (.getJob asked.id)) state = _ :=
        outcome_perform rfl run
      cases answer with
      | error error => rw [stored, outcome_bind_of_error performs]
      | ok found =>
          rw [stored, outcome_bind_of_ok performs]
          cases found with
          | job found => cases found <;> rfl
          | _ => rfl

/-- An operation that the store takes comes behind the operations before. -/
theorem isBehind_record (here : state.IsBehind before ids performed) {operation : StoreOperation}
    {after : Tables} (reaches : service.refusalOf operation = none)
    (taken : ∃ next, outcome (service.record operation) state = (.ok (), next) ∧
      next.IsAt after ids) :
    ∃ next, outcome (service.record operation) state = (.ok (), next) ∧
      next.IsBehind after ids (performed ++ [operation]) := by
  obtain ⟨next, run, there⟩ := taken
  have called := performed_outcome_record service state reaches
  rw [run, here.performed] at called
  exact ⟨next, run, there, called⟩

/-- What working on a job has called: it stops with a problem behind the first or the second
record of progress, or it makes a component and completes the job. -/
inductive Worked (service : Service σ) (before : Tables) (job : Job) (ids : Nat)
    (performed : List StoreOperation) : Except Problem Unit × ServiceState σ → Prop
  | stopped {problem : Problem} {state : ServiceState σ} (progress : Int) (drawn : Nat)
      (here : state.IsBehind (before.withJob { job with progress := progress }) drawn
        (performed ++ [.updateProgress job.id 30])) :
      Worked service before job ids performed (.error problem, state)
  | stoppedLate {problem : Problem} {state : ServiceState σ} (progress : Int) (drawn : Nat)
      (here : state.IsBehind (before.withJob { job with progress := progress }) drawn
        (performed ++ [.updateProgress job.id 30] ++ [.updateProgress job.id 70])) :
      Worked service before job ids performed (.error problem, state)
  | finished {state : ServiceState σ} (component : ComponentRecord) (output : Json) (time : Text)
      (isId : component.id = service.idOf (ids + 1)) (owned : component.jobId = job.id)
      (performs : state.performed =
        performed ++ [.updateProgress job.id 30] ++ [.updateProgress job.id 70] ++
          [.createComponent component] ++ [.completeJob job.id output time]) :
      Worked service before job ids performed (.ok (), state)

theorem worked_process (here : state.IsBehind (before.withJob job) ids performed)
    (fresh : before.NoJob job.id) (new : before.NoComponent (service.idOf (ids + 1)))
    (css : Json) :
    Worked service before job ids performed (outcome (service.process job.id css) state) := by
  obtain ⟨begun, run, here⟩ := isBehind_record here rfl
    (exists_outcome_updateProgress service here.toIsAt fresh rfl (by decide : fits 30 = true))
  rw [process, outcome_bind_of_ok run]
  obtain ⟨converted, read, run, here⟩ := isBehind_convert service here css
  cases converted with
  | error problem =>
      rw [outcome_bind_of_error run]
      exact .stopped 30 ids here
  | ok conversion =>
      rw [outcome_bind_of_ok run]
      obtain ⟨halfway, run, here⟩ := isBehind_record here rfl
        (exists_outcome_updateProgress service here.toIsAt fresh rfl (by decide : fits 70 = true))
      rw [outcome_bind_of_ok run]
      obtain ⟨named, run, here⟩ := isBehind_newId service here
      rw [outcome_bind_of_ok run]
      obtain ⟨extractedAt, extracted, run, here⟩ := isBehind_now service here
      rw [outcome_bind_of_ok run]
      obtain ⟨createdAt, created, run, here⟩ := isBehind_now service here
      rw [outcome_bind_of_ok run]
      cases refusal : service.refusal with
      | some problem =>
          rw [outcome_bind_of_error (outcome_createComponent_of_refusal refusal _)]
          exact .stoppedLate 70 (ids + 1) here
      | none =>
          have new : before.NoComponent (componentOf job.id css (service.idOf (ids + 1))
            extractedAt createdAt conversion).id := new
          have takes := exists_outcome_createComponent here.toIsAt fresh rfl new rfl refusal
          have reaches (component : ComponentRecord) :
              service.refusalOf (.createComponent component) = none := refusal
          obtain ⟨stored, run, here⟩ := isBehind_record here (reaches _) takes
          rw [outcome_bind_of_ok run]
          obtain ⟨completedAt, timed, run, here⟩ := isBehind_now service here
          rw [outcome_bind_of_ok run]
          obtain ⟨ended, run, here⟩ := isBehind_record here rfl
            (exists_outcome_completeJob service here.toIsAt fresh rfl _ completedAt)
          rw [run]
          exact .finished _ _ completedAt rfl rfl here.performed

/-- A job that was stopped is recorded as failed, wherever it stands, if the problem that has
stopped it has a message that is a text. Otherwise this ends with a problem. -/
theorem exists_failing (service : Service σ) (fresh : before.NoJob job.id) (problem : Problem)
    (here : state.IsBehind (before.withJob job) ids performed) :
    (∃ error next, outcome (service.recordFailure job.id problem) state =
        (.error (.ofCharsetError error), next)) ∨
      ∃ (message time : Text) (next : ServiceState σ),
        outcome (service.recordFailure job.id problem) state = (.ok (), next) ∧
        next.performed = performed ++ [.failJob job.id message time] := by
  cases isMessage : Text.ofCodes problem.record with
  | error error =>
      obtain ⟨next, run, -⟩ :=
        exists_outcome_recordFailure_of_error service here.toIsAt job.id isMessage
      exact .inl ⟨error, next, run⟩
  | ok message =>
      obtain ⟨time, timed, run, here⟩ := isBehind_now service here
      rw [recordFailure, outcome_bind_of_ok run,
        outcome_bind_of_ok (outcome_encoded_of_ok isMessage)]
      have takes := Store.run_failJob fresh message time
      obtain ⟨next, run, here⟩ :=
        isBehind_record here rfl (exists_outcome_record here.toIsAt rfl takes)
      exact .inr ⟨message, time, next, run, here.performed⟩

/-- The calls of working on a job, with the record of what has stopped the work, unless that
has ended with a problem. -/
theorem exists_ending (here : state.IsBehind (before.withJob job) ids performed)
    (fresh : before.NoJob job.id) (new : before.NoComponent (service.idOf (ids + 1)))
    (css : Json) :
    (∃ problem next,
      outcome (tryCatch (service.process job.id css) (service.recordFailure job.id)) state =
        (.error problem, next)) ∨
    ∃ (ending : CourseEnd) (next : ServiceState σ),
      outcome (tryCatch (service.process job.id css) (service.recordFailure job.id)) state =
        (.ok (), next) ∧
      ending.IsUnder ⟨job.id, service.idOf (ids + 1)⟩ ∧
      next.performed = performed ++ [.updateProgress job.id 30] ++ ending.calls job.id := by
  have worked := worked_process here fresh new css
  generalize worksTo : outcome (service.process job.id css) state = result at worked
  cases worked with
  | @stopped problem stopped progress drawn here =>
      have freshStopped : before.NoJob ({ job with progress := progress } : Job).id := fresh
      have caught := outcome_tryCatch_of_error worksTo (service.recordFailure job.id)
      rcases exists_failing service freshStopped problem here with
        ⟨error, next, run⟩ | ⟨message, time, next, run, performs⟩
      · exact .inl ⟨_, next, caught.trans run⟩
      · exact .inr ⟨.failed message time, next, caught.trans run, trivial, performs⟩
  | @stoppedLate problem stopped progress drawn here =>
      have freshStopped : before.NoJob ({ job with progress := progress } : Job).id := fresh
      have caught := outcome_tryCatch_of_error worksTo (service.recordFailure job.id)
      rcases exists_failing service freshStopped problem here with
        ⟨error, next, run⟩ | ⟨message, time, next, run, performs⟩
      · exact .inl ⟨_, next, caught.trans run⟩
      · refine .inr ⟨.failedLate message time, next, caught.trans run, trivial, ?_⟩
        simp [performs, CourseEnd.calls]
  | @finished last component output time isId owned performs =>
      refine .inr ⟨.completed component output time, last, outcome_tryCatch_of_ok worksTo _,
        ⟨isId, owned⟩, ?_⟩
      simp [performs, CourseEnd.calls]

/-- A submission that is answered with a job calls the store as a course does. -/
theorem exists_course {css : Json} {text : Text}
    (accepted : CssText.check service.limit css = .ok text) (here : state.IsAt before ids)
    (fresh : before.NoJob (service.idOf (ids + 1)))
    (new : before.NoComponent (service.idOf (ids + 2))) {options : Json}
    (written : (inputOf css options).checkWritten = .ok ()) {user : Int}
    (fitting : fits user = true) {answer : Job}
    (answers : (outcome (service.submit css options user) state).1 = .ok answer) :
    ∃ course : Course, course.IsUnder ⟨service.idOf (ids + 1), service.idOf (ids + 2)⟩ ∧
      (outcome (service.submit css options user) state).2.performed =
        state.performed ++ course.calls := by
  have here : state.IsBehind before ids state.performed := ⟨here, rfl⟩
  rw [submit, outcome_bind_of_ok (outcome_checked_of_ok accepted)] at answers ⊢
  obtain ⟨named, run, here⟩ := isBehind_newId service here
  rw [outcome_bind_of_ok run] at answers ⊢
  obtain ⟨createdAt, timed, run, here⟩ := isBehind_now service here
  rw [outcome_bind_of_ok run] at answers ⊢
  have fresh : before.NoJob (jobOf (service.idOf (ids + 1)) css options user createdAt).id := fresh
  rw [← checkWritten_input_jobOf (service.idOf (ids + 1)) css options user createdAt] at written
  obtain ⟨created, run, here⟩ := isBehind_record here (refusalOf_createJob_of_written written)
    (exists_outcome_createJob service here.toIsAt written fresh (by decide : fits 0 = true) fitting)
  rw [outcome_bind_of_ok run] at answers ⊢
  rcases exists_ending here fresh new css with
    ⟨problem, next, run⟩ | ⟨ending, next, run, under, performs⟩
  · have run : outcome (tryCatch (service.process (service.idOf (ids + 1)) css)
        (service.recordFailure (service.idOf (ids + 1)))) created = (.error problem, next) := run
    rw [outcome_bind_of_error run] at answers
    cases answers
  · have run : outcome (tryCatch (service.process (service.idOf (ids + 1)) css)
        (service.recordFailure (service.idOf (ids + 1)))) created = (.ok (), next) := run
    rw [outcome_bind_of_ok run]
    refine ⟨⟨jobOf (service.idOf (ids + 1)) css options user createdAt, ending⟩,
      ⟨rfl, (by decide : fits 0 = true), fitting, under⟩, ?_⟩
    simp [performed_outcome_stored, performs, Course.calls]

end Service

end DesignExport
