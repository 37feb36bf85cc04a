/-
# What a failed job says

A job that has failed records the problem that has stopped it: the one of the conversion, the
one of a store that takes no component, or a refusal of the store. Nothing else is asked of
the store here than that it has the job, so this holds whatever rows and identifiers are
there: every action of a submission leaves a job under its identifier, and only the record
of a failure makes it a failed one.

What is recorded is the message of the problem. Where an unexpected problem has none, the
name of its kind takes its place; a fault without a message is recorded as it is, and its
job says nothing. A message that is no text is not recorded, but then the submission is not
answered with a job.
-/

import DesignExport.Proofs.Encoding
import DesignExport.Proofs.Service.Outcome
import DesignExport.Proofs.Store.Separation

namespace DesignExport

variable {σ : Type}

/-! ## Problems of which nothing is recorded -/

/-- Every refusal of the store has a message. -/
theorem StoreError.message_ne_nil (error : StoreError) : error.message ≠ [] := by
  cases error with
  | noTable table | duplicateId table => cases table <;> decide +kernel
  | notConnected | integerTooLarge | missingJob => decide +kernel

namespace Problem

/-- A fault without a message, or an unexpected problem with neither message nor kind. -/
def IsSilent : Problem → Prop
  | fault given => given.message = []
  | store _ => False
  | unexpected kind message => message = [] ∧ kind = []

theorem record_eq_nil_iff (problem : Problem) : problem.record = [] ↔ problem.IsSilent := by
  cases problem with
  | fault given => rfl
  | store error =>
      exact iff_of_false (fun none => error.message_ne_nil (List.map_eq_nil_iff.mp none)) id
  | unexpected kind message =>
      rw [record, IsSilent]
      cases message <;> simp [Text.codes]

end Problem

/-- A job shows no message to its user exactly when none is recorded. -/
theorem Job.errorMessage_shown_null_iff (job : Job) :
    job.toJson.member? "errorMessage" = some .null ↔ job.errorMessage = [] := by
  have shown : job.toJson.member? "errorMessage" = some (.ofNonEmpty job.errorMessage) := rfl
  rw [shown, Json.ofNonEmpty]
  cases job.errorMessage <;> simp

/-- Only a store with its tables takes a job, and it has the job then. -/
theorem Store.exists_of_run_createJob {store after : Store} {job : Job} {answer : StoreAnswer}
    (run : store.run (.createJob job) = (.ok answer, after)) :
    ∃ tables, after = .ready tables ∧ tables.job? job.id = some job := by
  cases store with
  | closed | bare => cases run
  | ready before =>
      cases added : before.addJob job with
      | error error => simp [Store.run, Store.change, Store.tables, Except.bind, added] at run
      | ok tables =>
          obtain ⟨-, unused, rfl⟩ := Tables.addJob_eq_ok.mp added
          have taken : (Store.ready before).run (.createJob job) =
            (.ok .done, .ready (before.withJob job)) := Store.change_ready_eq_ok.mpr ⟨rfl, added⟩
          rw [taken] at run
          cases run
          exact ⟨_, rfl, Tables.job?_withJob (Tables.noJob_of_job?_eq_none unused)⟩

/-! ## The job of a submission -/

/-- The store has its tables, and under the identifier a job of which something holds. -/
def ServiceState.HasJob (id : Text) (state : ServiceState σ)
    (holds : Job → Prop := fun _ => True) : Prop :=
  ∃ tables job, state.store = .ready tables ∧ tables.job? id = some job ∧ holds job

namespace Service

open ServiceAction

variable (service : Service σ) (css : Json) (reader : σ) (id : Text)

/-- The problem that stops the work on a job: the one of the conversion, and behind a
conversion the one of a store that takes no component, or a refusal of the component. -/
def Stops (problem : Problem) : Prop :=
  match (service.converted css reader).1 with
  | .error found => problem = found
  | .ok _ => match service.refusal with
    | some found => problem = found
    | none => ∃ error, problem = .store error

/-- How a job stands that has come to its end: it is completed, or failed with the record of
the problem that has stopped it. -/
def EndedBy (job : Job) : Prop :=
  job.status = .completed ∨
    ∃ problem, service.Stops css reader problem ∧ job.status = .failed ∧
      Text.ofCodes problem.record = .ok job.errorMessage

/-- A state in which the work on a job has stopped: the job is there. -/
def Stopped (problem : Problem) (state : ServiceState σ) : Prop :=
  state.HasJob id ∧ service.Stops css reader problem

variable {id} {failure : Problem → ServiceState σ → Prop}

/-- The store takes a change of the job, which leaves the job in its place. -/
theorem meets_change {operation : StoreOperation} {change : Job → Job} {after : Job → Prop}
    (reaches : service.refusalOf operation = none)
    (takes : ∀ tables, (Store.ready tables).run operation =
      (.ok .done, .ready (tables.changeJob id change)))
    (keeps : ∀ job, (change job).id = job.id) (changes : ∀ job, after (change job)) :
    Meets (fun state => state.HasJob id) (service.record operation)
      (fun _ state => state.HasJob id after) failure := by
  rintro state ⟨tables, job, isReady, found, -⟩
  have run := takes tables
  rw [← isReady] at run
  rw [outcome_record_of_ok reaches run]
  refine ⟨_, change job, rfl, ?_, changes job⟩
  rw [Tables.job?_changeJob keeps, found]
  simp

theorem meets_updateProgress {progress : Int} (fitting : Tables.fits progress = true) :
    Meets (fun state => state.HasJob id) (service.record (.updateProgress id progress))
      (fun _ state => state.HasJob id) failure :=
  service.meets_change rfl
    (fun _ => Store.change_ready_eq_ok.mpr ⟨rfl, Tables.setProgress_eq_ok.mpr ⟨fitting, rfl⟩⟩)
    (fun _ => rfl) fun _ => trivial

theorem meets_completeJob (output : Json) (time : Text) :
    Meets (fun state => state.HasJob id) (service.record (.completeJob id output time))
      (fun _ state => state.HasJob id fun job => job.status = .completed) failure :=
  service.meets_change rfl (fun _ => Store.run_completeJob_eq_ok.mpr ⟨rfl, rfl⟩) (fun _ => rfl)
    fun _ => rfl

theorem meets_failJob (message time : Text) :
    Meets (fun state => state.HasJob id) (service.record (.failJob id message time))
      (fun _ state => state.HasJob id fun job =>
        job.status = .failed ∧ job.errorMessage = message) failure :=
  service.meets_change rfl (fun _ => Store.run_failJob_eq_ok.mpr ⟨rfl, rfl⟩) (fun _ => rfl)
    fun _ => ⟨rfl, rfl⟩

/-- Behind a conversion, only the component can be refused. -/
theorem meets_createComponent {conversion : Conversion}
    (converts : (service.converted css reader).1 = .ok conversion) (component : ComponentRecord) :
    Meets (fun state => state.HasJob id) (service.record (.createComponent component))
      (fun _ state => state.HasJob id) (service.Stopped css reader id) := by
  rintro state ⟨tables, job, isReady, found, -⟩
  cases refusal : service.refusal with
  | some problem =>
      rw [outcome_createComponent_of_refusal refusal]
      refine ⟨⟨tables, job, isReady, found, trivial⟩, ?_⟩
      rw [Stops, converts, refusal]
  | none =>
      have reaches : service.refusalOf (.createComponent component) = none := refusal
      cases made : tables.addComponent component with
      | error error =>
          have run : state.store.run (.createComponent component) =
              (.error error, .ready tables) := by
            simp [isReady, Store.run, Store.change, Store.tables, Except.bind, made]
          rw [outcome_record_of_error reaches run]
          refine ⟨⟨tables, job, rfl, found, trivial⟩, ?_⟩
          rw [Stops, converts, refusal]
          exact ⟨error, rfl⟩
      | ok next =>
          have run : (Store.ready tables).run (.createComponent component) =
            (.ok .done, .ready next) := Store.change_ready_eq_ok.mpr ⟨rfl, made⟩
          obtain ⟨-, -, rfl⟩ := Tables.addComponent_eq_ok.mp made
          rw [← isReady] at run
          rw [outcome_record_of_ok reaches run]
          exact ⟨_, job, rfl, found, trivial⟩

theorem meets_convert :
    Meets (fun state => state.HasJob id ∧ state.reader = reader) (service.convert css)
      (fun conversion state => state.HasJob id ∧
        (service.converted css reader).1 = .ok conversion) (service.Stopped css reader id) := by
  rintro state ⟨there, rfl⟩
  rw [outcome_convert]
  cases converts : (service.converted css state.reader).1 with
  | ok conversion => exact ⟨there, rfl⟩
  | error problem =>
      refine ⟨there, ?_⟩
      rw [Stops, converts]

theorem meets_newId :
    Meets (fun state => state.HasJob id) service.newId (fun _ state => state.HasJob id) failure :=
  fun _ there => there

theorem meets_now :
    Meets (fun state => state.HasJob id) service.now (fun _ state => state.HasJob id) failure :=
  fun _ there => there

/-- The work on a job completes it, or stops and leaves it. -/
theorem meets_process :
    Meets (fun state => state.HasJob id ∧ state.reader = reader) (service.process id css)
      (fun _ state => state.HasJob id fun job => job.status = .completed)
      (service.Stopped css reader id) := by
  rw [process]
  refine ((service.meets_updateProgress (by decide : Tables.fits 30 = true)).withReader
    (reader_outcome_record service · _) reader).bind fun _ => ?_
  refine (service.meets_convert css reader).bind fun conversion => ?_
  refine Meets.assuming fun converts => ?_
  refine (service.meets_updateProgress (by decide : Tables.fits 70 = true)).bind fun _ => ?_
  refine service.meets_newId.bind fun componentId => ?_
  refine service.meets_now.bind fun extractedAt => service.meets_now.bind fun createdAt => ?_
  refine (service.meets_createComponent css reader converts _).bind fun _ => ?_
  exact service.meets_now.bind fun completedAt => service.meets_completeJob _ completedAt

/-- What is recorded is a text, and the job stays in its place. -/
theorem meets_encoded (codes : List Nat) :
    Meets (fun state : ServiceState σ => state.HasJob id) (encoded codes)
      (fun text state => state.HasJob id ∧ Text.ofCodes codes = .ok text) (fun _ _ => True) := by
  intro state there
  cases isText : Text.ofCodes codes with
  | ok text =>
      rw [outcome_encoded_of_ok isText]
      exact ⟨there, rfl⟩
  | error error =>
      rw [outcome_encoded_of_error isText]
      trivial

/-- A job whose work has stopped is recorded as failed, if the problem can be recorded. -/
theorem meets_recordFailure (problem : Problem) :
    Meets (service.Stopped css reader id problem) (service.recordFailure id problem)
      (fun _ state => state.HasJob id (service.EndedBy css reader)) (fun _ _ => True) := by
  refine Meets.assuming fun stops => ?_
  rw [recordFailure]
  refine service.meets_now.bind fun time => ?_
  refine (meets_encoded problem.record).bind fun message => ?_
  refine Meets.assuming fun isMessage => ?_
  refine (service.meets_failJob message time).mono (fun _ state => ?_) fun _ _ held => held
  rintro ⟨tables, job, isReady, found, failed, isRecorded⟩
  exact ⟨tables, job, isReady, found, .inr ⟨problem, stops, failed, isRecorded ▸ isMessage⟩⟩

/-- Behind the work on a job and the record of what has stopped it, the job has ended. -/
theorem meets_work :
    Meets (fun state => state.HasJob id ∧ state.reader = reader)
      (tryCatch (service.process id css) (service.recordFailure id))
      (fun _ state => state.HasJob id (service.EndedBy css reader)) (fun _ _ => True) := by
  refine Meets.tryCatch ?_ (service.meets_recordFailure css reader)
  refine (service.meets_process css reader).mono (fun _ state => ?_) fun _ _ held => held
  rintro ⟨tables, job, isReady, found, completed⟩
  exact ⟨tables, job, isReady, found, .inl completed⟩

/-! ## One submission -/

/-- A job that is stored is there afterwards. -/
theorem meets_createJob (job : Job) :
    Meets (fun state => state.reader = reader) (service.record (.createJob job))
      (fun _ state => state.HasJob job.id ∧ state.reader = reader) (fun _ _ => True) := by
  have created : Meets (fun _ => True) (service.record (.createJob job))
      (fun _ state => state.HasJob job.id) (fun _ _ => True) := by
    rintro state -
    cases written : job.input.checkWritten with
    | error error =>
        rw [outcome_record_of_refusal (refusalOf_createJob_of_unwritten written)]
        trivial
    | ok =>
    have reaches := service.refusalOf_createJob_of_written written
    cases run : state.store.run (.createJob job) with
    | mk answer store =>
        cases answer with
        | error error =>
            rw [outcome_record_of_error reaches run]
            trivial
        | ok found =>
            rw [outcome_record_of_ok reaches run]
            obtain ⟨tables, isReady, stored⟩ := Store.exists_of_run_createJob run
            exact ⟨tables, job, isReady, stored, trivial⟩
  have followed := created.withReader (reader_outcome_record service · _) reader
  exact fun state isReader => followed state ⟨trivial, isReader⟩

/-- A job that is there is the answer. -/
theorem meets_stored {id : Text} {asked : Job} (isAsked : asked.id = id) (holds : Job → Prop) :
    Meets (fun state => state.HasJob id holds) (service.stored asked) (fun job _ => holds job)
      (fun _ _ => True) := by
  subst isAsked
  rintro state ⟨tables, job, isReady, found, held⟩
  have run : state.store.run (.getJob asked.id) = (.ok (.job (some job)), state.store) := by
    rw [isReady]
    exact Store.ask_ready_eq_ok.mpr ⟨by rw [found], rfl⟩
  rw [stored, outcome_bind_of_ok (outcome_perform rfl run)]
  exact held

/-- A job that a submission answers has ended: it is completed, or failed with the record of
the problem that has stopped it. -/
theorem meets_submit (options : Json) (user : Int) :
    Meets (fun state => state.reader = reader) (service.submit css options user)
      (fun job _ => service.EndedBy css reader job) (fun _ _ => True) := by
  have checks : Meets (fun state => state.reader = reader) (service.checked css)
      (fun _ state => state.reader = reader) (fun _ _ => True) := by
    rintro state isReader
    cases checked : CssText.check service.limit css with
    | ok text =>
        rw [outcome_checked_of_ok checked]
        exact isReader
    | error refusal =>
        rw [outcome_checked_of_error checked]
        trivial
  have names : Meets (fun state => state.reader = reader) service.newId
      (fun _ state => state.reader = reader) (fun _ _ => True) := fun _ isReader => isReader
  have times : Meets (fun state => state.reader = reader) service.now
      (fun _ state => state.reader = reader) (fun _ _ => True) := fun _ isReader => isReader
  rw [submit]
  refine checks.bind fun _ => names.bind fun id => times.bind fun createdAt => ?_
  refine (service.meets_createJob reader (jobOf id css options user createdAt)).bind fun _ => ?_
  exact (service.meets_work css reader).bind fun _ => service.meets_stored rfl _

end Service

/-- A failed job that a submission answers records the problem of its conversion, of a store
that takes no component, or of a refused operation. Its user is shown no message exactly when
the problem is a fault without a message, or an unexpected problem with neither message nor
kind. -/
theorem failed_job_shows_no_message_iff {service : Service σ} {state next : ServiceState σ}
    {css options : Json} {user : Int} {job : Job}
    (run : ServiceAction.outcome (service.submit css options user) state = (.ok job, next))
    (failed : job.status = .failed) :
    ∃ problem, service.Stops css state.reader problem ∧
      Text.ofCodes problem.record = .ok job.errorMessage ∧
      (job.toJson.member? "errorMessage" = some .null ↔ problem.IsSilent) := by
  rcases (service.meets_submit css state.reader options user).answer rfl run with
    completed | ⟨problem, stops, -, message⟩
  · rw [completed] at failed
    cases failed
  · refine ⟨problem, stops, message, ?_⟩
    obtain ⟨-, isMessage⟩ := Text.ofCodes_eq_ok_iff.mp message
    rw [job.errorMessage_shown_null_iff, ← isMessage, List.map_eq_nil_iff,
      problem.record_eq_nil_iff]

/-- An unexpected problem without a message, which is recorded by its kind. -/
theorem failed_job_shows_no_message_iff_unexpected :
    let service : Service Unit :=
      { readSheet := fun _ reader => (.error (.unexpected "KeyError" []), reader)
        idOf := fun n => List.replicate n '0'
        timeOf := fun n => List.replicate n '0' }
    let css : Json := .text ".a { b: c }"
    ∃ job next, ServiceAction.outcome (service.submit css .null 1) { reader := () } =
        (.ok job, next) ∧ job.status = .failed ∧
      ∃ problem, service.Stops css () problem ∧
        Text.ofCodes problem.record = .ok job.errorMessage ∧
        (job.toJson.member? "errorMessage" = some .null ↔ problem.IsSilent) := by
  intro service css
  have fails : ∃ job next, ServiceAction.outcome (service.submit css .null 1) { reader := () } =
      (.ok job, next) ∧ job.status = .failed := ⟨_, _, rfl, rfl⟩
  obtain ⟨job, next, run, failed⟩ := fails
  exact ⟨job, next, run, failed, failed_job_shows_no_message_iff run failed⟩

/-- A fault without a message that stops the reading of an accepted text leaves a failed job
that tells its user nothing. -/
theorem fault_without_message_not_told :
    let service : Service Unit :=
      { readSheet := fun _ reader => (.error (.fault (Fault.make .processing [])), reader)
        idOf := fun n => List.replicate n '0'
        timeOf := fun n => List.replicate n '0' }
    let css : Json := .text ".a { b: c }"
    ∃ job next, ServiceAction.outcome (service.submit css .null 1) { reader := () } =
        (.ok job, next) ∧ job.status = .failed ∧ job.errorMessage = [] ∧
      job.toJson.member? "errorMessage" = some .null :=
  ⟨_, _, rfl, rfl, rfl, rfl⟩

end DesignExport
