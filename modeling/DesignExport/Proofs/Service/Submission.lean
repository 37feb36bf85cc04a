/-
# One submission

A submission that is not refused makes a job and works on it until it has ended.
The job is the newest row all along, so each action is followed on that row
alone. Working stops when the text cannot be converted or the store takes no
component, and either way the job is still there to be recorded as failed. That
record needs a message that is a text. Without one the submission is stranded: it
breaks off, and its job is never ended.

No job is made where the input of the job has no written form, or the store cannot
hold its user.
-/

import DesignExport.Proofs.Json.JoinedHalves
import DesignExport.Proofs.Service.Outcome
import DesignExport.Proofs.Store.Settled

namespace DesignExport

variable {σ : Type}

/-- A state whose store holds the tables, behind so many identifiers drawn. -/
structure ServiceState.IsAt (state : ServiceState σ) (tables : Tables) (ids : Nat) : Prop where
  store : state.store = .ready tables
  ids : state.ids = ids

namespace Service

open ServiceAction Tables

variable {service : Service σ} {state : ServiceState σ} {before : Tables} {job : Job} {id : Text}
  {ids : Nat}

/-! ## Working on the newest job -/

theorem exists_outcome_newId (service : Service σ) (here : state.IsAt before ids) :
    ∃ next, outcome service.newId state = (.ok (service.idOf (ids + 1)), next) ∧
      next.IsAt before (ids + 1) := by
  rw [outcome_newId, here.ids]
  exact ⟨_, rfl, here.store, rfl⟩

theorem exists_outcome_now (service : Service σ) (here : state.IsAt before ids) :
    ∃ time next, outcome service.now state = (.ok (service.timeOf time), next) ∧
      next.IsAt before ids :=
  ⟨state.times + 1, _, outcome_now service state, here.store, here.ids⟩

/-- An operation that the store takes leads to the tables that the store has then. -/
theorem exists_outcome_record (here : state.IsAt before ids) {operation : StoreOperation}
    {answer : StoreAnswer} {after : Tables} (reaches : service.refusalOf operation = none)
    (run : (Store.ready before).run operation = (.ok answer, .ready after)) :
    ∃ next, outcome (service.record operation) state = (.ok (), next) ∧ next.IsAt after ids := by
  rw [← here.store] at run
  exact ⟨_, outcome_record_of_ok reaches run, rfl, here.ids⟩

theorem exists_outcome_updateProgress (service : Service σ)
    (here : state.IsAt (before.withJob job) ids) (fresh : before.NoJob id) (isJob : job.id = id)
    {progress : Int} (fitting : fits progress = true) :
    ∃ next, outcome (service.record (.updateProgress id progress)) state = (.ok (), next) ∧
      next.IsAt (before.withJob { job with progress := progress }) ids := by
  subst isJob
  exact exists_outcome_record here rfl (Store.run_updateProgress fresh fitting)

theorem exists_outcome_createComponent (here : state.IsAt (before.withJob job) ids)
    (fresh : before.NoJob id) (isJob : job.id = id) {component : ComponentRecord}
    (new : before.NoComponent component.id) (owned : component.jobId = id)
    (takes : service.refusal = none) :
    ∃ next, outcome (service.record (.createComponent component)) state = (.ok (), next) ∧
      next.IsAt ((before.withComponent component).withJob job) ids := by
  subst isJob
  exact exists_outcome_record here takes (Store.run_createComponent fresh new owned)

theorem exists_outcome_completeJob (service : Service σ)
    (here : state.IsAt (before.withJob job) ids) (fresh : before.NoJob id) (isJob : job.id = id)
    (output : Json) (time : Text) :
    ∃ next, outcome (service.record (.completeJob id output time)) state = (.ok (), next) ∧
      next.IsAt (before.withJob { job with status := .completed, progress := 100
                                           output := output, completedAt := time }) ids := by
  subst isJob
  exact exists_outcome_record here rfl (Store.run_completeJob fresh output time)

theorem exists_outcome_recordFailure (service : Service σ)
    (here : state.IsAt (before.withJob job) ids) (fresh : before.NoJob id) (isJob : job.id = id)
    {problem : Problem} {message : Text} (isText : Text.ofCodes problem.record = .ok message) :
    ∃ time next, outcome (service.recordFailure id problem) state = (.ok (), next) ∧
      next.IsAt (before.withJob { job with status := .failed, progress := 100
                                           errorMessage := message
                                           completedAt := service.timeOf time }) ids := by
  subst isJob
  obtain ⟨time, timed, run, here⟩ := exists_outcome_now service here
  rw [recordFailure, outcome_bind_of_ok run, outcome_bind_of_ok (outcome_encoded_of_ok isText)]
  exact ⟨time, exists_outcome_record here rfl (Store.run_failJob fresh message _)⟩

/-- A message that is no text is not recorded, and the tables stay as they are. -/
theorem exists_outcome_recordFailure_of_error (service : Service σ) (here : state.IsAt before ids)
    (id : Text) {problem : Problem} {error : Text.CharsetError}
    (broken : Text.ofCodes problem.record = .error error) :
    ∃ next, outcome (service.recordFailure id problem) state =
      (.error (.ofCharsetError error), next) ∧ next.IsAt before ids := by
  obtain ⟨time, timed, run, here⟩ := exists_outcome_now service here
  rw [recordFailure, outcome_bind_of_ok run]
  exact ⟨timed, outcome_bind_of_error (outcome_encoded_of_error broken) _, here⟩

/-- The problem that stops the work on a job whose identifiers are new: the one of the
conversion, or else the one of a store that takes no component. -/
def stopping? (service : Service σ) (css : Json) (reader : σ) : Option Problem :=
  match (service.converted css reader).1 with
  | .error problem => some problem
  | .ok _ => service.refusal

theorem stopping?_of_error {css : Json} {reader : σ} {problem : Problem}
    (stops : (service.converted css reader).1 = .error problem) :
    service.stopping? css reader = some problem := by
  rw [stopping?, stops]

theorem stopping?_of_ok {css : Json} {reader : σ} {conversion : Conversion}
    (converts : (service.converted css reader).1 = .ok conversion) :
    service.stopping? css reader = service.refusal := by
  rw [stopping?, converts]

/-- What working on a job comes to: it stops because the input cannot be converted or the
store takes no component, with only the progress of the job changed; or it ends with one
more component, made from the conversion, and the job completed. -/
inductive Processed (service : Service σ) (before : Tables) (job : Job) (css : Json) (reader : σ)
    (ids : Nat) : Except Problem Unit × ServiceState σ → Prop
  | stopped {problem : Problem} {state : ServiceState σ} (progress : Int) (drawn : Nat)
      (reason : service.stopping? css reader = some problem)
      (here : state.IsAt (before.withJob { job with progress := progress }) (ids + drawn)) :
      Processed service before job css reader ids (.error problem, state)
  | finished {state : ServiceState σ} (conversion : Conversion) (extractedAt createdAt : Text)
      (time : Nat) (converted : (service.converted css reader).1 = .ok conversion)
      (takes : service.refusal = none)
      (here : state.IsAt
        ((before.withComponent (componentOf job.id css (service.idOf (ids + 1)) extractedAt
          createdAt conversion)).withJob
          { job with status := .completed, progress := 100
                     output := outputOf (componentOf job.id css (service.idOf (ids + 1)) extractedAt
                       createdAt conversion) conversion
                     completedAt := service.timeOf time }) (ids + 1)) :
      Processed service before job css reader ids (.ok (), state)

theorem processed_process (here : state.IsAt (before.withJob job) ids)
    (fresh : before.NoJob job.id) (new : before.NoComponent (service.idOf (ids + 1)))
    (css : Json) :
    Processed service before job css state.reader ids
      (outcome (service.process job.id css) state) := by
  obtain ⟨begun, run, here⟩ := exists_outcome_updateProgress service here fresh rfl
    (by decide : fits 30 = true)
  have sameReader : begun.reader = state.reader := by
    rw [← reader_outcome_record service state _, run]
  rw [process, outcome_bind_of_ok run]
  have run := outcome_convert service begun css
  have here :
      ServiceState.IsAt { begun with reader := (service.converted css begun.reader).2 } _ _ :=
    ⟨here.store, here.ids⟩
  rw [sameReader] at run here
  cases converts : (service.converted css state.reader).1 with
  | error problem =>
      rw [converts] at run
      rw [outcome_bind_of_error run]
      exact .stopped 30 0 (stopping?_of_error converts) here
  | ok conversion =>
      rw [converts] at run
      rw [outcome_bind_of_ok run]
      obtain ⟨halfway, run, here⟩ := exists_outcome_updateProgress service here fresh rfl
        (by decide : fits 70 = true)
      rw [outcome_bind_of_ok run]
      obtain ⟨named, run, here⟩ := exists_outcome_newId service here
      rw [outcome_bind_of_ok run]
      obtain ⟨extractedAt, extracted, run, here⟩ := exists_outcome_now service here
      rw [outcome_bind_of_ok run]
      obtain ⟨createdAt, created, run, here⟩ := exists_outcome_now service here
      rw [outcome_bind_of_ok run]
      cases refusal : service.refusal with
      | some problem =>
          rw [outcome_bind_of_error (outcome_createComponent_of_refusal refusal _)]
          exact .stopped 70 1 ((stopping?_of_ok converts).trans refusal) here
      | none =>
          have new : before.NoComponent (componentOf job.id css (service.idOf (ids + 1))
            (service.timeOf extractedAt) (service.timeOf createdAt) conversion).id := new
          obtain ⟨stored, run, here⟩ :=
            exists_outcome_createComponent here fresh rfl new rfl refusal
          rw [outcome_bind_of_ok run]
          obtain ⟨completedAt, timed, run, here⟩ := exists_outcome_now service here
          rw [outcome_bind_of_ok run]
          obtain ⟨ended, run, here⟩ := exists_outcome_completeJob service here fresh rfl _ _
          rw [run]
          exact .finished conversion _ _ completedAt converts refusal here

/-! ## One submission -/

theorem outcome_submit_of_error {css : Json} {refusal : CssRefusal}
    (rejected : CssText.check service.limit css = .error refusal) (options : Json) (user : Int) :
    outcome (service.submit css options user) state = (.error (.fault refusal.fault), state) := by
  rw [submit, outcome_bind_of_error (outcome_checked_of_error rejected)]

theorem exists_outcome_createJob (service : Service σ) (here : state.IsAt before ids)
    (written : job.input.checkWritten = .ok ()) (fresh : before.NoJob job.id)
    (progress : fits job.progress = true) (user : fits job.userId = true) :
    ∃ next, outcome (service.record (.createJob job)) state = (.ok (), next) ∧
      next.IsAt (before.withJob job) ids :=
  exists_outcome_record here (refusalOf_createJob_of_written written)
    (Store.run_createJob fresh progress user)

/-- The input that a job keeps is written exactly when what was submitted is. -/
theorem checkWritten_input_jobOf (id : Text) (css options : Json) (user : Int) (createdAt : Text) :
    (jobOf id css options user createdAt).input.checkWritten =
      (inputOf css options).checkWritten := Json.checkWritten_joined _

/-- The newest job is the answer, whatever was known of it. -/
theorem exists_outcome_stored (service : Service σ) (here : state.IsAt (before.withJob job) ids)
    {asked : Job} (fresh : before.NoJob asked.id) (isJob : job.id = asked.id) :
    ∃ next, outcome (service.stored asked) state = (.ok job, next) ∧
      next.IsAt (before.withJob job) ids := by
  rw [← isJob] at fresh
  have run := Store.run_getJob fresh
  rw [← here.store, isJob] at run
  have reaches : service.refusalOf (.getJob asked.id) = none := rfl
  exact ⟨_, outcome_bind_of_ok (outcome_perform reaches run) _, here.store, here.ids⟩

/-- A submission whose job is not made changes no table. -/
theorem exists_outcome_submit_of_no_job {css : Json} {text : Text}
    (accepted : CssText.check service.limit css = .ok text) (here : state.IsAt before ids)
    (options : Json) (user : Int) {problem : Problem}
    (refused : ∀ (time : Text) (state : ServiceState σ), state.IsAt before (ids + 1) →
      ∃ next, outcome (service.record (.createJob
        (jobOf (service.idOf (ids + 1)) css options user time))) state = (.error problem, next) ∧
        next.IsAt before (ids + 1)) :
    ∃ next, outcome (service.submit css options user) state = (.error problem, next) ∧
      next.IsAt before (ids + 1) := by
  rw [submit, outcome_bind_of_ok (outcome_checked_of_ok accepted)]
  obtain ⟨named, run, here⟩ := exists_outcome_newId service here
  rw [outcome_bind_of_ok run]
  obtain ⟨createdAt, timed, run, here⟩ := exists_outcome_now service here
  rw [outcome_bind_of_ok run]
  obtain ⟨next, run, here⟩ := refused _ timed here
  exact ⟨next, outcome_bind_of_error run _, here⟩

/-- An accepted submission whose input has no written form changes no table. -/
theorem exists_outcome_submit_of_unwritten {css : Json} {text : Text}
    (accepted : CssText.check service.limit css = .ok text) (here : state.IsAt before ids)
    {options : Json} {error : Json.WriteError}
    (unwritten : (inputOf css options).checkWritten = .error error) (user : Int) :
    ∃ next, outcome (service.submit css options user) state =
      (.error (.ofWriteError error), next) ∧ next.IsAt before (ids + 1) := by
  apply exists_outcome_submit_of_no_job accepted here
  intro time state here
  rw [← checkWritten_input_jobOf (service.idOf (ids + 1)) css options user time] at unwritten
  exact ⟨state, outcome_record_of_refusal (refusalOf_createJob_of_unwritten unwritten), here⟩

/-- An accepted submission of a user whom the store cannot record changes no table. -/
theorem exists_outcome_submit_of_not_fits {css : Json} {text : Text}
    (accepted : CssText.check service.limit css = .ok text) (here : state.IsAt before ids)
    {options : Json} (written : (inputOf css options).checkWritten = .ok ()) {user : Int}
    (tooLarge : fits user = false) :
    ∃ next, outcome (service.submit css options user) state =
      (.error (.store .integerTooLarge), next) ∧ next.IsAt before (ids + 1) := by
  apply exists_outcome_submit_of_no_job accepted here
  intro time state here
  rw [← checkWritten_input_jobOf (service.idOf (ids + 1)) css options user time] at written
  have refused : (Store.ready before).run (.createJob (jobOf (service.idOf (ids + 1)) css options
      user time)) = (.error .integerTooLarge, .ready before) :=
    Store.run_createJob_of_not_fits tooLarge
  rw [← here.store] at refused
  exact ⟨_, outcome_record_of_error (refusalOf_createJob_of_written written) refused, here.store,
    here.ids⟩

/-- What an accepted submission comes to: a job, made from what was submitted, that is
completed with one more component made from the conversion, or failed with the problem
that has stopped it. Where this problem cannot be recorded, the job is stranded. -/
inductive Submitted (service : Service σ) (before : Tables) (css options : Json) (reader : σ)
    (ids : Nat) : Except Problem Job × ServiceState σ → Prop
  | completed {job : Job} {state : ServiceState σ} (conversion : Conversion)
      (component : ComponentRecord) (time : Nat) (id : job.id = service.idOf (ids + 1))
      (isInput : job.input = (inputOf css options).joined)
      (progress : job.progress = 100) (completedAt : job.completedAt = service.timeOf time)
      (status : job.status = .completed)
      (converted : (service.converted css reader).1 = .ok conversion)
      (takes : service.refusal = none)
      (made : ∃ extractedAt createdAt, component =
        componentOf job.id css (service.idOf (ids + 2)) extractedAt createdAt conversion)
      (output : job.output = outputOf component conversion)
      (here : state.IsAt ((before.withComponent component).withJob job) (ids + 2)) :
      Submitted service before css options reader ids (.ok job, state)
  | failed {job : Job} {state : ServiceState σ} (problem : Problem) (drawn time : Nat)
      (id : job.id = service.idOf (ids + 1))
      (isInput : job.input = (inputOf css options).joined)
      (progress : job.progress = 100) (completedAt : job.completedAt = service.timeOf time)
      (status : job.status = .failed)
      (reason : service.stopping? css reader = some problem)
      (errorMessage : Text.ofCodes problem.record = .ok job.errorMessage)
      (output : job.output = .null)
      (here : state.IsAt (before.withJob job) (ids + 1 + drawn)) :
      Submitted service before css options reader ids (.ok job, state)
  | stranded {job : Job} {state : ServiceState σ} {error : Text.CharsetError} (problem : Problem)
      (drawn : Nat) (id : job.id = service.idOf (ids + 1))
      (isInput : job.input = (inputOf css options).joined) (status : job.status = .processing)
      (reason : service.stopping? css reader = some problem)
      (broken : Text.ofCodes problem.record = .error error)
      (here : state.IsAt (before.withJob job) (ids + 1 + drawn)) :
      Submitted service before css options reader ids (.error (.ofCharsetError error), state)

theorem submitted_submit {css : Json} {text : Text}
    (accepted : CssText.check service.limit css = .ok text) (here : state.IsAt before ids)
    (fresh : before.NoJob (service.idOf (ids + 1)))
    (new : before.NoComponent (service.idOf (ids + 2))) {options : Json}
    (written : (inputOf css options).checkWritten = .ok ()) {user : Int}
    (fitting : fits user = true) :
    Submitted service before css options state.reader ids
      (outcome (service.submit css options user) state) := by
  rw [submit, outcome_bind_of_ok (outcome_checked_of_ok accepted)]
  obtain ⟨named, run, here⟩ := exists_outcome_newId service here
  have namedReader : named.reader = state.reader := by
    rw [← reader_outcome_newId service state, run]
  rw [outcome_bind_of_ok run]
  obtain ⟨createdAt, timed, run, here⟩ := exists_outcome_now service here
  have timedReader : timed.reader = state.reader := by
    rw [← namedReader, ← reader_outcome_now service named, run]
  rw [outcome_bind_of_ok run]
  have fresh : before.NoJob (jobOf (service.idOf (ids + 1)) css options user
    (service.timeOf createdAt)).id := fresh
  rw [← checkWritten_input_jobOf (service.idOf (ids + 1)) css options user
    (service.timeOf createdAt)] at written
  obtain ⟨created, run, here⟩ := exists_outcome_createJob service here written fresh
    (by decide : fits 0 = true) fitting
  have sameReader : created.reader = state.reader := by
    rw [← timedReader, ← reader_outcome_record service timed _, run]
  rw [outcome_bind_of_ok run]
  have worked : Processed service before _ css created.reader (ids + 1)
      (outcome (service.process (service.idOf (ids + 1)) css) created) :=
    processed_process here fresh new css
  rw [sameReader] at worked
  generalize worksTo : outcome (service.process _ css) created = result at worked
  cases worked with
  | @stopped problem stopped progress drawn reason here =>
      have caught := outcome_tryCatch_of_error worksTo
        (service.recordFailure (service.idOf (ids + 1)))
      cases isMessage : Text.ofCodes problem.record with
      | ok message =>
          obtain ⟨time, failed, run, here⟩ :=
            exists_outcome_recordFailure service here fresh rfl isMessage
          obtain ⟨answered, answers, here⟩ := exists_outcome_stored service here fresh rfl
          rw [outcome_bind_of_ok (caught.trans run), answers]
          exact .failed problem drawn time rfl rfl rfl rfl rfl reason isMessage rfl here
      | error error =>
          obtain ⟨broken, run, here⟩ := exists_outcome_recordFailure_of_error service here
            (service.idOf (ids + 1)) isMessage
          rw [outcome_bind_of_error (caught.trans run)]
          exact .stranded problem drawn rfl rfl rfl reason isMessage here
  | finished conversion extractedAt createdAt time converted takes here =>
      have caught := outcome_tryCatch_of_ok worksTo
        (service.recordFailure (service.idOf (ids + 1)))
      obtain ⟨answered, run, here⟩ := exists_outcome_stored service here fresh rfl
      rw [outcome_bind_of_ok caught, run]
      exact .completed conversion _ time rfl rfl rfl rfl rfl converted takes
        ⟨extractedAt, createdAt, rfl⟩ rfl here

/-- Everything that a submission can come to: its style sheet is refused, or there is no job
because its input has no written form or its user is too large, or there is a job. -/
inductive Attempted (service : Service σ) (before : Tables) (css options : Json) (user : Int)
    (state : ServiceState σ) (ids : Nat) : Except Problem Job × ServiceState σ → Prop
  | rejected (refusal : CssRefusal) (rejected : CssText.check service.limit css = .error refusal) :
      Attempted service before css options user state ids (.error (.fault refusal.fault), state)
  | unwritten {next : ServiceState σ} (text : Text) (error : Json.WriteError)
      (accepted : CssText.check service.limit css = .ok text)
      (unwritten : (inputOf css options).checkWritten = .error error)
      (here : next.IsAt before (ids + 1)) :
      Attempted service before css options user state ids (.error (.ofWriteError error), next)
  | tooLarge {next : ServiceState σ} (text : Text)
      (accepted : CssText.check service.limit css = .ok text)
      (written : (inputOf css options).checkWritten = .ok ()) (tooLarge : fits user = false)
      (here : next.IsAt before (ids + 1)) :
      Attempted service before css options user state ids (.error (.store .integerTooLarge), next)
  | submitted {result : Except Problem Job × ServiceState σ} (text : Text)
      (accepted : CssText.check service.limit css = .ok text)
      (written : (inputOf css options).checkWritten = .ok ()) (fitting : fits user = true)
      (submitted : Submitted service before css options state.reader ids result) :
      Attempted service before css options user state ids result

theorem attempted_submit (here : state.IsAt before ids)
    (fresh : before.NoJob (service.idOf (ids + 1)))
    (new : before.NoComponent (service.idOf (ids + 2))) (css options : Json) (user : Int) :
    Attempted service before css options user state ids
      (outcome (service.submit css options user) state) := by
  cases accepted : CssText.check service.limit css with
  | error refusal =>
      rw [outcome_submit_of_error accepted]
      exact .rejected refusal accepted
  | ok text =>
  cases written : (inputOf css options).checkWritten with
  | error error =>
      obtain ⟨next, run, here⟩ := exists_outcome_submit_of_unwritten accepted here written user
      rw [run]
      exact .unwritten text error accepted written here
  | ok =>
  cases fitting : fits user with
  | false =>
      obtain ⟨next, run, here⟩ := exists_outcome_submit_of_not_fits accepted here written fitting
      rw [run]
      exact .tooLarge text accepted written fitting here
  | true =>
      exact .submitted text accepted written fitting
        (submitted_submit accepted here fresh new written fitting)

end Service

end DesignExport
