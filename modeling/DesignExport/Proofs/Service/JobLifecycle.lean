/-
# The life of a job

A submission is refused before anything is recorded, or it makes one job and
brings it to its end: completed with the one component that it has made, or
failed without a component. This holds behind any number of submissions,
whatever the reader of sheets answers and whether or not the store takes
components, and rows of earlier submissions are never touched. It is asked of the
problems that they have messages which can be recorded.

What makes this work is that identifiers are drawn only once: all identifiers in
the tables were drawn before, so the next one is not among them.
-/

import DesignExport.Proofs.Encoding
import DesignExport.Proofs.Service.Submission
import DesignExport.Sheet.Reading
import Mathlib.Logic.Function.Basic

namespace DesignExport

variable {σ : Type}

/-! ## Identifiers -/

namespace Service

open Tables

variable {service : Service σ}

/-- The identifier is one of so many drawn. -/
def Drew (service : Service σ) (count : Nat) (id : Text) : Prop :=
  ∃ n, n ≤ count ∧ service.idOf n = id

theorem Drew.mono {count more : Nat} {id : Text} (drew : service.Drew count id)
    (le : count ≤ more) : service.Drew more id := by
  obtain ⟨n, drawn, isId⟩ := drew
  exact ⟨n, Nat.le_trans drawn le, isId⟩

/-- An identifier that comes later was not drawn. -/
theorem Drew.ne_of_lt (distinct : Function.Injective service.idOf) {count later : Nat} {id : Text}
    (drew : service.Drew count id) (lt : count < later) : id ≠ service.idOf later := by
  obtain ⟨n, drawn, rfl⟩ := drew
  intro same
  have := distinct same
  omega

/-- Tables whose rows have drawn identifiers. -/
structure DrewRows (service : Service σ) (count : Nat) (tables : Tables) : Prop where
  jobs : ∀ row ∈ tables.jobs, service.Drew count row.id
  components : ∀ row ∈ tables.components, service.Drew count row.id

variable {count : Nat} {tables : Tables}

theorem DrewRows.mono (drew : service.DrewRows count tables) {more : Nat} (le : count ≤ more) :
    service.DrewRows more tables where
  jobs := fun row within => (drew.jobs row within).mono le
  components := fun row within => (drew.components row within).mono le

theorem DrewRows.withJob (drew : service.DrewRows count tables) {job : Job}
    (drewJob : service.Drew count job.id) : service.DrewRows count (tables.withJob job) where
  jobs := List.forall_mem_append.mpr ⟨drew.jobs, by simpa using drewJob⟩
  components := drew.components

theorem DrewRows.withComponent (drew : service.DrewRows count tables)
    {component : ComponentRecord} (drewComponent : service.Drew count component.id) :
    service.DrewRows count (tables.withComponent component) where
  jobs := drew.jobs
  components := List.forall_mem_append.mpr ⟨drew.components, by simpa using drewComponent⟩

/-- No job has an identifier that comes later. -/
theorem DrewRows.noJob (drew : service.DrewRows count tables)
    (distinct : Function.Injective service.idOf) {later : Nat} (lt : count < later) :
    tables.NoJob (service.idOf later) :=
  fun row within => (drew.jobs row within).ne_of_lt distinct lt

/-- No component has an identifier that comes later. -/
theorem DrewRows.noComponent (drew : service.DrewRows count tables)
    (distinct : Function.Injective service.idOf) {later : Nat} (lt : count < later) :
    tables.NoComponent (service.idOf later) :=
  fun row within => (drew.components row within).ne_of_lt distinct lt

/-- Settled tables in which every identifier was drawn. -/
structure Keeps (service : Service σ) (count : Nat) (tables : Tables) : Prop
    extends service.DrewRows count tables where
  settled : tables.IsSettled
  owners : ∀ row ∈ tables.components, service.Drew count row.jobId

theorem Keeps.mono (keeps : service.Keeps count tables) {more : Nat} (le : count ≤ more) :
    service.Keeps more tables where
  toDrewRows := keeps.toDrewRows.mono le
  settled := keeps.settled
  owners := fun row within => (keeps.owners row within).mono le

theorem Keeps.withJob (keeps : service.Keeps count tables) {job : Job}
    (progress : job.progress = 100) (completedAt : job.completedAt ≠ [])
    (ended : tables.Ended job) (drew : service.Drew count job.id) :
    service.Keeps count (tables.withJob job) where
  toDrewRows := keeps.toDrewRows.withJob drew
  settled := keeps.settled.withJob progress completedAt ended
  owners := keeps.owners

theorem Keeps.withComponent (keeps : service.Keeps count tables) {component : ComponentRecord}
    (fresh : tables.NoJob component.jobId) (drew : service.Drew count component.id)
    (owner : service.Drew count component.jobId) :
    service.Keeps count (tables.withComponent component) where
  toDrewRows := keeps.toDrewRows.withComponent drew
  settled := keeps.settled.withComponent fresh
  owners := List.forall_mem_append.mpr ⟨keeps.owners, by simpa using owner⟩

/-- A completed job and its component can come together. -/
theorem Keeps.withCompleted (keeps : service.Keeps count tables) {job : Job}
    {component : ComponentRecord} (fresh : tables.NoJob job.id) (unowned : tables.NoOwner job.id)
    (progress : job.progress = 100) (completedAt : job.completedAt ≠ [])
    (status : job.status = .completed) (reports : job.Reports component)
    (owned : component.jobId = job.id) (drew : service.Drew count job.id)
    (drewComponent : service.Drew count component.id) :
    service.Keeps count ((tables.withComponent component).withJob job) := by
  have only : (tables.withComponent component).componentsOfJob job.id = [component] := by
    rw [← owned] at unowned ⊢
    exact componentsOfJob_withComponent unowned
  rw [← owned] at fresh
  have owner : service.Drew count component.jobId := by rwa [owned]
  exact (keeps.withComponent fresh drewComponent owner).withJob progress completedAt
    (.completed component status only reports) drew

/-- A failed job can come alone. -/
theorem Keeps.withFailed (keeps : service.Keeps count tables) {job : Job}
    (unowned : tables.NoOwner job.id) (progress : job.progress = 100)
    (completedAt : job.completedAt ≠ []) (status : job.status = .failed)
    (output : job.output = .null) (drew : service.Drew count job.id) :
    service.Keeps count (tables.withJob job) :=
  keeps.withJob progress completedAt (.failed status output (componentsOfJob_eq_nil unowned)) drew

end Service

/-! ## Problems that can be recorded -/

/-- What is to be recorded about a problem is a text. -/
def Problem.IsRecordable (problem : Problem) : Prop := Text.IsUnbroken problem.record

instance (problem : Problem) : Decidable problem.IsRecordable :=
  inferInstanceAs (Decidable (Text.IsUnbroken problem.record))

theorem Problem.isRecordable_ofText (kind message : Text) : (ofText kind message).IsRecordable := by
  rw [IsRecordable, ofText, record]
  split_ifs
  · exact Text.isUnbroken_codes kind
  · exact Text.isUnbroken_codes message

theorem Problem.not_isRecordable {problem : Problem} {error : Text.CharsetError}
    (broken : Text.ofCodes problem.record = .error error) : ¬problem.IsRecordable := by
  intro recordable
  rw [Text.ofCodes_of_isUnbroken recordable] at broken
  cases broken

/-- Whatever the reading of sheets stops with can be recorded. -/
def Service.ReadsRecordably (service : Service σ) : Prop :=
  ∀ text reader problem, (service.readSheet text reader).1 = .error problem → problem.IsRecordable

/-- Where texts are not encoded, there is a problem of codes that are a text. -/
theorem Service.isRecordable_of_encodingProblem {service : Service σ} {css : Json}
    {problem : Problem} (broken : service.encodingProblem css = some problem) :
    problem.IsRecordable := by
  unfold encodingProblem at broken
  split at broken
  · split at broken
    · cases broken
    · split_ifs at broken
      obtain rfl := Option.some.inj broken
      exact Problem.isRecordable_ofText _ _
  · cases broken

/-- What stops the work on a job can be recorded if that holds of the reading of sheets and of
the store that takes no component. -/
theorem Service.isRecordable_of_stopping? {service : Service σ} {css : Json} {text : Text}
    (accepted : CssText.check service.limit css = .ok text) (reads : service.ReadsRecordably)
    (recordable : ∀ problem ∈ service.refusal, problem.IsRecordable) {reader : σ}
    {problem : Problem} (stops : service.stopping? css reader = some problem) :
    problem.IsRecordable := by
  cases converts : (service.converted css reader).1 with
  | ok conversion =>
      rw [stopping?_of_ok converts] at stops
      exact recordable problem stops
  | error found =>
      rw [stopping?_of_error converts] at stops
      obtain rfl := Option.some.inj stops
      cases broken : service.encodingProblem css with
      | some problem =>
          rw [converted_of_problem accepted broken] at converts
          obtain rfl := Except.error.inj converts
          exact isRecordable_of_encodingProblem broken
      | none =>
          rw [converted_of_ok accepted broken] at converts
          cases isRead : (service.readSheet (Sanitizer.sanitize text) reader).1 with
          | ok sheet =>
              rw [isRead] at converts
              cases converts
          | error stopped =>
              rw [isRead] at converts
              obtain rfl := Except.error.inj converts
              exact reads _ _ _ isRead

/-! ## Submissions -/

/-- Refused input is a fault of validation. -/
theorem CssRefusal.kind_fault (refusal : CssRefusal) : refusal.fault.kind = .validation := by
  cases refusal with
  | missing => exact Fault.kind_make _ _ _
  | tooLong limit length => exact Fault.kind_make _ _ _
  | unbalanced opening closing => exact Fault.kind_make _ _ _

/-- A submission, and the problem of a store that takes no components in its time. -/
structure Submission where
  css : Json
  options : Json
  user : Int
  refusal : Option Problem := none

/-- A service in the time of a submission. -/
def Service.during (service : Service σ) (submission : Submission) : Service σ :=
  { service with refusal := submission.refusal }

namespace Submission

/-- What is to be recorded of a submission. -/
def input (submission : Submission) : Json :=
  Service.inputOf submission.css submission.options

/-- What a submission comes to from a state. -/
def outcome (submission : Submission) (service : Service σ) (state : ServiceState σ) :
    Except Problem Job × ServiceState σ :=
  ServiceAction.outcome
    ((service.during submission).submit submission.css submission.options submission.user) state

/-- What the user is told and what has become of the tables: the refusal of the style sheet
or of an input without a written form, and the same tables; or a job that has ended and has
the input as it is read back, and the tables with this job behind the others and no component
changed. -/
inductive Answered (submission : Submission) (limit : Int) (before after : Tables) :
    Except Problem Job → Prop
  | refused (refusal : CssRefusal) (rejected : CssText.check limit submission.css = .error refusal)
      (validation : refusal.fault.kind = .validation) (unchanged : after = before) :
      Answered submission limit before after (.error (.fault refusal.fault))
  | unwritten (error : Json.WriteError)
      (accepted : ∃ text, CssText.check limit submission.css = .ok text)
      (tooLarge : submission.input.written = .error error) (unchanged : after = before) :
      Answered submission limit before after (.error (.ofWriteError error))
  | recorded (job : Job) (accepted : ∃ text, CssText.check limit submission.css = .ok text)
      (written : submission.input.written = .ok submission.input.write)
      (input : job.input = submission.input.joined)
      (progress : job.progress = 100) (completedAt : job.completedAt ≠ [])
      (ended : after.Ended job) (added : after.jobs = before.jobs ++ [job])
      (kept : before.components <+: after.components) :
      Answered submission limit before after (.ok job)

end Submission

/-- The state behind submissions one after the other. -/
def Service.stateAfter (service : Service σ) (state : ServiceState σ)
    (history : List Submission) : ServiceState σ :=
  history.foldl (fun state submission => (submission.outcome service state).2) state

/-- A submission of a user whom the store can record, in the time of a store whose refusal of
components, if there is one, can be recorded. -/
structure Submission.IsUsual (submission : Submission) : Prop where
  fits : Tables.fits submission.user = true
  recordable : ∀ problem ∈ submission.refusal, problem.IsRecordable

open Service Tables

variable {service : Service σ} {state : ServiceState σ} {before : Tables}

/-- One submission answers as it should, and keeps the tables settled. -/
theorem Submission.exists_answered (distinct : Function.Injective service.idOf)
    (timed : ∀ n, service.timeOf n ≠ []) (reads : service.ReadsRecordably)
    {submission : Submission} (usual : submission.IsUsual) (keeps : service.Keeps state.ids before)
    (store : state.store = .ready before) :
    ∃ after : Tables, (submission.outcome service state).2.store = .ready after ∧
      service.Keeps (submission.outcome service state).2.ids after ∧
      submission.Answered service.limit before after (submission.outcome service state).1 := by
  have here : state.IsAt before state.ids := ⟨store, rfl⟩
  have fresh : before.NoJob (service.idOf (state.ids + 1)) :=
    keeps.noJob distinct (by omega)
  have new : before.NoComponent (service.idOf (state.ids + 2)) :=
    keeps.noComponent distinct (by omega)
  have attempted : Attempted (service.during submission) before submission.css submission.options
      submission.user state state.ids (submission.outcome service state) :=
    @attempted_submit _ (service.during submission) _ _ _ here fresh new _ _ _
  generalize submission.outcome service state = result at attempted ⊢
  cases attempted with
  | rejected refusal rejected =>
      exact ⟨before, store, keeps, .refused refusal rejected refusal.kind_fault rfl⟩
  | unwritten text error accepted unwritten here =>
      have unwritten : submission.input.written = .error error := by
        rw [Json.written, input, unwritten]
        rfl
      exact ⟨before, here.store, here.ids ▸ keeps.mono (Nat.le_succ _),
        .unwritten error ⟨text, accepted⟩ unwritten rfl⟩
  | tooLarge text accepted written tooLarge => cases usual.fits.symm.trans tooLarge
  | submitted text accepted isWritten fitting submitted =>
      have written : submission.input.written = .ok submission.input.write := by
        rw [Json.written, input, isWritten]
        rfl
      have unowned : before.NoOwner (service.idOf (state.ids + 1)) :=
        fun row within => (keeps.owners row within).ne_of_lt distinct (by omega)
      cases submitted with
      | @completed job next conversion component time id isInput progress completedAt status
          converted takes made output here =>
          obtain ⟨extractedAt, createdAt, rfl⟩ := made
          have reports : job.Reports _ := ⟨conversion.stats, output⟩
          have timed : job.completedAt ≠ [] := by
            rw [completedAt]
            exact timed time
          have keepsJob : service.Keeps (state.ids + 2) _ :=
            (keeps.mono (by omega)).withCompleted (id ▸ fresh) (id ▸ unowned) progress timed status
              reports rfl ⟨_, by omega, id.symm⟩ ⟨_, by omega, rfl⟩
          exact ⟨_, here.store, keepsJob.mono (Nat.le_of_eq here.ids.symm),
            .recorded job ⟨text, accepted⟩ written isInput progress timed
              (keepsJob.settled.ended job (by simp [Tables.withJob])) rfl ⟨[_], rfl⟩⟩
      | @failed job next problem drawn time id isInput progress completedAt status reason
          errorMessage output here =>
          have timed : job.completedAt ≠ [] := by
            rw [completedAt]
            exact timed time
          have keepsJob : service.Keeps (state.ids + 1 + drawn) _ :=
            (keeps.mono (by omega)).withFailed (id ▸ unowned) progress timed status output
              ⟨_, by omega, id.symm⟩
          rw [← here.ids] at keepsJob
          exact ⟨_, here.store, keepsJob, .recorded job ⟨text, accepted⟩ written isInput progress
            timed (keepsJob.settled.ended job (by simp [Tables.withJob])) rfl (List.prefix_refl _)⟩
      | @stranded job next error problem drawn id isInput status reason broken here =>
          have recordable := isRecordable_of_stopping? accepted reads usual.recordable reason
          exact absurd recordable (Problem.not_isRecordable broken)

/-- Submissions one after the other keep the tables settled. -/
theorem Service.exists_stateAfter (distinct : Function.Injective service.idOf)
    (timed : ∀ n, service.timeOf n ≠ []) (reads : service.ReadsRecordably)
    {history : List Submission} (usual : ∀ submission ∈ history, submission.IsUsual)
    (keeps : service.Keeps state.ids before) (store : state.store = .ready before) :
    ∃ after : Tables, (service.stateAfter state history).store = .ready after ∧
      service.Keeps (service.stateAfter state history).ids after := by
  induction history generalizing state before with
  | nil => exact ⟨before, store, keeps⟩
  | cons submission later ih =>
      obtain ⟨usualFirst, usual⟩ := List.forall_mem_cons.mp usual
      obtain ⟨after, store, keeps, -⟩ :=
        Submission.exists_answered distinct timed reads usualFirst keeps store
      exact ih usual keeps store

/-- A service that has just begun keeps its empty tables. -/
theorem Service.keeps_empty (service : Service σ) : service.Keeps 0 {} where
  settled := ⟨by simp, by simp, by simp⟩
  jobs := by simp
  components := by simp
  owners := by simp

/-- Arrays within arrays, on so many levels. -/
def Json.nested : Nat → Json
  | 0 => .null
  | levels + 1 => .array [nested levels]

end DesignExport
