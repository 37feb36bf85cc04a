/-
# What the actions of a service come to

An action answers or stops with a problem, and either way leaves a state. The
facts here say so for the ways of combining actions and for each action of a
service, so that a submission is followed action by action without opening the
definitions below it.
-/

import DesignExport.Service.Basic
import Mathlib.Logic.Basic

namespace DesignExport

variable {σ α β : Type}

/-- What an action comes to from a state: its answer or problem, and the state
behind it. -/
def ServiceAction.outcome (action : ServiceAction σ α) (state : ServiceState σ) :
    Except Problem α × ServiceState σ :=
  action.run.run state

namespace ServiceAction

theorem outcome_get (state : ServiceState σ) :
    outcome (get : ServiceAction σ (ServiceState σ)) state = (.ok state, state) := rfl

theorem outcome_bind_of_ok {action : ServiceAction σ α} {state next : ServiceState σ} {value : α}
    (run : outcome action state = (.ok value, next)) (more : α → ServiceAction σ β) :
    outcome (action >>= more) state = outcome (more value) next := by
  rw [outcome] at run
  rw [outcome, ExceptT.run_bind, StateT.run_bind, run]
  rfl

theorem outcome_bind_of_error {action : ServiceAction σ α} {state next : ServiceState σ}
    {problem : Problem} (run : outcome action state = (.error problem, next))
    (more : α → ServiceAction σ β) :
    outcome (action >>= more) state = (.error problem, next) := by
  rw [outcome] at run
  rw [outcome, ExceptT.run_bind, StateT.run_bind, run]
  rfl

/-- What is made of the answer of an action changes no state. -/
theorem outcome_map (action : ServiceAction σ α) (make : α → β) (state : ServiceState σ) :
    outcome (do pure (make (← action))) state =
      ((outcome action state).1.map make, (outcome action state).2) := by
  cases run : outcome action state with
  | mk answer next =>
      cases answer with
      | ok value => exact outcome_bind_of_ok run _
      | error problem => exact outcome_bind_of_error run _

theorem outcome_tryCatch_of_ok {action : ServiceAction σ α} {state next : ServiceState σ}
    {value : α} (run : outcome action state = (.ok value, next))
    (handle : Problem → ServiceAction σ α) :
    outcome (tryCatch action handle) state = (.ok value, next) := by
  rw [outcome] at run
  rw [outcome, ExceptT.run_tryCatch, StateT.run_bind, run]
  rfl

theorem outcome_tryCatch_of_error {action : ServiceAction σ α} {state next : ServiceState σ}
    {problem : Problem} (run : outcome action state = (.error problem, next))
    (handle : Problem → ServiceAction σ α) :
    outcome (tryCatch action handle) state = outcome (handle problem) next := by
  rw [outcome] at run
  rw [outcome, ExceptT.run_tryCatch, StateT.run_bind, run]
  rfl

/-! ## Contracts -/

/-- From every state as required, the action answers as `post` says or stops with a problem
as `failure` says. -/
def Meets (pre : ServiceState σ → Prop) (action : ServiceAction σ α)
    (post : α → ServiceState σ → Prop) (failure : Problem → ServiceState σ → Prop) : Prop :=
  ∀ state, pre state →
    match outcome action state with
    | (.ok value, next) => post value next
    | (.error problem, next) => failure problem next

variable {pre : ServiceState σ → Prop} {post : α → ServiceState σ → Prop}
  {failure : Problem → ServiceState σ → Prop} {action : ServiceAction σ α}

theorem Meets.bind {more : α → ServiceAction σ β} {last : β → ServiceState σ → Prop}
    (first : Meets pre action post failure)
    (second : ∀ value, Meets (post value) (more value) last failure) :
    Meets pre (action >>= more) last failure := by
  intro state required
  have begun := first state required
  cases run : outcome action state with
  | mk answer next =>
      rw [run] at begun
      cases answer with
      | ok value =>
          rw [outcome_bind_of_ok run]
          exact second value next begun
      | error problem =>
          rw [outcome_bind_of_error run]
          exact begun

theorem Meets.tryCatch {handle : Problem → ServiceAction σ α}
    {between : Problem → ServiceState σ → Prop} (first : Meets pre action post between)
    (second : ∀ problem, Meets (between problem) (handle problem) post failure) :
    Meets pre (tryCatch action handle) post failure := by
  intro state required
  have begun := first state required
  cases run : outcome action state with
  | mk answer next =>
      rw [run] at begun
      cases answer with
      | ok value =>
          rw [outcome_tryCatch_of_ok run]
          exact begun
      | error problem =>
          rw [outcome_tryCatch_of_error run]
          exact second problem next begun

/-- What is known whatever the state may be assumed for the action. -/
theorem Meets.assuming {known : Prop} (meets : known → Meets pre action post failure) :
    Meets (fun state => pre state ∧ known) action post failure :=
  fun state ⟨required, holds⟩ => meets holds state required

theorem Meets.mono {weaker : α → ServiceState σ → Prop} {stopped : Problem → ServiceState σ → Prop}
    (meets : Meets pre action post failure)
    (weakens : ∀ value state, post value state → weaker value state)
    (weakensFailure : ∀ problem state, failure problem state → stopped problem state) :
    Meets pre action weaker stopped := by
  intro state required
  have met := meets state required
  generalize outcome action state = result at met ⊢
  obtain ⟨answer, next⟩ := result
  cases answer with
  | ok value => exact weakens value next met
  | error problem => exact weakensFailure problem next met

/-- An action that leaves the reader alone can be followed with the reader in mind. -/
theorem Meets.withReader (meets : Meets pre action post failure)
    (same : ∀ state, (outcome action state).2.reader = state.reader) (reader : σ) :
    Meets (fun state => pre state ∧ state.reader = reader) action
      (fun value state => post value state ∧ state.reader = reader) failure := by
  rintro state ⟨required, rfl⟩
  have met := meets state required
  have isReader := same state
  generalize outcome action state = result at met isReader ⊢
  obtain ⟨answer, next⟩ := result
  cases answer with
  | ok value => exact ⟨met, isReader⟩
  | error problem => exact met

/-- From every state in which it holds, the action leaves a state in which it holds, whatever
the answer. -/
def Keeps (invariant : ServiceState σ → Prop) (action : ServiceAction σ α) : Prop :=
  Meets invariant action (fun _ => invariant) fun _ => invariant

theorem keeps_iff {invariant : ServiceState σ → Prop} :
    Keeps invariant action ↔ ∀ state, invariant state → invariant (outcome action state).2 := by
  refine forall₂_congr fun state held => ?_
  generalize outcome action state = result
  obtain ⟨answer, next⟩ := result
  cases answer <;> exact Iff.rfl

/-- An action keeps what holds of a part of the state that it leaves alone. -/
theorem Keeps.of_eq {part : ServiceState σ → β} {holds : β → Prop}
    (same : ∀ state, part (outcome action state).2 = part state) :
    Keeps (fun state => holds (part state)) action :=
  keeps_iff.mpr fun state held => by rwa [same state]

/-- What holds of an answer. -/
theorem Meets.answer (meets : Meets pre action post failure) {state next : ServiceState σ}
    {value : α} (required : pre state) (run : outcome action state = (.ok value, next)) :
    post value next := by
  have met := meets state required
  rwa [run] at met

end ServiceAction

namespace Service

open ServiceAction

variable (service : Service σ) (state : ServiceState σ)

theorem outcome_newId :
    outcome service.newId state =
      (.ok (service.idOf (state.ids + 1)), { state with ids := state.ids + 1 }) := rfl

theorem outcome_now :
    outcome service.now state =
      (.ok (service.timeOf (state.times + 1)), { state with times := state.times + 1 }) := rfl

theorem reader_outcome_newId : (outcome service.newId state).2.reader = state.reader := rfl

theorem reader_outcome_now : (outcome service.now state).2.reader = state.reader := rfl

/-- No operation on the store touches the reader. -/
theorem reader_outcome_perform (operation : StoreOperation) :
    (outcome (service.perform operation) state).2.reader = state.reader := by
  rw [perform]
  cases service.refusalOf operation with
  | some problem => rfl
  | none =>
      dsimp only
      rw [outcome_bind_of_ok (outcome_get state)]
      cases state.store.run operation with
      | mk answer store => cases answer <;> rfl

theorem reader_outcome_record (operation : StoreOperation) :
    (outcome (service.record operation) state).2.reader = state.reader := by
  have performs := reader_outcome_perform service state operation
  rw [record]
  cases run : outcome (service.perform operation) state with
  | mk answer next =>
      rw [run] at performs
      cases answer with
      | error problem => rw [outcome_bind_of_error run, performs]
      | ok found => rw [outcome_bind_of_ok run, ← performs]; rfl

variable {service state}

/-- An operation that reaches the store leaves the store's own answer and store. -/
theorem outcome_perform {operation : StoreOperation} {answer : Except StoreError StoreAnswer}
    {store : Store} (reaches : service.refusalOf operation = none)
    (run : state.store.run operation = (answer, store)) :
    outcome (service.perform operation) state =
      (answer.mapError Problem.store,
        { state with store := store, performed := state.performed ++ [operation] }) := by
  rw [perform, reaches]
  dsimp only
  rw [outcome_bind_of_ok (outcome_get state), run]
  cases answer with
  | ok found => rfl
  | error error => rfl

theorem outcome_record_of_ok {operation : StoreOperation} {answer : StoreAnswer} {store : Store}
    (reaches : service.refusalOf operation = none)
    (run : state.store.run operation = (.ok answer, store)) :
    outcome (service.record operation) state =
      (.ok (),
        { state with store := store, performed := state.performed ++ [operation] }) :=
  outcome_bind_of_ok (outcome_perform reaches run) _

theorem outcome_record_of_error {operation : StoreOperation} {error : StoreError} {store : Store}
    (reaches : service.refusalOf operation = none)
    (run : state.store.run operation = (.error error, store)) :
    outcome (service.record operation) state =
      (.error (.store error),
        { state with store := store, performed := state.performed ++ [operation] }) :=
  outcome_bind_of_error (outcome_perform reaches run) _

theorem outcome_record_of_refusal {operation : StoreOperation} {problem : Problem}
    (refused : service.refusalOf operation = some problem) :
    outcome (service.record operation) state = (.error problem, state) := by
  rw [record, perform, refused]
  rfl

theorem outcome_createComponent_of_refusal {problem : Problem}
    (refused : service.refusal = some problem) (component : ComponentRecord) :
    outcome (service.record (.createComponent component)) state = (.error problem, state) :=
  outcome_record_of_refusal refused

/-! ## Inputs that are written, and messages that are texts -/

theorem refusalOf_createJob_of_written {job : Job} (written : job.input.checkWritten = .ok ()) :
    service.refusalOf (.createJob job) = none := by
  rw [refusalOf, written]

theorem refusalOf_createJob_of_unwritten {job : Job} {error : Json.WriteError}
    (unwritten : job.input.checkWritten = .error error) :
    service.refusalOf (.createJob job) = some (.ofWriteError error) := by
  rw [refusalOf, unwritten]

theorem outcome_encoded_of_ok {codes : List Nat} {text : Text}
    (isText : Text.ofCodes codes = .ok text) :
    outcome (encoded codes) state = (.ok text, state) := by
  rw [encoded, isText]
  rfl

theorem outcome_encoded_of_error {codes : List Nat} {error : Text.CharsetError}
    (broken : Text.ofCodes codes = .error error) :
    outcome (encoded codes) state = (.error (.ofCharsetError error), state) := by
  rw [encoded, broken]
  rfl

/-! ## Conversions -/

theorem outcome_checked_of_ok {css : Json} {text : Text}
    (accepted : CssText.check service.limit css = .ok text) :
    outcome (service.checked css) state = (.ok text, state) := by
  rw [checked, accepted]
  rfl

theorem outcome_checked_of_error {css : Json} {refusal : CssRefusal}
    (rejected : CssText.check service.limit css = .error refusal) :
    outcome (service.checked css) state = (.error (.fault refusal.fault), state) := by
  rw [checked, rejected]
  rfl

theorem outcome_read (service : Service σ) (state : ServiceState σ) (text : Text) :
    outcome (service.read text) state =
      ((service.readSheet text state.reader).1,
        { state with reader := (service.readSheet text state.reader).2 }) := by
  have reads : ∀ answer, service.readSheet text state.reader = answer →
      outcome (service.read text) state = (answer.1, { state with reader := answer.2 }) := by
    rintro ⟨sheet, reader⟩ isRead
    rw [Service.read, outcome_bind_of_ok (outcome_get state), isRead]
    cases sheet with
    | ok sheet => rfl
    | error problem => rfl
  exact reads _ rfl

/-- What converting CSS input comes to, and the reader behind it. -/
def converted (service : Service σ) (css : Json) (reader : σ) : Except Problem Conversion × σ :=
  match CssText.check service.limit css, service.encodingProblem css with
  | .error refusal, _ => (.error (.fault refusal.fault), reader)
  | .ok _, some problem => (.error problem, reader)
  | .ok text, none =>
    let answer := service.readSheet (Sanitizer.sanitize text) reader
    (answer.1.map Conversion.ofSheet, answer.2)

theorem converted_of_error {css : Json} {refusal : CssRefusal}
    (rejected : CssText.check service.limit css = .error refusal) (reader : σ) :
    service.converted css reader = (.error (.fault refusal.fault), reader) := by
  rw [converted, rejected]

theorem converted_of_problem {css : Json} {text : Text} {problem : Problem}
    (accepted : CssText.check service.limit css = .ok text)
    (broken : service.encodingProblem css = some problem) (reader : σ) :
    service.converted css reader = (.error problem, reader) := by
  rw [converted, accepted, broken]

theorem converted_of_ok {css : Json} {text : Text}
    (accepted : CssText.check service.limit css = .ok text)
    (whole : service.encodingProblem css = none) (reader : σ) :
    service.converted css reader =
      ((service.readSheet (Sanitizer.sanitize text) reader).1.map Conversion.ofSheet,
        (service.readSheet (Sanitizer.sanitize text) reader).2) := by
  rw [converted, accepted, whole]

/-- Converting touches nothing but the state of the reader. -/
theorem outcome_convert (service : Service σ) (state : ServiceState σ) (css : Json) :
    outcome (service.convert css) state =
      ((service.converted css state.reader).1,
        { state with reader := (service.converted css state.reader).2 }) := by
  rw [convert]
  cases accepted : CssText.check service.limit css with
  | error refusal =>
      rw [outcome_bind_of_error (outcome_checked_of_error accepted), converted_of_error accepted]
  | ok text =>
      rw [outcome_bind_of_ok (outcome_checked_of_ok accepted)]
      cases broken : service.encodingProblem css with
      | some problem =>
          rw [converted_of_problem accepted broken]
          rfl
      | none =>
          change outcome (service.read _ >>= _) state = _
          rw [converted_of_ok accepted broken]
          have read := outcome_read service state (Sanitizer.sanitize text)
          generalize service.readSheet (Sanitizer.sanitize text) state.reader = answer at read ⊢
          obtain ⟨sheet, reader⟩ := answer
          cases sheet with
          | error problem => exact outcome_bind_of_error read _
          | ok sheet => exact outcome_bind_of_ok read _

end Service

end DesignExport
