/-
# How requests are handled

The path and the method of a request decide whether a resource is visited. What a
visit comes to is said here resource by resource: looking something up asks the store
one question and changes no table, a preview touches the reader alone, and a submission
is what the service makes of it, once its body and its user could be read.
-/

import DesignExport.Proofs.Service.Submission
import DesignExport.Web.Basic

namespace DesignExport.Web

open Service ServiceAction

variable {σ : Type} {app : App σ} {request : Request} {state : ServiceState σ}

/-! ## Responses -/

namespace Response

/-- The response to an answer or a problem; for the method that asks for the head of a
response it goes without its body. -/
def shown (method : Method) (answer : Except Problem Response) : Response :=
  let response := match answer with
    | .ok response => response
    | .error problem => ofProblem problem
  if method = .head then { response with body := none } else response

theorem status_shown_ok (method : Method) (response : Response) :
    (shown method (.ok response)).status = response.status := by
  rw [shown]
  split <;> rfl

theorem status_shown_error (method : Method) (problem : Problem) :
    (shown method (.error problem)).status = (ofProblem problem).status := by
  rw [shown]
  split <;> rfl

/-- A problem is answered with the status of an error. -/
theorem le_status_ofProblem (problem : Problem) : 400 ≤ (ofProblem problem).status := by
  cases problem with
  | fault fault =>
      have error : ∀ category, 400 ≤ statusOf category := by
        intro category
        cases category <;> decide
      exact error fault.category
  | store error => exact (by decide : 400 ≤ 500)
  | unexpected kind message => exact (by decide : 400 ≤ 500)

/-- A fault of validation is answered with its summary. -/
theorem ofProblem_of_validation {fault : Fault} (validation : fault.kind = .validation) :
    ofProblem (.fault fault) = json 400 fault.summary := by
  rw [ofProblem, Fault.category, validation]
  rfl

/-- The response to an accepted submission. -/
def accepted (job : Job) : Response :=
  json 202 (.object [("jobId", .text job.id), ("status", .text job.status.name)])

end Response

/-- A problem that nobody handles is an error of the server without a body. -/
def Uncaught (problem : Problem) : Prop := Response.ofProblem problem = .bare 500

/-- A problem of encoding is not handled. -/
theorem uncaught_encodingProblem {service : Service σ} {css : Json} {problem : Problem}
    (broken : service.encodingProblem css = some problem) : Uncaught problem := by
  cases css with
  | broken codes =>
      rw [encodingProblem] at broken
      split at broken
      · cases broken
      · split at broken
        · obtain rfl := Option.some.inj broken
          rfl
        · cases broken
  | null | bool | int | float | text | array | object => cases broken

/-- A value with a written form is shown. -/
theorem showValue_of_written {value : Json} (written : value.checkWritten = .ok ()) :
    showValue value = .ok (.json 200 value) := by
  rw [showValue, written]

/-- A value without a written form is a problem. -/
theorem showValue_of_unwritten {value : Json} {error : Json.WriteError}
    (unwritten : value.checkWritten = .error error) :
    showValue value = .error (.ofWriteError error) := by
  rw [showValue, unwritten]

theorem showValue_cases (value : Json) :
    showValue value = .ok (.json 200 value) ∨
      ∃ error, showValue value = .error (.ofWriteError error) := by
  cases isWritten : value.checkWritten with
  | ok => exact .inl (showValue_of_written isWritten)
  | error error => exact .inr ⟨error, showValue_of_unwritten isWritten⟩

/-- What the store holds is shown, or it is said to be missing, or it has no written form. -/
theorem showAnswer_cases (answer : StoreAnswer) :
    (∃ response, showAnswer answer = .ok response ∧
      (response.status = 200 ∨ response.status = 404)) ∨
      ∃ error, showAnswer answer = .error (.ofWriteError error) := by
  have shown (value : Json) :
      (∃ response, showValue value = .ok response ∧
        (response.status = 200 ∨ response.status = 404)) ∨
        ∃ error, showValue value = .error (.ofWriteError error) :=
    (showValue_cases value).imp_left fun isShown => ⟨_, isShown, .inl rfl⟩
  cases answer with
  | job found =>
      cases found with
      | none => exact .inl ⟨_, rfl, .inr rfl⟩
      | some job => exact shown job.toJson
  | component found =>
      cases found with
      | none => exact .inl ⟨_, rfl, .inr rfl⟩
      | some component => exact .inl ⟨_, rfl, .inl rfl⟩
  | jobs found => exact shown _
  | done | components | counts => exact .inl ⟨_, rfl, .inl rfl⟩

theorem App.status_showMethods (resource : Resource) :
    (App.showMethods resource).status = 200 ∨ (App.showMethods resource).status = 204 := by
  cases resource with
  | submission | preview => exact .inr rfl
  | jobs | job | component | stats | file => exact .inl rfl

theorem App.status_strayResponse (path : Text) (method : Option Method) :
    (App.strayResponse path method).status ∈ [308, 404, 405] := by
  unfold App.strayResponse
  split
  · exact (by decide : 405 ∈ [308, 404, 405])
  · dsimp only
    split <;> decide
  · exact (by decide : 404 ∈ [308, 404, 405])

/-! ## Paths and methods -/

/-- How a request is handled: its path or its method leads nowhere; it asks for the methods
of a resource; or the resource is visited. -/
inductive App.Handled (app : App σ) (request : Request) (state : ServiceState σ) :
    Response × ServiceState σ → Prop
  | stray (nowhere : ∀ resource, Resource.ofPath? request.path = some resource →
        resource.knows (Method.ofName? request.method) = false) :
      Handled app request state
        (strayResponse request.path (Method.ofName? request.method), state)
  | methods {resource : Resource} (found : Resource.ofPath? request.path = some resource)
      (asks : Method.ofName? request.method = some .options) :
      Handled app request state (showMethods resource, state)
  | visited {resource : Resource} {method : Method}
      (found : Resource.ofPath? request.path = some resource)
      (isMethod : Method.ofName? request.method = some method)
      (knows : resource.knows (some method) = true) (other : method ≠ .options) :
      Handled app request state
        (Response.shown method (outcome (app.visit request resource) state).1,
          (outcome (app.visit request resource) state).2)

theorem Resource.not_knows_none (resource : Resource) : resource.knows none = false := by
  cases resource <;> rfl

/-- A method other than the one that asks for the methods visits the resource. -/
theorem App.outcome_respond (app : App σ) (request : Request) (resource : Resource)
    {method : Method} (other : method ≠ .options) (state : ServiceState σ) :
    outcome (app.respond request resource (some method)) state =
      ((outcome (app.visit request resource) state).1.map fun response =>
          if method = .head then { response with body := none } else response,
        (outcome (app.visit request resource) state).2) := by
  cases method with
  | options => exact absurd rfl other
  | head => exact outcome_map (app.visit request resource) _ state
  | get | post =>
      change outcome (app.visit request resource) state = _
      cases run : outcome (app.visit request resource) state with
      | mk answer next => cases answer <;> rfl

theorem App.handled_handle (app : App σ) (request : Request) (state : ServiceState σ) :
    app.Handled request state (app.handle request state) := by
  unfold App.handle
  dsimp only
  cases leads : (Resource.ofPath? request.path).filter fun resource =>
      resource.knows (Method.ofName? request.method) with
  | none =>
      have nowhere := Option.filter_eq_none_iff.mp leads
      exact .stray fun resource found => by simpa using nowhere resource found
  | some resource =>
      obtain ⟨found, knows⟩ := Option.filter_eq_some_iff.mp leads
      cases isMethod : Method.ofName? request.method with
      | none =>
          rw [isMethod, resource.not_knows_none] at knows
          exact absurd knows (by decide)
      | some method =>
          rw [isMethod] at knows
          by_cases asks : method = .options
          · subst asks
            exact .methods found isMethod
          · have visited : app.Handled request state
                (Response.shown method (outcome (app.visit request resource) state).1,
                  (outcome (app.visit request resource) state).2) :=
              .visited found isMethod knows asks
            have responds := app.outcome_respond request resource asks state
            rw [outcome] at responds
            change (app.respond request resource (some method)).run state = _ at responds
            dsimp only
            rw [responds]
            cases run : outcome (app.visit request resource) state with
            | mk answer next =>
                rw [run] at visited
                cases answer with
                | ok response => exact visited
                | error problem => cases method <;> exact visited

/-- A resource that knows the method is visited, unless it is asked for its methods. -/
theorem App.handle_of_knows {resource : Resource} {method : Method}
    (found : Resource.ofPath? request.path = some resource)
    (isMethod : Method.ofName? request.method = some method)
    (knows : resource.knows (some method) = true) (other : method ≠ .options)
    (app : App σ) (state : ServiceState σ) :
    app.handle request state =
      (Response.shown method (outcome (app.visit request resource) state).1,
        (outcome (app.visit request resource) state).2) := by
  have handled := app.handled_handle request state
  generalize app.handle request state = result at handled ⊢
  cases handled with
  | stray nowhere =>
      rw [isMethod] at nowhere
      exact absurd knows (by simp [nowhere resource found])
  | methods found' asks =>
      rw [isMethod] at asks
      exact absurd (Option.some.inj asks) other
  | visited found' isMethod' =>
      obtain rfl := Option.some.inj (found.symm.trans found')
      obtain rfl := Option.some.inj (isMethod.symm.trans isMethod')
      rfl

namespace App

theorem outcome_given {α : Type} (value : Except Problem α) (state : ServiceState σ) :
    outcome (given value) state = (value, state) := by
  cases value <;> rfl

/-- A body that cannot be used ends a submission. -/
theorem outcome_submit_of_bad_body {problem : Problem}
    (badBody : bodyObject request = .error problem) (app : App σ) (state : ServiceState σ) :
    outcome (app.submit request) state = (.error problem, state) := by
  rw [submit, badBody, outcome_bind_of_error (outcome_given _ state)]

/-- A user that cannot be used ends a submission. -/
theorem outcome_submit_of_bad_user {body : Json} {problem : Problem}
    (isBody : bodyObject request = .ok body)
    (badUser : userOf app.defaultUser body = .error problem) (state : ServiceState σ) :
    outcome (app.submit request) state = (.error problem, state) := by
  rw [submit, isBody, outcome_bind_of_ok (outcome_given _ state), badUser,
    outcome_bind_of_error (outcome_given _ state)]

/-- With a body and a user, a submission is what the service makes of it. -/
theorem outcome_submit {body : Json} {user : Int} (isBody : bodyObject request = .ok body)
    (isUser : userOf app.defaultUser body = .ok user) (state : ServiceState σ) :
    outcome (app.submit request) state =
      let submitted := outcome (app.service.submit (body.memberOrNull "cssCode")
        (body.memberOrNull "options") user) state
      (submitted.1.map Response.accepted, submitted.2) := by
  rw [submit, isBody, outcome_bind_of_ok (outcome_given _ state), isUser,
    outcome_bind_of_ok (outcome_given _ state)]
  exact outcome_map _ Response.accepted state

theorem outcome_preview_of_bad_body {problem : Problem}
    (badBody : bodyObject request = .error problem) (app : App σ) (state : ServiceState σ) :
    outcome (app.preview request) state = (.error problem, state) := by
  rw [preview, badBody, outcome_bind_of_error (outcome_given _ state)]

/-- A preview shows the conversion, and touches the reader alone. -/
theorem outcome_preview {body : Json} (isBody : bodyObject request = .ok body) (app : App σ)
    (state : ServiceState σ) :
    outcome (app.preview request) state =
      let converted := app.service.converted (body.memberOrNull "cssCode") state.reader
      (converted.1.map fun conversion => .json 200 conversion.toJson,
        { state with reader := converted.2 }) := by
  rw [preview, isBody, outcome_bind_of_ok (outcome_given _ state)]
  have run := outcome_map (app.service.convert (body.memberOrNull "cssCode"))
    (fun conversion => Response.json 200 conversion.toJson) state
  rwa [outcome_convert] at run

/-- Looking something up shows what the store answers and changes no table. -/
theorem exists_outcome_lookUp {tables : Tables} {ids : Nat} (here : state.IsAt tables ids)
    {operation : StoreOperation} {answer : Except StoreError StoreAnswer}
    (reaches : app.service.refusalOf operation = none)
    (run : (Store.ready tables).run operation = (answer, .ready tables)) :
    ∃ next, outcome (app.lookUp operation) state =
        ((answer.mapError Problem.store).bind showAnswer, next) ∧ next.IsAt tables ids := by
  rw [← here.store] at run
  have performs := outcome_perform reaches run
  rw [lookUp]
  cases answer with
  | error error => exact ⟨_, outcome_bind_of_error performs _, here.store, here.ids⟩
  | ok found =>
      rw [outcome_bind_of_ok performs, outcome_given]
      exact ⟨_, rfl, here.store, here.ids⟩

end App

end DesignExport.Web
