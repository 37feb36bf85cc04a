/-
# What holds behind every request

A request submits a style sheet, converts one, or looks something up in the store. What these
keep is kept by the request, however it is answered, and by requests one after the other.
-/

import DesignExport.Proofs.Service.Invariant
import DesignExport.Proofs.Web.Handling

namespace DesignExport.Web

open Service ServiceAction

variable {σ : Type}

/-- The operations that a request can lead to when its conversions are as `converts` says. -/
inductive App.Asks (app : App σ) (request : Request) (converts : Conversion → Prop) :
    StoreOperation → Prop
  | submits {body : Json} {user : Int} {operation : StoreOperation}
      (isBody : bodyObject request = .ok body) (isUser : userOf app.defaultUser body = .ok user)
      (submits : Submits (body.memberOrNull "cssCode") (body.memberOrNull "options") user converts
        operation) : app.Asks request converts operation
  | listByUser (user limit : Int) : app.Asks request converts (.listByUser user limit)
  | getJob (id : Text) : app.Asks request converts (.getJob id)
  | getComponent (id : Text) : app.Asks request converts (.getComponent id)
  | countByStatus : app.Asks request converts .countByStatus

/-- A request whose operations are allowed and whose style sheet is converted as `converts`
says. -/
structure App.Admits (app : App σ) (invariant : ServiceState σ → Prop)
    (allowed : StoreOperation → Prop) (converts : Conversion → Prop) (request : Request) :
    Prop where
  allows : ∀ operation, app.Asks request converts operation → allowed operation
  converting : ∀ body, bodyObject request = .ok body →
    app.service.Converts invariant converts (body.memberOrNull "cssCode")

variable {app : App σ} {request : Request} {invariant : ServiceState σ → Prop}
  {allowed : StoreOperation → Prop} {converts : Conversion → Prop}

namespace App

/-- A visit keeps what holds of the service. -/
theorem Admits.visit (admits : app.Admits invariant allowed converts request)
    (maintains : app.service.Maintains invariant allowed) (resource : Resource) :
    ServiceAction.Keeps invariant (app.visit request resource) := by
  have looks {operation : StoreOperation} (asks : app.Asks request converts operation) :
      ServiceAction.Keeps invariant (app.lookUp operation) := by
    refine (maintains.perform operation (admits.allows operation asks)).bind fun answer => ?_
    exact keeps_iff.mpr fun state held => by rwa [outcome_given]
  cases resource with
  | submission =>
      refine keeps_iff.mpr fun state held => ?_
      cases isBody : bodyObject request with
      | error problem => rwa [App.visit, outcome_submit_of_bad_body isBody]
      | ok body =>
      cases isUser : userOf app.defaultUser body with
      | error problem => rwa [App.visit, outcome_submit_of_bad_user isBody isUser]
      | ok user =>
          have submits := maintains.submit
            (fun operation submits => admits.allows operation (.submits isBody isUser submits))
            (admits.converting body isBody)
          rw [App.visit, outcome_submit isBody isUser]
          exact keeps_iff.mp submits state held
  | preview =>
      refine keeps_iff.mpr fun state held => ?_
      cases isBody : bodyObject request with
      | error problem => rwa [App.visit, outcome_preview_of_bad_body isBody]
      | ok body =>
          have converted := admits.converting body isBody state held
          rw [outcome_convert] at converted
          rw [App.visit, outcome_preview isBody]
          dsimp only
          generalize app.service.converted (body.memberOrNull "cssCode") state.reader = result
            at converted ⊢
          obtain ⟨answer, reader⟩ := result
          cases answer with
          | error problem => exact converted
          | ok conversion => exact converted.1
  | jobs => exact looks (.listByUser _ _)
  | job id => exact looks (.getJob id)
  | component id => exact looks (.getComponent id)
  | stats => exact looks .countByStatus
  | file name => exact fun _ held => held

/-- A request keeps what holds of the service. -/
theorem Admits.handle (admits : app.Admits invariant allowed converts request)
    (maintains : app.service.Maintains invariant allowed) {state : ServiceState σ}
    (held : invariant state) : invariant (app.handle request state).2 := by
  have handled := app.handled_handle request state
  generalize app.handle request state = result at handled ⊢
  cases handled with
  | stray nowhere => exact held
  | methods found asks => exact held
  | visited found isMethod knows other =>
      exact keeps_iff.mp (admits.visit maintains _) state held

/-- Requests one after the other keep what holds of the service. -/
theorem invariant_handleAll (maintains : app.service.Maintains invariant allowed)
    {history : List Request}
    (admits : ∀ request ∈ history, app.Admits invariant allowed converts request)
    {state : ServiceState σ} (held : invariant state) :
    invariant (app.handleAll state history).2 := by
  induction history generalizing state with
  | nil => exact held
  | cons request later ih =>
      obtain ⟨admitsFirst, admitsLater⟩ := List.forall_mem_cons.mp admits
      exact ih admitsLater (admitsFirst.handle maintains held)

end App

end DesignExport.Web
