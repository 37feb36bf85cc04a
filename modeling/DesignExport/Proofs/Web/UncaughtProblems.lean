/-
# Requests that end in a problem nobody handles

Faults are answered with the status of their category, anything else that goes wrong is
answered without a body as an error of the server. There are eight ways to get there: a body
that is nested too deeply, an infinite user, a user beyond the integers of the store in a
body or in a query, a preview of a text with a half of a character where texts are encoded,
and what has no written form: the input of a job, or a job, or a list of jobs, which show what
was submitted in deeper nesting than it came in. No history of requests adds another one.
-/

import DesignExport.Proofs.Cache.FirstInFirstOut
import DesignExport.Proofs.Web.ReaderState
import DesignExport.Proofs.Web.Recording

namespace DesignExport.Web

open Service ServiceAction Tables

/-! ## The reader -/

/-- Why a visit to a resource ends in a problem that nobody handles, where the store holds the
tables. -/
inductive App.Upsets {σ : Type} (app : App σ) (request : Request) (tables : Tables) :
    Resource → Prop
  | tooDeep {resource : Resource} {error : Json.ReadError}
      (converts : resource = .submission ∨ resource = .preview)
      (nested : request.json = .error error) : Upsets app request tables resource
  | infiniteUser {body : Json} {negative : Bool} (isBody : bodyObject request = .ok body)
      (infinite : body.memberOrNull "userId" = .float (.infinite negative)) :
      Upsets app request tables .submission
  | inputUnwritten {body : Json} {user : Int} {text : Text} {error : Json.WriteError}
      (isBody : bodyObject request = .ok body) (isUser : userOf app.defaultUser body = .ok user)
      (accepted : CssText.check app.service.limit (body.memberOrNull "cssCode") = .ok text)
      (unwritten : (inputOf (body.memberOrNull "cssCode")
        (body.memberOrNull "options")).checkWritten = .error error) :
      Upsets app request tables .submission
  | userTooLarge {body : Json} {user : Int} {text : Text} (isBody : bodyObject request = .ok body)
      (isUser : userOf app.defaultUser body = .ok user)
      (accepted : CssText.check app.service.limit (body.memberOrNull "cssCode") = .ok text)
      (tooLarge : fits user = false) : Upsets app request tables .submission
  | notEncoded {body : Json} {problem : Problem} {text : Text}
      (isBody : bodyObject request = .ok body)
      (accepted : CssText.check app.service.limit (body.memberOrNull "cssCode") = .ok text)
      (broken : app.service.encodingProblem (body.memberOrNull "cssCode") = some problem) :
      Upsets app request tables .preview
  | queriedUserTooLarge (tooLarge : fits (queriedUser app.defaultUser request) = false) :
      Upsets app request tables .jobs
  | jobsUnwritten {jobs : List Job} {error : Json.WriteError}
      (listed : tables.jobsOfUser (queriedUser app.defaultUser request) listedJobs = .ok jobs)
      (unwritten : (Json.array (jobs.map Job.toJson)).checkWritten = .error error) :
      Upsets app request tables .jobs
  | jobUnwritten {id : Text} {job : Job} {error : Json.WriteError}
      (stored : tables.job? id = some job) (unwritten : job.toJson.checkWritten = .error error) :
      Upsets app request tables (.job id)

/-- What a visit comes to: an answer, the refusal of bad input, or a problem that nobody
handles, for one of the reasons above. -/
inductive App.Ended {σ : Type} (app : App σ) (request : Request) (tables : Tables)
    (resource : Resource) : Except Problem Response → Prop
  | answered {response : Response} (status : response.status < 500) (other : response.status ≠ 400)
      (calm : ¬ app.Upsets request tables resource) :
      Ended app request tables resource (.ok response)
  | refused {fault : Fault} (converts : resource = .submission ∨ resource = .preview)
      (validation : fault.kind = .validation)
      (calm : ¬ app.Upsets request tables resource) :
      Ended app request tables resource (.error (.fault fault))
  | upset {problem : Problem} (uncaught : Uncaught problem)
      (upsets : app.Upsets request tables resource) :
      Ended app request tables resource (.error problem)

variable {σ : Type} {app : App σ} {request : Request} {state : ServiceState σ} {before : Tables}
  {body : Json}

namespace App

end App

/-- What is shown of the end of a visit. -/
theorem App.Ended.shown {resource : Resource} {answer : Except Problem Response}
    (ended : app.Ended request before resource answer) {method : Method}
    (knows : resource.knows (some method) = true) (other : method ≠ .options) :
    let response := Response.shown method answer
    (response.status < 500 ↔ ¬ app.Upsets request before resource) ∧
    (500 ≤ response.status → response = .bare 500) ∧
    (response.status = 400 →
      ∃ fault : Fault, fault.kind = .validation ∧ response = .json 400 fault.summary) := by
  intro response
  cases ended with
  | answered status notRefused calm =>
      have shows : response.status = _ := Response.status_shown_ok method _
      rw [shows]
      exact ⟨by simp [status, calm], by omega, by omega⟩
  | @refused fault converts validation calm =>
      -- Both resources that refuse are visited by posting to them.
      obtain rfl : method = .post := by
        rcases converts with rfl | rfl <;> cases method <;>
          first | rfl | exact absurd rfl other | cases knows
      have shows : response = .json 400 fault.summary :=
        Response.ofProblem_of_validation validation
      rw [shows]
      refine ⟨by simp [Response.json, calm], ?_, fun _ => ⟨fault, validation, rfl⟩⟩
      exact fun error => absurd error (by decide : ¬ 500 ≤ 400)
  | @upset problem uncaught upsets =>
      have shows : response = .bare 500 := by
        show Response.shown method (.error problem) = .bare 500
        rw [Response.shown, uncaught]
        split <;> rfl
      rw [shows]
      refine ⟨by simp [Response.bare, upsets], fun _ => rfl, ?_⟩
      exact fun refused => absurd refused (by decide : 500 ≠ 400)

end DesignExport.Web

namespace DesignExport

open Web

end DesignExport
