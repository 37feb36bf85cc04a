/-
# What holds behind every submission

A submission draws identifiers and times, performs operations on the store, and converts its
style sheet. What each of these keeps is kept by the submission as a whole, however it ends. Of
the operations only those have to keep it that a submission can perform.
-/

import DesignExport.Proofs.Service.Outcome

namespace DesignExport

variable {σ : Type}

namespace Service

open ServiceAction

variable {service : Service σ} {css options : Json} {user : Int}

/-- The operations that a submission can perform when its conversions are as `converts` says. -/
inductive Submits (css options : Json) (user : Int) (converts : Conversion → Prop) :
    StoreOperation → Prop
  | createJob (id createdAt : Text) :
      Submits css options user converts (.createJob (jobOf id css options user createdAt))
  | updateProgress (id : Text) (progress : Int) :
      Submits css options user converts (.updateProgress id progress)
  | createComponent {conversion : Conversion} (converted : converts conversion)
      (jobId id extractedAt createdAt : Text) :
      Submits css options user converts
        (.createComponent (componentOf jobId css id extractedAt createdAt conversion))
  | completeJob {conversion : Conversion} (converted : converts conversion)
      (jobId id extractedAt createdAt completedAt : Text) :
      Submits css options user converts
        (.completeJob jobId (outputOf (componentOf jobId css id extractedAt createdAt conversion)
          conversion) completedAt)
  | failJob (id message completedAt : Text) :
      Submits css options user converts (.failJob id message completedAt)
  | getJob (id : Text) : Submits css options user converts (.getJob id)

/-- What stays true of the states of a service, however many identifiers and times are drawn
and whichever of the allowed operations are performed. -/
structure Maintains (service : Service σ) (invariant : ServiceState σ → Prop)
    (allowed : StoreOperation → Prop) : Prop where
  ids : ∀ state count, invariant state → invariant { state with ids := count }
  times : ∀ state count, invariant state → invariant { state with times := count }
  perform : ∀ operation, allowed operation →
    ServiceAction.Keeps invariant (service.perform operation)

/-- A conversion keeps the invariant, and comes to what `converts` says. -/
def Converts (service : Service σ) (invariant : ServiceState σ → Prop)
    (converts : Conversion → Prop) (css : Json) : Prop :=
  Meets invariant (service.convert css)
    (fun conversion state => invariant state ∧ converts conversion) fun _ => invariant

namespace Maintains

variable {invariant : ServiceState σ → Prop} {allowed : StoreOperation → Prop}
  {converts : Conversion → Prop}

theorem newId (maintains : service.Maintains invariant allowed) :
    ServiceAction.Keeps invariant service.newId := fun state => maintains.ids state _

theorem now (maintains : service.Maintains invariant allowed) :
    ServiceAction.Keeps invariant service.now := fun state => maintains.times state _

theorem record (maintains : service.Maintains invariant allowed) {operation : StoreOperation}
    (isAllowed : allowed operation) : ServiceAction.Keeps invariant (service.record operation) :=
  (maintains.perform operation isAllowed).bind fun _ _ => id

/-- The work on a job keeps the invariant. -/
theorem process (maintains : service.Maintains invariant allowed)
    (allows : ∀ operation, Submits css options user converts operation → allowed operation)
    (converting : service.Converts invariant converts css) (jobId : Text) :
    ServiceAction.Keeps invariant (service.process jobId css) := by
  have progresses (progress : Int) :
      ServiceAction.Keeps invariant (service.record (.updateProgress jobId progress)) :=
    maintains.record (allows _ (.updateProgress jobId progress))
  rw [Service.process]
  refine (progresses 30).bind fun _ => Meets.bind converting fun conversion => ?_
  apply Meets.assuming
  intro converted
  refine (progresses 70).bind fun _ => maintains.newId.bind fun id => ?_
  refine maintains.now.bind fun extractedAt => maintains.now.bind fun createdAt => ?_
  have creates := maintains.record
    (allows _ (.createComponent converted jobId id extractedAt createdAt))
  refine creates.bind fun _ => maintains.now.bind fun completedAt => ?_
  exact maintains.record
    (allows _ (.completeJob converted jobId id extractedAt createdAt completedAt))

/-- Recording a failure keeps the invariant, also where the message is no text. -/
theorem recordFailure (maintains : service.Maintains invariant allowed)
    (allows : ∀ operation, Submits css options user converts operation → allowed operation)
    (jobId : Text) (problem : Problem) :
    ServiceAction.Keeps invariant (service.recordFailure jobId problem) := by
  have encodes : ServiceAction.Keeps invariant (encoded problem.record : ServiceAction σ Text) := by
    refine keeps_iff.mpr fun state held => ?_
    cases isText : Text.ofCodes problem.record with
    | ok message => rwa [outcome_encoded_of_ok isText]
    | error error => rwa [outcome_encoded_of_error isText]
  refine maintains.now.bind fun completedAt => encodes.bind fun message => ?_
  exact maintains.record (allows _ (.failJob jobId message completedAt))

/-- A submission keeps what its steps keep. -/
theorem submit (maintains : service.Maintains invariant allowed)
    (allows : ∀ operation, Submits css options user converts operation → allowed operation)
    (converting : service.Converts invariant converts css) :
    ServiceAction.Keeps invariant (service.submit css options user) := by
  have checks : ServiceAction.Keeps invariant (service.checked css) := by
    refine keeps_iff.mpr fun state held => ?_
    cases checked : CssText.check service.limit css with
    | ok text => rwa [outcome_checked_of_ok checked]
    | error refusal => rwa [outcome_checked_of_error checked]
  refine checks.bind fun _ => maintains.newId.bind fun id => ?_
  refine maintains.now.bind fun createdAt => ?_
  have creates := maintains.record (allows _ (.createJob id createdAt))
  have works : ServiceAction.Keeps invariant
      (tryCatch (service.process id css) (service.recordFailure id)) :=
    (maintains.process allows converting id).tryCatch (maintains.recordFailure allows id)
  have asks := maintains.perform _ (allows _ (.getJob id))
  refine creates.bind fun _ => works.bind fun _ => asks.bind fun answer => ?_
  cases answer with
  | job found => cases found <;> exact fun _ held => held
  | _ => exact fun _ held => held

end Maintains

end Service

end DesignExport
