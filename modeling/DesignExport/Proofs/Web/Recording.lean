/-
# What requests record

A submission that is answered as accepted adds its job and at most one component of that
job. Any other answer leaves the tables as they were, wherever the request has failed,
but for one case: a submission is stranded when a problem stops the work on its job that
cannot be recorded. It is answered as an error of the server, and its job stays behind as
one that is being processed. So the counts of jobs by their state are the counts of what
accepted submissions were told, and of stranded ones.
-/

import DesignExport.Proofs.Service.JobLifecycle
import DesignExport.Proofs.Web.Handling
import Mathlib.Data.List.Basic

namespace DesignExport

variable {σ : Type}

/-- A state whose store holds the tables, and whose identifiers in use were all drawn. -/
structure Service.HasRows (service : Service σ) (state : ServiceState σ) (tables : Tables) :
    Prop where
  store : state.store = .ready tables
  drew : service.DrewRows state.ids tables

theorem Service.HasRows.isAt {service : Service σ} {state : ServiceState σ} {tables : Tables}
    (rows : service.HasRows state tables) : state.IsAt tables state.ids :=
  ⟨rows.store, rfl⟩

theorem Service.HasRows.of_isAt {service : Service σ} {state : ServiceState σ} {tables : Tables}
    {ids : Nat} (drew : service.DrewRows ids tables) (here : state.IsAt tables ids) :
    service.HasRows state tables :=
  ⟨here.store, by rwa [here.ids]⟩

/-- A service that has just begun holds empty tables. -/
theorem Service.hasRows_start (service : Service σ) (reader : σ) :
    service.HasRows { reader := reader } {} :=
  ⟨rfl, service.keeps_empty.toDrewRows⟩

/-- Whether a submission is stranded: it makes a job, and the work on the job is stopped by a
problem that cannot be recorded. -/
def Service.strands (service : Service σ) (css options : Json) (user : Int) (reader : σ) : Bool :=
  (CssText.check service.limit css).isOk && (inputOf css options).checkWritten.isOk &&
    Tables.fits user &&
    (service.stopping? css reader).any fun problem => !decide problem.IsRecordable

theorem Service.strands_of_rejected {service : Service σ} {css : Json} {refusal : CssRefusal}
    (rejected : CssText.check service.limit css = .error refusal) (options : Json) (user : Int)
    (reader : σ) : service.strands css options user reader = false := by
  rw [strands, rejected]
  rfl

theorem Service.strands_of_unwritten {css options : Json} {error : Json.WriteError}
    (unwritten : (inputOf css options).checkWritten = .error error) (service : Service σ)
    (user : Int) (reader : σ) : service.strands css options user reader = false := by
  have notOk : (Except.error error : Except Json.WriteError Unit).isOk = false := rfl
  rw [strands, unwritten, notOk, Bool.and_false, Bool.false_and, Bool.false_and]

theorem Service.strands_of_not_fits {user : Int} (tooLarge : Tables.fits user = false)
    (service : Service σ) (css options : Json) (reader : σ) :
    service.strands css options user reader = false := by
  rw [strands, tooLarge, Bool.and_false, Bool.false_and]

/-- A submission that makes a job is stranded exactly by a problem that cannot be recorded. -/
theorem Service.strands_of_accepted {service : Service σ} {css options : Json} {text : Text}
    {user : Int} (accepted : CssText.check service.limit css = .ok text)
    (written : (inputOf css options).checkWritten = .ok ()) (fitting : Tables.fits user = true)
    (reader : σ) :
    service.strands css options user reader =
      (service.stopping? css reader).any fun problem => !decide problem.IsRecordable := by
  rw [strands, accepted, written, fitting]
  rfl

namespace Web

open Service ServiceAction Tables

variable {app : App σ} {request : Request} {state : ServiceState σ} {before : Tables}

/-! ## Stranded submissions -/

/-- Whether the submission that a request holds is stranded. -/
def App.strandsSubmission (app : App σ) (request : Request) (reader : σ) : Bool :=
  match bodyObject request with
  | .error _ => false
  | .ok body =>
    match userOf app.defaultUser body with
    | .error _ => false
    | .ok user =>
      app.service.strands (body.memberOrNull "cssCode") (body.memberOrNull "options") user reader

/-- Whether a request submits a style sheet and is stranded with it. -/
def App.strands (app : App σ) (request : Request) (state : ServiceState σ) : Bool :=
  Resource.ofPath? request.path == some .submission &&
    Method.ofName? request.method == some .post && app.strandsSubmission request state.reader

/-- How many of the requests one after the other are stranded. -/
def App.strandedCount (app : App σ) (state : ServiceState σ) : List Request → Nat
  | [] => 0
  | request :: rest =>
    (app.strands request state).toNat + strandedCount app (app.handle request state).2 rest

theorem App.strands_of_submission (found : Resource.ofPath? request.path = some .submission)
    (isPost : Method.ofName? request.method = some .post) (app : App σ)
    (state : ServiceState σ) : app.strands request state =
      app.strandsSubmission request state.reader := by
  rw [strands, found, isPost]
  rfl

theorem App.strands_of_other (other : Resource.ofPath? request.path ≠ some .submission ∨
      Method.ofName? request.method ≠ some .post) (app : App σ) (state : ServiceState σ) :
    app.strands request state = false := by
  rw [strands]
  rcases other with other | other
  · rw [beq_eq_false_iff_ne.mpr other, Bool.false_and, Bool.false_and]
  · rw [beq_eq_false_iff_ne.mpr other, Bool.and_false, Bool.false_and]

/-! ## Records -/

/-- What a response says of the tables: it accepts a submission, and the tables have its job
and at most one component of that job behind the others; or nothing has changed. -/
inductive Recorded (before after : Tables) : Response → Prop
  | unchanged {response : Response} (other : response.status ≠ 202) (same : after = before) :
      Recorded before after response
  | accepted (job : Job) (made : List ComponentRecord) (atMostOne : made.length ≤ 1)
      (owned : ∀ component ∈ made, component.jobId = job.id)
      (jobs : after.jobs = before.jobs ++ [job])
      (components : after.components = before.components ++ made) :
      Recorded before after (Response.accepted job)

/-- What becomes of the tables: a request is recorded as its response says, or it is stranded
with a job that is not ended. -/
inductive Left (before after : Tables) (response : Response) : Bool → Prop
  | recorded (records : Recorded before after response) : Left before after response false
  | stranded (job : Job) (status : job.status = .processing)
      (tables : after = before.withJob job) (failed : response = .bare 500) :
      Left before after response true

/-- No response tells of a job that is not ended. -/
theorem Left.recorded_iff {after : Tables} {response : Response} {strands : Bool}
    (left : Left before after response strands) :
    Recorded before after response ↔ strands = false := by
  cases left with
  | recorded records => exact iff_of_true records rfl
  | stranded job status tables failed =>
      refine iff_of_false (fun records => ?_) Bool.true_eq_false.mp
      cases records with
      | unchanged other same =>
          have longer := congrArg (fun tables => tables.jobs.length) (tables.symm.trans same)
          simp [withJob] at longer
      | accepted job => exact absurd (congrArg Response.status failed) (by decide : ¬202 = 500)

namespace App

/-! ## One request -/

/-- A visit of anything but submissions changes no table and accepts nothing. -/
theorem exists_outcome_visit {resource : Resource} (other : resource ≠ .submission)
    {tables : Tables} {ids : Nat} (here : state.IsAt tables ids) (app : App σ)
    (request : Request) :
    ∃ answer next, outcome (app.visit request resource) state = (answer, next) ∧
      next.IsAt tables ids ∧ ∀ method, (Response.shown method answer).status ≠ 202 := by
  have failed (problem : Problem) (method : Method) :
      (Response.shown method (.error problem)).status ≠ 202 := by
    have error := Response.le_status_ofProblem problem
    rw [Response.status_shown_error]
    omega
  have told {response : Response} (other : response.status ≠ 202) (method : Method) :
      (Response.shown method (.ok response)).status ≠ 202 := by
    rwa [Response.status_shown_ok]
  have looked {operation : StoreOperation} {answer : Except StoreError StoreAnswer}
      (reaches : app.service.refusalOf operation = none)
      (run : (Store.ready tables).run operation = (answer, .ready tables)) :
      ∃ answer next, outcome (app.lookUp operation) state = (answer, next) ∧
        next.IsAt tables ids ∧ ∀ method, (Response.shown method answer).status ≠ 202 := by
    obtain ⟨next, shows, here⟩ := exists_outcome_lookUp here reaches run
    refine ⟨_, next, shows, here, ?_⟩
    cases answer with
    | error error => exact failed (.store error)
    | ok found =>
        show ∀ method, (Response.shown method (showAnswer found)).status ≠ 202
        rcases showAnswer_cases found with ⟨response, isShown, status⟩ | ⟨error, isError⟩
        · rw [isShown]
          exact told (by omega)
        · rw [isError]
          exact failed _
  cases resource with
  | submission => exact absurd rfl other
  | preview =>
      cases isBody : bodyObject request with
      | error problem =>
          exact ⟨_, _, outcome_preview_of_bad_body isBody app state, here, failed problem⟩
      | ok body =>
          refine ⟨_, _, outcome_preview isBody app state, ⟨here.store, here.ids⟩, ?_⟩
          cases (app.service.converted (body.memberOrNull "cssCode") state.reader).1 with
          | error problem => exact failed problem
          | ok conversion => exact told (by decide : 200 ≠ 202)
  | jobs => exact looked rfl rfl
  | job id => exact looked rfl rfl
  | component id => exact looked rfl rfl
  | stats => exact looked rfl rfl
  | file name =>
      exact ⟨.ok { status := 404 }, state, rfl, here, told (by decide : 404 ≠ 202)⟩

/-- A submission is recorded if it is accepted and not stranded. -/
theorem exists_left_submit (distinct : Function.Injective app.service.idOf)
    (rows : app.service.HasRows state before) (request : Request) :
    ∃ after, app.service.HasRows (outcome (app.submit request) state).2 after ∧
      Left before after (Response.shown .post (outcome (app.submit request) state).1)
        (app.strandsSubmission request state.reader) := by
  have failed (problem : Problem) :
      Left before before (Response.shown .post (.error problem)) false := by
    have error := Response.le_status_ofProblem problem
    exact .recorded (.unchanged (by rw [Response.status_shown_error]; omega) rfl)
  rw [strandsSubmission]
  cases isBody : bodyObject request with
  | error problem =>
      rw [outcome_submit_of_bad_body isBody]
      exact ⟨before, rows, failed problem⟩
  | ok body =>
  dsimp only
  cases isUser : userOf app.defaultUser body with
  | error problem =>
      rw [outcome_submit_of_bad_user isBody isUser]
      exact ⟨before, rows, failed problem⟩
  | ok user =>
  rw [outcome_submit isBody isUser]
  dsimp only
  have attempted := attempted_submit rows.isAt (rows.drew.noJob distinct (by omega))
    (rows.drew.noComponent distinct (by omega)) (body.memberOrNull "cssCode")
    (body.memberOrNull "options") user
  generalize outcome (app.service.submit _ _ user) state = result at attempted ⊢
  cases attempted with
  | rejected refusal rejected =>
      rw [strands_of_rejected rejected]
      exact ⟨before, rows, failed _⟩
  | unwritten text error accepted unwritten here =>
      rw [strands_of_unwritten unwritten]
      exact ⟨before, .of_isAt (rows.drew.mono (by omega)) here, failed _⟩
  | tooLarge text accepted written tooLarge here =>
      rw [strands_of_not_fits tooLarge]
      exact ⟨before, .of_isAt (rows.drew.mono (by omega)) here, failed _⟩
  | submitted text accepted written fitting submitted =>
      rw [strands_of_accepted accepted written fitting]
      cases submitted with
      | @completed job next conversion component time id isInput progress completedAt status
          converted takes made output here =>
          obtain ⟨extractedAt, createdAt, isMade⟩ := made
          have drewComponent : app.service.Drew (state.ids + 2) component.id :=
            ⟨state.ids + 2, by omega, by rw [isMade]; rfl⟩
          have owned : component.jobId = job.id := by rw [isMade]; rfl
          have drew : app.service.DrewRows (state.ids + 2) _ :=
            ((rows.drew.mono (by omega)).withComponent drewComponent).withJob
              ⟨_, by omega, id.symm⟩
          rw [stopping?_of_ok converted, takes]
          exact ⟨_, .of_isAt drew here,
            .recorded (.accepted job [component] (by simp) (by simpa using owned) rfl rfl)⟩
      | @failed job next problem drawn time id isInput progress completedAt status reason
          errorMessage output here =>
          have drew : app.service.DrewRows (state.ids + 1 + drawn) _ :=
            (rows.drew.mono (by omega)).withJob ⟨_, by omega, id.symm⟩
          have recordable : problem.IsRecordable := (Text.ofCodes_eq_ok_iff.mp errorMessage).1
          rw [reason, Option.any_some, decide_eq_true recordable]
          exact ⟨_, .of_isAt drew here,
            .recorded (.accepted job [] (by simp) (by simp) rfl (by simp [withJob]))⟩
      | @stranded job next error problem drawn id isInput status reason broken here =>
          have drew : app.service.DrewRows (state.ids + 1 + drawn) _ :=
            (rows.drew.mono (by omega)).withJob ⟨_, by omega, id.symm⟩
          rw [reason, Option.any_some, decide_eq_false (Problem.not_isRecordable broken)]
          exact ⟨_, .of_isAt drew here, .stranded job status rfl rfl⟩

/-- A request is answered as accepted when its submission is recorded, and else changes
no table, unless it is stranded. -/
theorem exists_left (distinct : Function.Injective app.service.idOf)
    (rows : app.service.HasRows state before) (request : Request) :
    ∃ after, app.service.HasRows (app.handle request state).2 after ∧
      Left before after (app.handle request state).1 (app.strands request state) := by
  have handled := app.handled_handle request state
  generalize app.handle request state = result at handled ⊢
  cases handled with
  | stray nowhere =>
      have status := status_strayResponse request.path (Method.ofName? request.method)
      have others : ∀ status ∈ [308, 404, 405], status ≠ 202 := by decide
      have elsewhere : Resource.ofPath? request.path ≠ some .submission ∨
          Method.ofName? request.method ≠ some .post := by
        by_contra submits
        obtain ⟨found, isPost⟩ := not_or.mp submits
        have unknown := nowhere .submission (not_not.mp found)
        rw [not_not.mp isPost] at unknown
        cases unknown
      rw [strands_of_other elsewhere]
      exact ⟨before, rows, .recorded (.unchanged (others _ status) rfl)⟩
  | @methods resource found asks =>
      have status := status_showMethods resource
      rw [strands_of_other (.inr (by rw [asks]; decide))]
      exact ⟨before, rows, .recorded (.unchanged (by dsimp only; omega) rfl)⟩
  | @visited resource method found isMethod knows other =>
      by_cases submits : resource = .submission
      · subst submits
        obtain rfl : method = .post := by
          cases method with
          | post => rfl
          | options => exact absurd rfl other
          | get | head => exact absurd knows (by decide)
        rw [strands_of_submission found isMethod]
        exact exists_left_submit distinct rows request
      · obtain ⟨answer, next, run, here, notAccepted⟩ :=
          exists_outcome_visit submits rows.isAt app request
        rw [run, strands_of_other (.inl fun isSubmission =>
          submits (Option.some.inj (found.symm.trans isSubmission)))]
        exact ⟨before, .of_isAt rows.drew here, .recorded (.unchanged (notAccepted method) rfl)⟩

end App

/-! ## Counting -/

/-- The state of a job that an accepting response reports. -/
def Response.reported? (response : Response) : Option Text :=
  if response.status = 202 then
    (response.body.bind (Json.member? "status")).bind Json.text?
  else none

/-- The words for the states of the stored jobs. -/
def statusWords (tables : Tables) : List Text := tables.jobs.map fun job => job.status.name

/-- How many jobs are in the state of a word behind one request: as many as before, one more
if the response reports the word, and one more that is processing if the request is stranded. -/
theorem Left.count_statusWords {after : Tables} {response : Response} {strands : Bool}
    (left : Left before after response strands) (word : Text) :
    (statusWords after).count word =
      (statusWords before).count word + response.reported?.toList.count word +
        if word = JobStatus.processing.name then strands.toNat else 0 := by
  cases left with
  | recorded records =>
      rw [Bool.toNat_false, ite_self, Nat.add_zero, ← List.count_append]
      cases records with
      | unchanged other same =>
          rw [same, Response.reported?, if_neg other, Option.toList_none, List.append_nil]
      | accepted job made atMostOne owned jobs components =>
          rw [Web.statusWords, jobs, List.map_append]
          rfl
  | stranded job status tables failed =>
      have silent : response.reported? = none := by rw [failed]; rfl
      have words : Web.statusWords after =
          Web.statusWords before ++ [JobStatus.processing.name] := by
        rw [tables, Web.statusWords, withJob, List.map_append, List.map_singleton, status]
        rfl
      rw [silent, words, List.count_append, List.count_singleton, Option.toList_none,
        List.count_nil, Nat.add_zero, Bool.toNat_true]
      simp only [beq_iff_eq, eq_comm (a := word)]

/-- Requests one after the other keep the rows, and the states in the tables are counted by
what the responses report and by the stranded requests. -/
theorem App.exists_handleAll (distinct : Function.Injective app.service.idOf)
    (rows : app.service.HasRows state before) (history : List Request) :
    ∃ after, app.service.HasRows (app.handleAll state history).2 after ∧
      ∀ word, (statusWords after).count word =
        (statusWords before).count word +
          ((app.handleAll state history).1.filterMap Response.reported?).count word +
          if word = JobStatus.processing.name then app.strandedCount state history else 0 := by
  induction history generalizing state before with
  | nil => exact ⟨before, rows, fun word => by simp [handleAll, strandedCount]⟩
  | cons request later ih =>
      obtain ⟨between, rows, left⟩ := exists_left distinct rows request
      obtain ⟨after, rows, counts⟩ := ih rows
      refine ⟨after, rows, fun word => ?_⟩
      have reports : (app.handleAll state (request :: later)).1.filterMap Response.reported? =
          (app.handle request state).1.reported?.toList ++
            (app.handleAll (app.handle request state).2 later).1.filterMap
              Response.reported? := by
        rw [handleAll, List.filterMap_cons]
        cases (app.handle request state).1.reported? <;> rfl
      rw [counts, left.count_statusWords, reports, List.count_append, strandedCount]
      split_ifs <;> omega

theorem name_injective : Function.Injective JobStatus.name := by
  have distinct : ∀ first ∈ JobStatus.all, ∀ second ∈ JobStatus.all,
      first.name = second.name → first = second := by decide
  have mem (status : JobStatus) : status ∈ JobStatus.all := by cases status <;> decide
  exact fun first second => distinct first (mem first) second (mem second)

/-- The members that show how many there are in each of these states, if there are any. -/
def countMembers (size : JobStatus → Nat) (statuses : List JobStatus) : Keyed Text Json :=
  ((statuses.map fun status => (status, size status)).filter fun entry => entry.2 != 0).map
    fun entry => (entry.1.name, .int entry.2)

theorem countMembers_cons (size : JobStatus → Nat) (status : JobStatus)
    (others : List JobStatus) :
    countMembers size (status :: others) =
      if size status = 0 then countMembers size others
      else (status.name, .int (size status)) :: countMembers size others := by
  by_cases none : size status = 0 <;> simp [countMembers, none]

/-- Words that name no state are no members. -/
theorem get?_countMembers_of_ne {statuses : List JobStatus} {word : Text}
    (other : ∀ status ∈ statuses, status.name ≠ word) (size : JobStatus → Nat) :
    Keyed.get? word (countMembers size statuses) = none := by
  induction statuses with
  | nil => rfl
  | cons status others ih =>
      obtain ⟨differ, other⟩ := List.forall_mem_cons.mp other
      rw [countMembers_cons]
      split
      · exact ih other
      · rw [Keyed.get?, if_neg differ, ih other]

theorem get?_countMembers_name {statuses : List JobStatus} {status : JobStatus}
    (within : status ∈ statuses) (size : JobStatus → Nat) :
    Keyed.get? status.name (countMembers size statuses) =
      if size status = 0 then none else some (.int (size status)) := by
  induction statuses with
  | nil => exact absurd within List.not_mem_nil
  | cons first others ih =>
      rw [countMembers_cons]
      by_cases same : first = status
      · subst same
        split
        · next none =>
            -- Behind the state itself there may be the same state once more.
            by_cases again : first ∈ others
            · rw [ih again, if_pos none]
            · refine get?_countMembers_of_ne (fun status isOther => ?_) size
              exact name_injective.ne fun same => again (same ▸ isOther)
        · rw [Keyed.get?, if_pos rfl]
      · have later : status ∈ others := (List.mem_cons.mp within).resolve_left (Ne.symm same)
        split
        · exact ih later
        · rw [Keyed.get?, if_neg (name_injective.ne same), ih later]

/-- A word is among the counts with the number of jobs whose state it names, if there are
such jobs. -/
theorem get?_counts (tables : Tables) (word : Text) :
    Keyed.get? word (tables.statusCounts.map fun entry => (entry.1.name, Json.int entry.2)) =
      if (statusWords tables).count word = 0 then none
      else some (.int ((statusWords tables).count word)) := by
  have counted (status : JobStatus) : (statusWords tables).count status.name =
      tables.jobs.countP fun job => job.status == status := by
    rw [statusWords, List.count, List.countP_map]
    refine List.countP_congr fun job _ => ?_
    simp [name_injective.eq_iff]
  by_cases named : ∃ status : JobStatus, status.name = word
  · obtain ⟨status, rfl⟩ := named
    have within : status ∈ JobStatus.all := by cases status <;> decide
    rw [counted]
    exact get?_countMembers_name within _
  · have none : (statusWords tables).count word = 0 := by
      rw [List.count_eq_zero, statusWords, List.mem_map]
      rintro ⟨job, -, isWord⟩
      exact named ⟨job.status, isWord⟩
    rw [if_pos none]
    exact get?_countMembers_of_ne (fun status _ isWord => named ⟨status, isWord⟩) _

/-- A request for the counts is answered with those of the tables. -/
theorem App.handle_stats (found : Resource.ofPath? request.path = some .stats)
    (isGet : Method.ofName? request.method = some .get)
    (rows : app.service.HasRows state before) :
    (app.handle request state).1 = .json 200 (countsJson before.statusCounts) := by
  have reaches : app.service.refusalOf .countByStatus = none := rfl
  have run : (Store.ready before).run .countByStatus =
      (.ok (.counts before.statusCounts), .ready before) := rfl
  obtain ⟨next, shows, -⟩ := exists_outcome_lookUp rows.isAt reaches run
  rw [handle_of_knows found isGet rfl (by decide), visit, shows]
  rfl

end Web

open Web in
/-- Behind any requests, a request that is not stranded changes no table if it is not answered
as accepted, and else adds its job and at most one component of that job. A stranded one is
answered as an error of the server and adds a job that is processing. The counts of jobs are
those of what the accepted submissions were told, and of the stranded ones. -/
theorem accepted_submissions_recorded {app : App σ}
    (distinct : Function.Injective app.service.idOf) (reader : σ) (history : List Request)
    (request : Request) :
    let start : ServiceState σ := { reader := reader }
    let past := app.handleAll start history
    let answer := app.handle request past.2
    (∃ before after : Tables, past.2.store = .ready before ∧ answer.2.store = .ready after ∧
      (Recorded before after answer.1 ↔ app.strands request past.2 = false) ∧
      (app.strands request past.2 = true → answer.1 = .bare 500 ∧
        ∃ job : Job, job.status = .processing ∧ after = before.withJob job)) ∧
    (Resource.ofPath? request.path = some .stats → Method.ofName? request.method = some .get →
      ∃ counts, answer.1 = .json 200 (.object [("jobs", .object counts)]) ∧
        ∀ word, Keyed.get? word counts =
          let count := (past.1.filterMap Response.reported?).count word +
            if word = JobStatus.processing.name then app.strandedCount start history else 0
          if count = 0 then none else some (.int count)) := by
  intro start past answer
  obtain ⟨before, rows, words⟩ :=
    App.exists_handleAll distinct (app.service.hasRows_start reader) history
  obtain ⟨after, rowsAfter, left⟩ := App.exists_left distinct rows request
  constructor
  · refine ⟨before, after, rows.store, rowsAfter.store, left.recorded_iff, fun strands => ?_⟩
    rw [strands] at left
    cases left with
    | stranded job status tables failed => exact ⟨failed, job, status, tables⟩
  · intro found isGet
    refine ⟨_, App.handle_stats found isGet rows, fun word => ?_⟩
    have counted := get?_counts before word
    have noneBefore : (statusWords {}).count word = 0 := List.count_nil
    rwa [words, noneBefore, Nat.zero_add] at counted

open Web in
/-- One submission is completed, one fails in the reader of sheets, one is stranded there, and
one has a body that is no object. -/
theorem accepted_submissions_recorded_two_outcomes :
    let service : Service Unit :=
      { readSheet := fun text reader =>
          (if text.length < 10 then .ok (StyleSheet.ofText text)
            else .error (.unexpected "ValueError" (if text.length < 15 then [97] else [0xD800])),
            reader)
        idOf := fun n => List.replicate n '0'
        timeOf := fun n => List.replicate (n + 1) '0' }
    let app : App Unit := ⟨service, 1⟩
    let post (body : Text) : Request :=
      { method := "POST", target := "/api/css/process", contentType := "application/json"
        body := body }
    let history : List Request :=
      [post "\x7b\"cssCode\": \"a\x7bb:c\x7d\"\x7d",
       post "\x7b\"cssCode\": \"a, b\x7bc : d\x7d\"\x7d",
       post "\x7b\"cssCode\": \"a, b \x7b color : d \x7d\"\x7d",
       post "[]"]
    let stats : Request := { method := "GET", target := "/api/stats" }
    ∃ counts, (app.handle stats (app.handleAll { reader := () } history).2).1 =
        .json 200 (.object [("jobs", .object counts)]) ∧
      Keyed.get? ("completed" : Text) counts = some (.int 1) ∧
      Keyed.get? ("failed" : Text) counts = some (.int 1) ∧
      Keyed.get? ("processing" : Text) counts = some (.int 1) ∧
      Keyed.get? ("pending" : Text) counts = none := by
  intro service app post history stats
  have distinct : Function.Injective app.service.idOf := List.replicate_left_injective '0'
  have told : (app.handleAll { reader := () } history).1.filterMap Response.reported? =
      [("completed" : Text), ("failed" : Text)] := by decide +kernel
  have stranded : app.strandedCount { reader := () } history = 1 := by decide +kernel
  obtain ⟨counts, response, counted⟩ :=
    (accepted_submissions_recorded distinct () history stats).2 (by decide +kernel) (by decide)
  rw [told, stranded] at counted
  exact ⟨counts, response, counted "completed", counted "failed", counted "processing",
    counted "pending"⟩

open Web in
/-- A submission that is stopped by a message with half of a character is not accepted, but its
job is in the tables behind it, and is counted. -/
theorem stranded_submission_changes_tables :
    let service : Service Unit :=
      { readSheet := fun _ reader => (.error (.unexpected "ValueError" [0xD800]), reader)
        idOf := fun n => List.replicate n '0'
        timeOf := fun n => List.replicate (n + 1) '0' }
    let app : App Unit := ⟨service, 1⟩
    let submission : Request :=
      { method := "POST", target := "/api/css/process", contentType := "application/json"
        body := "\x7b\"cssCode\": \"a \x7b b: c \x7d\"\x7d" }
    let answer := app.handle submission { reader := () }
    answer.1.status ≠ 202 ∧ answer.2.store ≠ .ready {} ∧
      ∃ counts, (app.handle { method := "GET", target := "/api/stats" } answer.2).1 =
          .json 200 (.object [("jobs", .object counts)]) ∧
        Keyed.get? ("processing" : Text) counts = some (.int 1) := by
  intro service app submission answer
  have distinct : Function.Injective app.service.idOf := List.replicate_left_injective '0'
  have strands : app.strands submission { reader := () } = true := by decide +kernel
  obtain ⟨after, rows, left⟩ :=
    App.exists_left distinct (app.service.hasRows_start ()) submission
  rw [strands] at left
  cases left with
  | stranded job status isAfter failed =>
      refine ⟨?_, ?_, _, App.handle_stats (by decide +kernel) (by decide) rows, ?_⟩
      · have isAnswer : answer.1.status = 500 := congrArg Response.status failed
        rw [isAnswer]
        decide
      · rw [show answer.2.store = .ready after from rows.store, isAfter]
        exact fun same => List.cons_ne_nil job [] (congrArg Tables.jobs (Store.ready.inj same))
      · rw [get?_counts, isAfter, statusWords, Tables.withJob, List.map_append,
          List.map_singleton, status]
        rfl

end DesignExport
