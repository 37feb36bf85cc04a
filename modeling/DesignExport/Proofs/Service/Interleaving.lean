/-
# Interleaved submissions

Two submissions that have drawn different identifiers may call one store in turn,
in any order that keeps the calls of each in their own order. Every call is taken,
and the store cannot be told from one that has served the submissions one behind
the other.
-/

import DesignExport.Proofs.Service.Calls

namespace DesignExport

variable {σ τ : Type}

/-- A submission, the service that receives it, and the state that the service is in. -/
structure SubmissionRun (σ : Type) where
  service : Service σ
  state : ServiceState σ
  submission : Submission

namespace SubmissionRun

/-- The identifiers that are drawn for the job and for the component. -/
def ids (run : SubmissionRun σ) : RecordIds where
  job := run.service.idOf (run.state.ids + 1)
  component := run.service.idOf (run.state.ids + 2)

/-- The operations that the submission performs on the store. -/
def calls (run : SubmissionRun σ) : List StoreOperation :=
  (run.submission.outcome run.service run.state).2.performed.drop run.state.performed.length

/-- What the submission is answered with when it runs alone. -/
def answer (run : SubmissionRun σ) : Except Problem Job :=
  (run.submission.outcome run.service run.state).1

/-- A run on a store that has none of its identifiers. Alone it is answered with a job or with
the refusal of its style sheet: so the store can record its user, its input and its end. -/
structure IsRecordable (run : SubmissionRun σ) : Prop where
  store : ∃ tables, run.state.store = .ready tables ∧ tables.Lacks run.ids
  answered : (∃ job, run.answer = .ok job) ∨
    ∃ refusal, CssText.check run.service.limit run.submission.css = .error refusal

variable {run : SubmissionRun σ}

/-- A run calls the store as a course does, or not at all when its input is refused. -/
theorem calls_eq_nil_or_exists_course (recordable : run.IsRecordable) :
    run.calls = [] ∨ ∃ course : Course, course.IsUnder run.ids ∧ run.calls = course.calls := by
  obtain ⟨before, store, lacks⟩ := recordable.store
  have here : run.state.IsAt before run.state.ids := ⟨store, rfl⟩
  rw [calls, Submission.outcome]
  rcases recordable.answered with ⟨job, answers⟩ | ⟨refusal, rejected⟩
  · rw [answer, Submission.outcome] at answers
    have attempted : (run.service.during run.submission).Attempted before run.submission.css
        run.submission.options run.submission.user run.state run.state.ids _ :=
      @Service.attempted_submit _ (run.service.during run.submission) _ _ _ here lacks.job
        lacks.component _ _ _
    generalize result : ServiceAction.outcome _ run.state = reached at attempted
    cases attempted with
    | rejected | unwritten | tooLarge =>
        rw [result] at answers
        cases answers
    | submitted text accepted written fitting =>
        obtain ⟨course, under, performs⟩ := Service.exists_course accepted here lacks.job
          lacks.component written fitting answers
        rw [← result, performs, List.drop_left]
        exact .inr ⟨course, under, rfl⟩
  · have rejected : CssText.check (run.service.during run.submission).limit run.submission.css =
      .error refusal := rejected
    rw [Service.outcome_submit_of_error rejected]
    exact .inl List.drop_length

/-- The calls of a run are about its own records, and a store without rows takes them. -/
theorem isAbout_and_take_calls (recordable : run.IsRecordable) :
    (∀ operation ∈ run.calls, operation.IsAbout run.ids) ∧
      ∃ last, Tables.Take {} run.calls last := by
  obtain nothing | ⟨course, under, isCalls⟩ := calls_eq_nil_or_exists_course recordable
  · rw [nothing]
    exact ⟨by simp, {}, rfl⟩
  · rw [isCalls]
    exact ⟨under.isAbout, under.take⟩

end SubmissionRun

/-- However the calls of two submissions are interleaved, the store takes every call,
and then reads as it does behind one submission and the other behind it. -/
theorem interleaved_submissions {first : SubmissionRun σ} {second : SubmissionRun τ}
    (recordableFirst : first.IsRecordable) (recordableSecond : second.IsRecordable)
    (differ : first.ids.Differ second.ids) {tables : Tables} (lacksFirst : tables.Lacks first.ids)
    (lacksSecond : tables.Lacks second.ids) {calls : List StoreOperation}
    (interleaves : Interleaves first.calls second.calls calls) :
    let store := Store.ready tables
    (∀ answer ∈ (store.runAll calls).1, ∃ found, answer = .ok found) ∧
      (store.runAll calls).2.ReadsAs (store.runAll (first.calls ++ second.calls)).2 ∧
      (store.runAll calls).2.ReadsAs (store.runAll (second.calls ++ first.calls)).2 := by
  intro store
  obtain ⟨aboutFirst, lastFirst, takesFirst⟩ :=
    SubmissionRun.isAbout_and_take_calls recordableFirst
  obtain ⟨aboutSecond, lastSecond, takesSecond⟩ :=
    SubmissionRun.isAbout_and_take_calls recordableSecond
  have belongFirst := (Tables.belongTo_empty first.ids).take aboutFirst takesFirst
  have belongSecond := (Tables.belongTo_empty second.ids).take aboutSecond takesSecond
  -- one behind the other is an interleaving like any other
  have ends {order : List StoreOperation}
      (interleaves : Interleaves first.calls second.calls order) :
      ∃ last, tables.Take order last ∧ tables.Splits lastFirst lastSecond last :=
    (Tables.splits_empty tables).take interleaves differ lacksFirst lacksSecond aboutFirst
      aboutSecond (Tables.belongTo_empty _) (Tables.belongTo_empty _) takesFirst takesSecond
  have readsAs {order : List StoreOperation}
      (other : Interleaves first.calls second.calls order) :
      (store.runAll calls).2.ReadsAs (store.runAll order).2 := by
    obtain ⟨last, takes, splits⟩ := ends interleaves
    obtain ⟨lastOther, takesOther, splitsOther⟩ := ends other
    rw [takes.answered.2, takesOther.answered.2]
    exact splits.readsAs splitsOther differ belongFirst belongSecond
  obtain ⟨last, takes, -⟩ := ends interleaves
  exact ⟨takes.answered.1, readsAs (.append _ _), readsAs (Interleaves.append _ _).symm⟩

/-- A submission that the store takes no component of, in the middle of another one, on a
store that has the records of an earlier one. -/
theorem interleaved_submissions_nested :
    let readSheet : Text → Unit → Except Problem StyleSheet × Unit :=
      fun text reader => (.ok (StyleSheet.ofText text), reader)
    let first : SubmissionRun Unit :=
      { service := { readSheet, idOf := fun n => List.replicate n '0', timeOf := fun _ => "noon" }
        state := { reader := () }
        submission := { css := .text ".a \x7b color: red \x7d", options := .null, user := 1 } }
    let second : SubmissionRun Unit :=
      { service := { readSheet, idOf := fun n => List.replicate n '1', timeOf := fun _ => "dusk" }
        state := { reader := () }
        submission := { css := .text ".b \x7b color: blue \x7d", options := .bool true, user := -7
                        refusal := some (.ofText "OperationalError" "disk I/O error") } }
    let tables : Tables :=
      { jobs := [{ id := "2" }], components := [{ id := "22", name := "Card", jobId := "2" }] }
    let calls := first.calls.take 2 ++ (second.calls ++ first.calls.drop 2)
    let store := Store.ready tables
    (∀ answer ∈ (store.runAll calls).1, ∃ found, answer = .ok found) ∧
      (store.runAll calls).2.ReadsAs (store.runAll (first.calls ++ second.calls)).2 ∧
      (store.runAll calls).2.ReadsAs (store.runAll (second.calls ++ first.calls)).2 := by
  intro readSheet first second tables calls
  have recordableFirst : first.IsRecordable :=
    ⟨⟨{}, rfl, by simp [Tables.NoJob], by simp [Tables.NoComponent]⟩, .inl ⟨_, rfl⟩⟩
  have recordableSecond : second.IsRecordable :=
    ⟨⟨{}, rfl, by simp [Tables.NoJob], by simp [Tables.NoComponent]⟩, .inl ⟨_, rfl⟩⟩
  have differ : first.ids.Differ second.ids := ⟨by decide, by decide⟩
  have lacksFirst : tables.Lacks first.ids :=
    ⟨List.forall_mem_singleton.mpr (by decide), List.forall_mem_singleton.mpr (by decide)⟩
  have lacksSecond : tables.Lacks second.ids :=
    ⟨List.forall_mem_singleton.mpr (by decide), List.forall_mem_singleton.mpr (by decide)⟩
  have interleaves : Interleaves first.calls second.calls calls := by
    have front := (Interleaves.nil_left (first.calls.take 2)).symm
    have back := (Interleaves.append second.calls (first.calls.drop 2)).symm
    simpa only [List.take_append_drop, List.nil_append] using front.concat back
  exact interleaved_submissions recordableFirst recordableSecond differ lacksFirst lacksSecond
    interleaves

end DesignExport
