/-
# Settled tables

Between submissions no job is waiting or being worked on. Every job has ended:
it is completed and its output reports the only component that belongs to it, or
it has failed and no component belongs to it. The tables stay settled when a
component comes for a job that is not stored yet, and when a job comes that has
ended.
-/

import DesignExport.Proofs.Store.Newest

namespace DesignExport

/-- The output of a job names a component and holds its code. -/
def Job.Reports (job : Job) (component : ComponentRecord) : Prop :=
  ∃ stats, job.output = .object
    [("componentId", .text component.id), ("componentName", .text component.name),
     ("stats", stats), ("generatedCode", component.generatedCode)]

namespace Tables

/-- How a job ends: completed, and reporting the only component that it owns, or
failed without output and component. -/
inductive Ended (tables : Tables) (job : Job) : Prop
  | completed (component : ComponentRecord) (status : job.status = .completed)
      (only : tables.componentsOfJob job.id = [component]) (reports : job.Reports component)
  | failed (status : job.status = .failed) (output : job.output = .null)
      (nothing : tables.componentsOfJob job.id = [])

/-- Tables in which no job is waiting or being worked on. -/
structure IsSettled (tables : Tables) : Prop where
  progress : ∀ job ∈ tables.jobs, job.progress = 100
  completedAt : ∀ job ∈ tables.jobs, job.completedAt ≠ []
  ended : ∀ job ∈ tables.jobs, tables.Ended job

variable {tables : Tables}

/-- A component of another job changes nothing for a job. -/
theorem Ended.withComponent {job : Job} (ended : tables.Ended job) {component : ComponentRecord}
    (foreign : component.jobId ≠ job.id) : (tables.withComponent component).Ended job := by
  have same : (tables.withComponent component).componentsOfJob job.id =
      tables.componentsOfJob job.id := by
    simp [componentsOfJob, Tables.withComponent, List.filter_append, foreign]
  cases ended with
  | completed own status only reports => exact .completed own status (same.trans only) reports
  | failed status output nothing => exact .failed status output (same.trans nothing)

theorem IsSettled.withComponent (settled : tables.IsSettled) {component : ComponentRecord}
    (fresh : tables.NoJob component.jobId) : (tables.withComponent component).IsSettled where
  progress := settled.progress
  completedAt := settled.completedAt
  ended := fun job within => (settled.ended job within).withComponent (fresh job within).symm

/-- Tables stay settled when a job comes that has ended. -/
theorem IsSettled.withJob (settled : tables.IsSettled) {job : Job} (progress : job.progress = 100)
    (completedAt : job.completedAt ≠ []) (ended : tables.Ended job) :
    (tables.withJob job).IsSettled := by
  have stillEnded {row : Job} (ended : tables.Ended row) : (tables.withJob job).Ended row := by
    cases ended with
    | completed own status only reports => exact .completed own status only reports
    | failed status output nothing => exact .failed status output nothing
  constructor
  · exact List.forall_mem_append.mpr ⟨settled.progress, by simpa using progress⟩
  · exact List.forall_mem_append.mpr ⟨settled.completedAt, by simpa using completedAt⟩
  · exact List.forall_mem_append.mpr
      ⟨fun row within => stillEnded (settled.ended row within), by simpa using stillEnded ended⟩

/-- No component belongs to the identifier. -/
def NoOwner (id : Text) (tables : Tables) : Prop := ∀ row ∈ tables.components, row.jobId ≠ id

theorem componentsOfJob_eq_nil {id : Text} (unowned : tables.NoOwner id) :
    tables.componentsOfJob id = [] := by
  rw [componentsOfJob, List.filter_eq_nil_iff]
  intro row within
  simpa using unowned row within

theorem componentsOfJob_withComponent {component : ComponentRecord}
    (unowned : tables.NoOwner component.jobId) :
    (tables.withComponent component).componentsOfJob component.jobId = [component] := by
  have others := componentsOfJob_eq_nil unowned
  rw [componentsOfJob] at others
  simp [componentsOfJob, Tables.withComponent, List.filter_append, others]

end Tables

end DesignExport
