/-
# Separate records

Two parties that use one store under identifiers of their own do not meet. The
rows that a party has made are the rows that it would have made alone, and they
stand among the rows of the other party in the order in which they came. So a
party is answered as it would be alone, whatever the other does in between, and
what can be asked of the tables does not tell how the operations were
interleaved.
-/

import DesignExport.Proofs.Interleaving
import DesignExport.Proofs.Store.Newest

namespace DesignExport

/-! ## Operations that are taken -/

namespace Tables

variable {tables next : Tables}

theorem addJob_eq_ok {job : Job} :
    tables.addJob job = .ok next ↔
      (fits job.progress = true ∧ fits job.userId = true) ∧ tables.job? job.id = none ∧
        next = tables.withJob job := by
  rw [addJob, ← Bool.and_eq_true]
  cases fitting : fits job.progress && fits job.userId with
  | false => simp
  | true => cases used : tables.job? job.id <;> simp [withJob, eq_comm]

theorem setProgress_eq_ok {id : Text} {progress : Int} :
    tables.setProgress id progress = .ok next ↔
      fits progress = true ∧
        next = tables.changeJob id fun job => { job with progress := progress } := by
  rw [setProgress]
  split_ifs with fitting <;> simp [fitting, eq_comm]

theorem addComponent_eq_ok {component : ComponentRecord} :
    tables.addComponent component = .ok next ↔
      tables.component? component.id = none ∧ (tables.job? component.jobId).isSome ∧
        next = tables.withComponent component := by
  rw [addComponent]
  cases used : tables.component? component.id with
  | some stored => simp
  | none => cases owner : tables.job? component.jobId <;> simp [withComponent, eq_comm]

end Tables

namespace Store

variable {tables next : Tables} {table : TableName} {answer : StoreAnswer}

theorem change_ready_eq_ok {make : Tables → Except StoreError Tables} :
    (ready tables).change table make = (.ok answer, ready next) ↔
      answer = .done ∧ make tables = .ok next := by
  cases made : make tables with
  | ok after => simp [change, Store.tables, Except.bind, made, eq_comm]
  | error error => simp [change, Store.tables, Except.bind, made]

theorem run_completeJob_eq_ok {id : Text} {output : Json} {time : Text} :
    (ready tables).run (.completeJob id output time) = (.ok answer, ready next) ↔
      answer = .done ∧ next = tables.completeJob id output time := by
  rw [run, change_ready_eq_ok, Except.ok.injEq, eq_comm (a := next)]

theorem run_failJob_eq_ok {id message time : Text} :
    (ready tables).run (.failJob id message time) = (.ok answer, ready next) ↔
      answer = .done ∧ next = tables.failJob id message time := by
  rw [run, change_ready_eq_ok, Except.ok.injEq, eq_comm (a := next)]

theorem ask_ready_eq_ok {question : Tables → Except StoreError StoreAnswer} :
    (ready tables).ask table question = (.ok answer, ready next) ↔
      question tables = .ok answer ∧ next = tables := by
  simp [ask, Store.tables, Except.bind, eq_comm]

end Store

/-- The tables take the operations one after the other and become the last tables. -/
def Tables.Take (tables : Tables) : List StoreOperation → Tables → Prop
  | [], last => last = tables
  | operation :: rest, last => ∃ answer next,
      (Store.ready tables).run operation = (.ok answer, .ready next) ∧ next.Take rest last

namespace Tables

/-- Every operation that the tables take is answered, and the store has the last tables. -/
theorem Take.answered {tables last : Tables} {operations : List StoreOperation}
    (takes : tables.Take operations last) :
    (∀ answer ∈ ((Store.ready tables).runAll operations).1, ∃ found, answer = .ok found) ∧
      ((Store.ready tables).runAll operations).2 = .ready last := by
  induction operations generalizing tables with
  | nil => exact ⟨by simp [Store.runAll], by rw [Store.runAll, show last = tables from takes]⟩
  | cons operation rest ih =>
      obtain ⟨answer, next, run, takes⟩ := takes
      obtain ⟨answers, store⟩ := ih takes
      simp only [Store.runAll, run, List.forall_mem_cons]
      exact ⟨⟨⟨answer, rfl⟩, answers⟩, store⟩

end Tables

/-! ## The records of one party -/

/-- The identifiers under which a party makes its job and its component. -/
structure RecordIds where
  job : Text
  component : Text

/-- Neither identifier is the other party's. -/
structure RecordIds.Differ (mine yours : RecordIds) : Prop where
  job : mine.job ≠ yours.job
  component : mine.component ≠ yours.component

theorem RecordIds.Differ.symm {mine yours : RecordIds} (differ : mine.Differ yours) :
    yours.Differ mine where
  job := differ.job.symm
  component := differ.component.symm

/-- An operation that makes, changes or reads one job or makes a component of it. -/
def StoreOperation.IsAbout (ids : RecordIds) : StoreOperation → Prop
  | .createJob job => job.id = ids.job
  | .getJob id | .updateProgress id _ | .completeJob id _ _ | .failJob id _ _ => id = ids.job
  | .createComponent component => component.id = ids.component ∧ component.jobId = ids.job
  | _ => False

namespace Tables

/-- No row has one of the identifiers. -/
structure Lacks (ids : RecordIds) (tables : Tables) : Prop where
  job : tables.NoJob ids.job
  component : tables.NoComponent ids.component

/-- Every row has one of the identifiers. -/
structure BelongTo (ids : RecordIds) (tables : Tables) : Prop where
  jobs : ∀ row ∈ tables.jobs, row.id = ids.job
  components : ∀ row ∈ tables.components, row.id = ids.component
  owners : ∀ row ∈ tables.components, row.jobId = ids.job

variable {ids mine yours : RecordIds} {base own others after next : Tables}

theorem belongTo_empty (ids : RecordIds) : BelongTo ids {} where
  jobs := by simp
  components := by simp
  owners := by simp

theorem BelongTo.lacks (belong : own.BelongTo mine) (differ : mine.Differ yours) :
    own.Lacks yours where
  job := fun row within => by
    rw [belong.jobs row within]
    exact differ.job
  component := fun row within => by
    rw [belong.components row within]
    exact differ.component

theorem BelongTo.changeJob (belong : own.BelongTo ids) (id : Text) {change : Job → Job}
    (keeps : ∀ job, (change job).id = job.id) : (own.changeJob id change).BelongTo ids where
  jobs := by
    simp only [Tables.changeJob, List.forall_mem_map]
    intro row within
    split_ifs
    · rw [keeps, belong.jobs row within]
    · exact belong.jobs row within
  components := belong.components
  owners := belong.owners

/-- What a party does keeps the rows its own. -/
theorem BelongTo.run (belong : own.BelongTo ids) {operation : StoreOperation}
    (about : operation.IsAbout ids) {answer : StoreAnswer}
    (taken : (Store.ready own).run operation = (.ok answer, .ready next)) :
    next.BelongTo ids := by
  cases operation with
  | createJob job =>
      obtain ⟨-, made⟩ := Store.change_ready_eq_ok.mp taken
      obtain ⟨-, -, rfl⟩ := addJob_eq_ok.mp made
      exact ⟨List.forall_mem_append.mpr ⟨belong.jobs, List.forall_mem_singleton.mpr about⟩,
        belong.components,
        belong.owners⟩
  | getJob id =>
      obtain ⟨-, rfl⟩ := Store.ask_ready_eq_ok.mp taken
      exact belong
  | updateProgress id progress =>
      obtain ⟨-, made⟩ := Store.change_ready_eq_ok.mp taken
      obtain ⟨-, rfl⟩ := setProgress_eq_ok.mp made
      exact belong.changeJob id fun job => rfl
  | completeJob id output time =>
      obtain ⟨-, rfl⟩ := Store.run_completeJob_eq_ok.mp taken
      exact belong.changeJob id fun job => rfl
  | failJob id message time =>
      obtain ⟨-, rfl⟩ := Store.run_failJob_eq_ok.mp taken
      exact belong.changeJob id fun job => rfl
  | createComponent component =>
      obtain ⟨-, made⟩ := Store.change_ready_eq_ok.mp taken
      obtain ⟨-, -, rfl⟩ := addComponent_eq_ok.mp made
      exact ⟨belong.jobs,
        List.forall_mem_append.mpr ⟨belong.components, by simpa using about.1⟩,
        List.forall_mem_append.mpr ⟨belong.owners, by simpa using about.2⟩⟩
  | _ => exact about.elim

theorem BelongTo.take (belong : own.BelongTo ids) {operations : List StoreOperation}
    (about : ∀ operation ∈ operations, operation.IsAbout ids)
    (takes : own.Take operations next) : next.BelongTo ids := by
  induction operations generalizing own with
  | nil =>
      obtain rfl : next = own := takes
      exact belong
  | cons operation rest ih =>
      obtain ⟨aboutFirst, about⟩ := List.forall_mem_cons.mp about
      obtain ⟨answer, middle, taken, takes⟩ := takes
      exact ih (belong.run aboutFirst taken) about takes

/-! ## The records of two parties in one store -/

/-- Behind the rows of `base` stand the rows of two parties, each in its own order. -/
structure Splits (base own others after : Tables) : Prop where
  jobs : ∃ new, after.jobs = base.jobs ++ new ∧ Interleaves own.jobs others.jobs new
  components : ∃ new, after.components = base.components ++ new ∧
    Interleaves own.components others.components new

theorem splits_empty (base : Tables) : Splits base {} {} base where
  jobs := ⟨[], by simp, .nil⟩
  components := ⟨[], by simp, .nil⟩

theorem Splits.symm (splits : Splits base own others after) : Splits base others own after where
  jobs := by
    obtain ⟨new, isAfter, interleaves⟩ := splits.jobs
    exact ⟨new, isAfter, interleaves.symm⟩
  components := by
    obtain ⟨new, isAfter, interleaves⟩ := splits.components
    exact ⟨new, isAfter, interleaves.symm⟩

/-- A job that only one party can have is found as in that party's own rows. -/
theorem Splits.job?_eq (splits : Splits base own others after) {id : Text}
    (unused : base.NoJob id) (foreign : others.NoJob id) : after.job? id = own.job? id := by
  obtain ⟨new, isAfter, interleaves⟩ := splits.jobs
  have stored : base.jobs.find? (fun row => row.id == id) = none := job?_eq_none unused
  have found : new.find? (fun row => row.id == id) = own.jobs.find? fun row => row.id == id :=
    interleaves.find?_eq fun row within => by simpa using foreign row within
  rw [job?, isAfter, List.find?_append, stored, Option.none_or, found, job?]

theorem Splits.component?_eq (splits : Splits base own others after) {id : Text}
    (unused : base.NoComponent id) (foreign : others.NoComponent id) :
    after.component? id = own.component? id := by
  obtain ⟨new, isAfter, interleaves⟩ := splits.components
  have stored : base.components.find? (fun row => row.id == id) = none :=
    component?_eq_none unused
  have found : new.find? (fun row => row.id == id) =
      own.components.find? fun row => row.id == id :=
    interleaves.find?_eq fun row within => by simpa using foreign row within
  rw [component?, isAfter, List.find?_append, stored, Option.none_or, found, component?]

theorem Splits.withJob (splits : Splits base own others after) (job : Job) :
    Splits base (own.withJob job) others (after.withJob job) where
  jobs := by
    obtain ⟨new, isAfter, interleaves⟩ := splits.jobs
    refine ⟨new ++ [job], ?_, interleaves.snoc_left job⟩
    rw [Tables.withJob, isAfter, List.append_assoc]
  components := splits.components

theorem Splits.withComponent (splits : Splits base own others after)
    (component : ComponentRecord) :
    Splits base (own.withComponent component) others (after.withComponent component) where
  jobs := splits.jobs
  components := by
    obtain ⟨new, isAfter, interleaves⟩ := splits.components
    refine ⟨new ++ [component], ?_, interleaves.snoc_left component⟩
    rw [Tables.withComponent, isAfter, List.append_assoc]

/-- A change of a job that only one party can have is a change of that party's rows. -/
theorem Splits.changeJob (splits : Splits base own others after) {id : Text}
    (unused : base.NoJob id) (foreign : others.NoJob id) (change : Job → Job) :
    Splits base (own.changeJob id change) others (after.changeJob id change) where
  jobs := by
    obtain ⟨new, isAfter, interleaves⟩ := splits.jobs
    have changed := interleaves.map fun row => if row.id == id then change row else row
    rw [map_change_of_noJob foreign] at changed
    exact ⟨_, by rw [Tables.changeJob, isAfter, List.map_append, map_change_of_noJob unused],
      changed⟩
  components := splits.components

/-- An operation that a party's own rows take is taken in the same way among other rows. -/
theorem Splits.run (splits : Splits base own others after) (unused : base.Lacks ids)
    (foreign : others.Lacks ids) {operation : StoreOperation} (about : operation.IsAbout ids)
    {answer : StoreAnswer}
    (taken : (Store.ready own).run operation = (.ok answer, .ready next)) :
    ∃ grown, (Store.ready after).run operation = (.ok answer, .ready grown) ∧
      Splits base next others grown := by
  have sameJob := splits.job?_eq unused.job foreign.job
  cases operation with
  | createJob job =>
      obtain ⟨rfl, made⟩ := Store.change_ready_eq_ok.mp taken
      obtain ⟨fitting, free, rfl⟩ := addJob_eq_ok.mp made
      rw [show job.id = ids.job from about, ← sameJob] at free
      exact ⟨_, Store.change_ready_eq_ok.mpr ⟨rfl, addJob_eq_ok.mpr
        ⟨fitting, by rw [show job.id = ids.job from about, free], rfl⟩⟩, splits.withJob job⟩
  | getJob id =>
      obtain ⟨found, rfl⟩ := Store.ask_ready_eq_ok.mp taken
      subst about
      rw [← sameJob] at found
      exact ⟨_, Store.ask_ready_eq_ok.mpr ⟨found, rfl⟩, splits⟩
  | updateProgress id progress =>
      obtain ⟨rfl, made⟩ := Store.change_ready_eq_ok.mp taken
      obtain ⟨fitting, rfl⟩ := setProgress_eq_ok.mp made
      subst about
      exact ⟨_, Store.change_ready_eq_ok.mpr ⟨rfl, setProgress_eq_ok.mpr ⟨fitting, rfl⟩⟩,
        splits.changeJob unused.job foreign.job _⟩
  | completeJob id output time =>
      obtain ⟨rfl, rfl⟩ := Store.run_completeJob_eq_ok.mp taken
      subst about
      exact ⟨_, Store.run_completeJob_eq_ok.mpr ⟨rfl, rfl⟩,
        splits.changeJob unused.job foreign.job _⟩
  | failJob id message time =>
      obtain ⟨rfl, rfl⟩ := Store.run_failJob_eq_ok.mp taken
      subst about
      exact ⟨_, Store.run_failJob_eq_ok.mpr ⟨rfl, rfl⟩,
        splits.changeJob unused.job foreign.job _⟩
  | createComponent component =>
      obtain ⟨rfl, made⟩ := Store.change_ready_eq_ok.mp taken
      obtain ⟨free, owner, rfl⟩ := addComponent_eq_ok.mp made
      obtain ⟨isId, isOwner⟩ := about
      rw [isId, ← splits.component?_eq unused.component foreign.component, ← isId] at free
      rw [isOwner, ← sameJob, ← isOwner] at owner
      exact ⟨_, Store.change_ready_eq_ok.mpr ⟨rfl, addComponent_eq_ok.mpr ⟨free, owner, rfl⟩⟩,
        splits.withComponent component⟩
  | _ => exact about.elim

/-- What two parties would do alone, they do in any interleaving. -/
theorem Splits.take {first second calls : List StoreOperation} {lastOwn lastOthers : Tables}
    (splits : Splits base own others after) (interleaves : Interleaves first second calls)
    (differ : mine.Differ yours) (unusedMine : base.Lacks mine) (unusedYours : base.Lacks yours)
    (aboutMine : ∀ operation ∈ first, operation.IsAbout mine)
    (aboutYours : ∀ operation ∈ second, operation.IsAbout yours)
    (belongMine : own.BelongTo mine) (belongYours : others.BelongTo yours)
    (takesMine : own.Take first lastOwn) (takesYours : others.Take second lastOthers) :
    ∃ last, after.Take calls last ∧ Splits base lastOwn lastOthers last := by
  induction interleaves generalizing own others after with
  | nil =>
      obtain rfl : lastOwn = own := takesMine
      obtain rfl : lastOthers = others := takesYours
      exact ⟨after, rfl, splits⟩
  | left _ ih =>
      obtain ⟨about, aboutMine⟩ := List.forall_mem_cons.mp aboutMine
      obtain ⟨answer, next, taken, takesMine⟩ := takesMine
      obtain ⟨grown, run, splits⟩ :=
        splits.run unusedMine (belongYours.lacks differ.symm) about taken
      obtain ⟨last, takes, splits⟩ := ih splits aboutMine aboutYours
        (belongMine.run about taken) belongYours takesMine takesYours
      exact ⟨last, ⟨answer, grown, run, takes⟩, splits⟩
  | right _ ih =>
      obtain ⟨about, aboutYours⟩ := List.forall_mem_cons.mp aboutYours
      obtain ⟨answer, next, taken, takesYours⟩ := takesYours
      obtain ⟨grown, run, splits⟩ :=
        splits.symm.run unusedYours (belongMine.lacks differ) about taken
      obtain ⟨last, takes, splits⟩ := ih splits.symm aboutMine aboutYours
        belongMine (belongYours.run about taken) takesMine takesYours
      exact ⟨last, ⟨answer, grown, run, takes⟩, splits⟩

/-! ## What the tables show of two parties -/

/-- Rows of a kind that at most one party has stand in one order. -/
theorem Splits.filter_jobs {other : Tables} (splits : Splits base own others after)
    (splitsOther : Splits base own others other) {holds : Job → Bool}
    (apart : (∀ row ∈ own.jobs, holds row = false) ∨ ∀ row ∈ others.jobs, holds row = false) :
    after.jobs.filter holds = other.jobs.filter holds := by
  obtain ⟨new, isAfter, interleaves⟩ := splits.jobs
  obtain ⟨newOther, isOther, interleavesOther⟩ := splitsOther.jobs
  rw [isAfter, isOther, List.filter_append, List.filter_append,
    interleaves.filter_eq_filter interleavesOther apart]

theorem Splits.filter_components {other : Tables} (splits : Splits base own others after)
    (splitsOther : Splits base own others other) {holds : ComponentRecord → Bool}
    (apart : (∀ row ∈ own.components, holds row = false) ∨
      ∀ row ∈ others.components, holds row = false) :
    after.components.filter holds = other.components.filter holds := by
  obtain ⟨new, isAfter, interleaves⟩ := splits.components
  obtain ⟨newOther, isOther, interleavesOther⟩ := splitsOther.components
  rw [isAfter, isOther, List.filter_append, List.filter_append,
    interleaves.filter_eq_filter interleavesOther apart]

theorem Splits.statusCounts_eq {other : Tables} (splits : Splits base own others after)
    (splitsOther : Splits base own others other) : after.statusCounts = other.statusCounts := by
  obtain ⟨new, isAfter, interleaves⟩ := splits.jobs
  obtain ⟨newOther, isOther, interleavesOther⟩ := splitsOther.jobs
  have permuted : after.jobs.Perm other.jobs := by
    rw [isAfter, isOther]
    exact (interleaves.perm.trans interleavesOther.perm.symm).append_left base.jobs
  simp only [statusCounts, permuted.countP_eq]

end Tables

/-- Two stores that answer alike when they are asked for jobs and components by their
identifiers, for the components of a job, and for the counts of the states. -/
structure Store.ReadsAs (first second : Store) : Prop where
  job : ∀ id, (first.run (.getJob id)).1 = (second.run (.getJob id)).1
  component : ∀ id, (first.run (.getComponent id)).1 = (second.run (.getComponent id)).1
  components : ∀ jobId, (first.run (.listByJob jobId)).1 = (second.run (.listByJob jobId)).1
  counts : (first.run .countByStatus).1 = (second.run .countByStatus).1

/-- Rows that two parties keep under keys of their own are never both under one key. -/
theorem RecordIds.apart_of_ne {α : Type} {key : α → Text} {first second : List α}
    {mine yours : Text} (differ : mine ≠ yours) (isMine : ∀ row ∈ first, key row = mine)
    (isYours : ∀ row ∈ second, key row = yours) (id : Text) :
    (∀ row ∈ first, (key row == id) = false) ∨ ∀ row ∈ second, (key row == id) = false := by
  by_cases same : mine = id
  · exact .inr fun row within => by simpa [isYours row within, ← same] using differ.symm
  · exact .inl fun row within => by simpa [isMine row within] using same

namespace Tables

variable {mine yours : RecordIds} {base own others after other : Tables}

/-- The order in which two parties came cannot be read from the store. -/
theorem Splits.readsAs (splits : Splits base own others after)
    (splitsOther : Splits base own others other) (differ : mine.Differ yours)
    (belongMine : own.BelongTo mine) (belongYours : others.BelongTo yours) :
    (Store.ready after).ReadsAs (.ready other) where
  job := fun id => by
    have apart := RecordIds.apart_of_ne differ.job belongMine.jobs belongYours.jobs id
    have same : after.job? id = other.job? id := by
      rw [job?, job?, ← List.head?_filter, ← List.head?_filter,
        splits.filter_jobs splitsOther apart]
    simp only [Store.run, Store.ask, Store.tables, Except.bind, same]
  component := fun id => by
    have apart := RecordIds.apart_of_ne differ.component belongMine.components
      belongYours.components id
    have same : after.component? id = other.component? id := by
      rw [component?, component?, ← List.head?_filter, ← List.head?_filter,
        splits.filter_components splitsOther apart]
    simp only [Store.run, Store.ask, Store.tables, Except.bind, same]
  components := fun jobId => by
    have apart := RecordIds.apart_of_ne differ.job belongMine.owners belongYours.owners jobId
    have same : after.componentsOfJob jobId = other.componentsOfJob jobId :=
      splits.filter_components splitsOther apart
    simp only [Store.run, Store.ask, Store.tables, Except.bind, same]
  counts := by
    simp only [Store.run, Store.ask, Store.tables, Except.bind,
      splits.statusCounts_eq splitsOther]

end Tables

end DesignExport
