/-
# The rows of records

A record that is written into a row is read back from it, with the characters in place of
their halves and otherwise unchanged. So a database whose rows show the records of a store
answers as the store does, and its rows show the records of the store after the operation.
Only a value without a written form makes a difference: it is refused before anything is
done.
-/

import DesignExport.Proofs.Json.JoinedHalves
import DesignExport.Proofs.Store.Integrity
import Mathlib.Data.List.Forall2

namespace DesignExport

/-! ## Columns -/

namespace Json

variable {value : Json}

/-- A value is read back from its column. -/
theorem IsValue.ofColumn_of_written {column : Text} (isValue : IsValue value)
    (isWritten : value.written = .ok column) : ofColumn column = .ok value.joined := by
  rw [ofColumn, isValue.read_of_written isWritten]
  rfl

/-- A value, or nothing, is read back from its column. -/
theorem IsValue.ofColumn?_of_writtenOrNothing {column : Option Text} (isValue : IsValue value)
    (isWritten : value.writtenOrNothing = .ok column) :
    ofColumn? column = .ok value.joined := by
  unfold writtenOrNothing at isWritten
  split at isWritten
  · obtain rfl := Except.ok.inj isWritten
    rfl
  · cases isText : value.written with
    | error error =>
        rw [isText] at isWritten
        cases isWritten
    | ok text =>
        rw [isText] at isWritten
        obtain rfl := Except.ok.inj isWritten
        exact isValue.ofColumn_of_written isText

end Json

/-! ## Rows of records -/

/-- A row from which a job is read. -/
structure JobRow.Shows (row : JobRow) (job : Job) : Prop where
  id : row.id = job.id
  type : row.type = job.type.name
  status : row.status = job.status.name
  input : Json.ofColumn row.input = .ok job.input
  output : Json.ofColumn? row.output = .ok job.output
  errorMessage : row.errorMessage = job.errorMessage
  progress : row.progress = job.progress
  userId : row.userId = job.userId
  createdAt : row.createdAt = job.createdAt
  completedAt : row.completedAt = job.completedAt

/-- A row from which a component is read. -/
structure ComponentRow.Shows (row : ComponentRow) (component : ComponentRecord) : Prop where
  id : row.id = component.id
  name : row.name = component.name
  jobId : row.jobId = component.jobId
  sourceType : row.sourceType = component.sourceType
  sourceData : Json.ofColumn row.sourceData = .ok component.sourceData
  generatedCode : Json.ofColumn row.generatedCode = .ok component.generatedCode
  designTokens : Json.ofColumn row.designTokens = .ok component.designTokens
  metadata : Json.ofColumn row.metadata = .ok component.metadata
  createdAt : row.createdAt = component.createdAt

/-- A job of values of the program. -/
structure Job.IsValue (job : Job) : Prop where
  input : job.input.IsValue
  output : job.output.IsValue

/-- A component of values of the program. -/
structure ComponentRecord.IsValue (component : ComponentRecord) : Prop where
  sourceData : component.sourceData.IsValue
  generatedCode : component.generatedCode.IsValue
  designTokens : component.designTokens.IsValue
  metadata : component.metadata.IsValue

/-- A job as it is read back. -/
def Job.joined (job : Job) : Job :=
  { job with input := job.input.joined, output := job.output.joined }

/-- A component as it is read back. -/
def ComponentRecord.joined (component : ComponentRecord) : ComponentRecord :=
  { component with
    sourceData := component.sourceData.joined
    generatedCode := component.generatedCode.joined
    designTokens := component.designTokens.joined
    metadata := component.metadata.joined }

theorem JobType.ofName_name (type : JobType) : ofName type.name = .ok type := by
  cases type <;> rfl

theorem JobStatus.ofName_name (status : JobStatus) : ofName status.name = .ok status := by
  cases status <;> rfl

theorem JobStatus.name_inj {first second : JobStatus} :
    first.name = second.name ↔ first = second := by
  refine ⟨fun same => ?_, congrArg name⟩
  have known := ofName_name second
  rw [← same, ofName_name] at known
  exact Except.ok.inj known

/-- The job that a row shows is read from it. -/
theorem JobRow.Shows.job_eq {row : JobRow} {job : Job} (shows : row.Shows job) :
    row.job = .ok job := by
  obtain ⟨id, type, status, input, output, errorMessage, progress, userId, createdAt,
    completedAt⟩ := row
  obtain ⟨rfl, rfl, rfl, isInput, isOutput, rfl, rfl, rfl, rfl, rfl⟩ := shows
  simp only at isInput isOutput
  simp only [JobRow.job, JobType.ofName_name, JobStatus.ofName_name, isInput, isOutput]
  rfl

theorem ComponentRow.Shows.component_eq {row : ComponentRow} {component : ComponentRecord}
    (shows : row.Shows component) : row.component = .ok component := by
  obtain ⟨id, name, jobId, sourceType, sourceData, generatedCode, designTokens, metadata,
    createdAt⟩ := row
  obtain ⟨rfl, rfl, rfl, rfl, isSource, isCode, isTokens, isMetadata, rfl⟩ := shows
  simp only at isSource isCode isTokens isMetadata
  simp only [ComponentRow.component, isSource, isCode, isTokens, isMetadata]
  rfl

/-- The row of a job shows the job as it is read back. -/
theorem Job.IsValue.shows {job : Job} {row : JobRow} (isValue : job.IsValue)
    (isRow : job.row = .ok row) : row.Shows job.joined := by
  obtain ⟨input, isInput, isRow⟩ := Except.bind_eq_ok.mp isRow
  obtain ⟨output, isOutput, isRow⟩ := Except.bind_eq_ok.mp isRow
  obtain rfl := Except.ok.inj isRow
  exact ⟨rfl, rfl, rfl, isValue.input.ofColumn_of_written isInput,
    isValue.output.ofColumn?_of_writtenOrNothing isOutput, rfl, rfl, rfl, rfl, rfl⟩

/-- The row of a component shows the component as it is read back. -/
theorem ComponentRecord.IsValue.shows {component : ComponentRecord} {row : ComponentRow}
    (isValue : component.IsValue) (isRow : component.row = .ok row) :
    row.Shows component.joined := by
  obtain ⟨sourceData, isSource, isRow⟩ := Except.bind_eq_ok.mp isRow
  obtain ⟨generatedCode, isCode, isRow⟩ := Except.bind_eq_ok.mp isRow
  obtain ⟨designTokens, isTokens, isRow⟩ := Except.bind_eq_ok.mp isRow
  obtain ⟨metadata, isMetadata, isRow⟩ := Except.bind_eq_ok.mp isRow
  obtain rfl := Except.ok.inj isRow
  exact ⟨rfl, rfl, rfl, rfl, isValue.sourceData.ofColumn_of_written isSource,
    isValue.generatedCode.ofColumn_of_written isCode,
    isValue.designTokens.ofColumn_of_written isTokens,
    isValue.metadata.ofColumn_of_written isMetadata, rfl⟩

/-! ## Rows of tables -/

section Lists

variable {α β : Type} {R : α → β → Prop} {rows : List α} {records : List β}

/-- Related lists have related first members of a kind. -/
theorem forall₂_find? {p : α → Bool} {q : β → Bool} (agree : ∀ row record, R row record →
    p row = q record) (related : List.Forall₂ R rows records) :
    Option.Rel R (rows.find? p) (records.find? q) := by
  induction related with
  | nil => exact .none
  | cons first _ ih =>
      rw [List.find?_cons, List.find?_cons, agree _ _ first]
      split
      · exact .some first
      · exact ih

theorem forall₂_filter {p : α → Bool} {q : β → Bool} (agree : ∀ row record, R row record →
    p row = q record) (related : List.Forall₂ R rows records) :
    List.Forall₂ R (rows.filter p) (records.filter q) :=
  List.rel_filter (fun row record is => Bool.eq_iff_iff.mp (agree row record is)) related

theorem countP_eq_of_forall₂ {p : α → Bool} {q : β → Bool} (agree : ∀ row record, R row record →
    p row = q record) (related : List.Forall₂ R rows records) :
    rows.countP p = records.countP q := by
  rw [List.countP_eq_length_filter, List.countP_eq_length_filter]
  exact (forall₂_filter agree related).length_eq

/-- Sorting by orders that agree keeps lists related. -/
theorem forall₂_mergeSort {p : α → α → Bool} {q : β → β → Bool}
    (agree : ∀ row record other another, R row record → R other another →
      p row other = q record another) (related : List.Forall₂ R rows records) :
    List.Forall₂ R (rows.mergeSort p) (records.mergeSort q) := by
  obtain ⟨sameLength, each⟩ := List.forall₂_iff_zip.mp related
  have isRows : (rows.zip records).map Prod.fst = rows := List.map_fst_zip sameLength.le
  have isRecords : (rows.zip records).map Prod.snd = records := List.map_snd_zip sameLength.ge
  -- Both lists are sides of one list of pairs, which is sorted like either of them.
  have sortedRows := List.map_mergeSort (f := Prod.fst) (s := p) (l := rows.zip records)
    (r := fun first second => p first.1 second.1) fun _ _ _ _ => rfl
  have sortedRecords := List.map_mergeSort (f := Prod.snd) (s := q) (l := rows.zip records)
    (r := fun first second => p first.1 second.1) fun first isFirst second isSecond =>
      agree _ _ _ _ (each isFirst) (each isSecond)
  rw [isRows] at sortedRows
  rw [isRecords] at sortedRecords
  rw [← sortedRows, ← sortedRecords, List.forall₂_map_left_iff, List.forall₂_map_right_iff,
    List.forall₂_same]
  exact fun pair within => each (List.mem_mergeSort.mp within)

/-- Reading one after the other succeeds where each one does. -/
theorem mapM_eq_ok_of_forall₂ {ε : Type} {read : α → Except ε β}
    (reads : ∀ row record, R row record → read row = .ok record)
    (related : List.Forall₂ R rows records) : rows.mapM read = .ok records := by
  induction related with
  | nil => rfl
  | cons first _ ih =>
      rw [List.mapM_cons, reads _ _ first, ih]
      rfl

theorem isSome_eq_of_rel {row : Option α} {record : Option β} (related : Option.Rel R row record) :
    row.isSome = record.isSome := by
  cases related <;> rfl

end Lists

/-- The same refusal, or related values. -/
inductive SameResult {ε α β : Type} (R : α → β → Prop) : Except ε α → Except ε β → Prop
  | refused (error : ε) : SameResult R (.error error) (.error error)
  | done {row : α} {record : β} (related : R row record) : SameResult R (.ok row) (.ok record)

/-- Rows of which each shows one record of a table. -/
structure Rows.Shows (rows : Rows) (tables : Tables) : Prop where
  jobs : List.Forall₂ JobRow.Shows rows.jobs tables.jobs
  components : List.Forall₂ ComponentRow.Shows rows.components tables.components

namespace Rows.Shows

variable {rows : Rows} {tables : Tables}

theorem empty : Rows.Shows {} {} := ⟨.nil, .nil⟩

theorem job? (shows : rows.Shows tables) (id : Text) :
    Option.Rel JobRow.Shows (rows.job? id) (tables.job? id) :=
  forall₂_find? (fun row job same => by rw [same.id]) shows.jobs

theorem component? (shows : rows.Shows tables) (id : Text) :
    Option.Rel ComponentRow.Shows (rows.component? id) (tables.component? id) :=
  forall₂_find? (fun row component same => by rw [same.id]) shows.components

theorem insertJob (shows : rows.Shows tables) {row : JobRow} {job : Job} (same : row.Shows job) :
    SameResult Rows.Shows (rows.insertJob row) (tables.addJob job) := by
  have used := isSome_eq_of_rel (shows.job? job.id)
  rw [Rows.insertJob, Tables.addJob, same.id, same.progress, same.userId, used]
  split_ifs
  · exact .refused _
  · exact .refused _
  · exact .done ⟨List.rel_append shows.jobs (.cons same .nil), shows.components⟩

theorem updateJob (shows : rows.Shows tables) (id : Text) {change : JobRow → JobRow}
    {make : Job → Job} (changes : ∀ row job, row.Shows job → (change row).Shows (make job)) :
    (rows.updateJob id change).Shows (tables.changeJob id make) := by
  refine ⟨List.rel_map (fun row job same => ?_) shows.jobs, shows.components⟩
  rw [same.id]
  split_ifs
  · exact changes row job same
  · exact same

theorem setProgress (shows : rows.Shows tables) (id : Text) (progress : Int) :
    SameResult Rows.Shows (rows.setProgress id progress) (tables.setProgress id progress) := by
  rw [Rows.setProgress, Tables.setProgress]
  split_ifs
  · exact .done (shows.updateJob id fun _ _ same => { same with progress := rfl })
  · exact .refused _

theorem completeJob (shows : rows.Shows tables) (id time : Text) {column : Text} {output : Json}
    (isOutput : Json.ofColumn column = .ok output) :
    (rows.completeJob id column time).Shows (tables.completeJob id output time) :=
  shows.updateJob id fun _ _ same =>
    { same with status := rfl, progress := rfl, output := isOutput, completedAt := rfl }

theorem failJob (shows : rows.Shows tables) (id message time : Text) :
    (rows.failJob id message time).Shows (tables.failJob id message time) :=
  shows.updateJob id fun _ _ same =>
    { same with status := rfl, progress := rfl, errorMessage := rfl, completedAt := rfl }

theorem insertComponent (shows : rows.Shows tables) {row : ComponentRow}
    {component : ComponentRecord} (same : row.Shows component) :
    SameResult Rows.Shows (rows.insertComponent row) (tables.addComponent component) := by
  have used := isSome_eq_of_rel (shows.component? component.id)
  have owned := isSome_eq_of_rel (shows.job? component.jobId)
  have unowned : (rows.job? component.jobId).isNone = (tables.job? component.jobId).isNone := by
    rw [← Option.not_isSome, ← Option.not_isSome, owned]
  rw [Rows.insertComponent, Tables.addComponent, same.id, same.jobId, used, unowned]
  split_ifs
  · exact .refused _
  · exact .refused _
  · exact .done ⟨shows.jobs, List.rel_append shows.components (.cons same .nil)⟩

theorem jobsOfUser (shows : rows.Shows tables) (user limit : Int) :
    SameResult (List.Forall₂ JobRow.Shows) (rows.jobsOfUser user limit)
      (tables.jobsOfUser user limit) := by
  have own : List.Forall₂ JobRow.Shows (rows.jobs.reverse.filter fun row => row.userId == user)
      (tables.jobs.reverse.filter fun job => job.userId == user) :=
    forall₂_filter (fun row job same => by rw [same.userId]) (List.rel_reverse shows.jobs)
  have sorted := forall₂_mergeSort (p := fun row other => !decide (row.createdAt < other.createdAt))
    (q := fun job other => !decide (job.createdAt < other.createdAt))
    (fun row job other another same alike => by rw [same.createdAt, alike.createdAt]) own
  rw [Rows.jobsOfUser, Tables.jobsOfUser]
  split_ifs
  · exact .refused _
  · exact .done sorted
  · exact .done (List.forall₂_take _ sorted)

theorem statusCounts_eq (shows : rows.Shows tables) : rows.statusCounts = tables.statusCounts := by
  have counts (status : JobStatus) : (rows.jobs.countP fun row => row.status == status.name) =
      tables.jobs.countP fun job => job.status == status :=
    countP_eq_of_forall₂ (fun row job same => by
      rw [same.status, Bool.eq_iff_iff, beq_iff_eq, beq_iff_eq, JobStatus.name_inj]) shows.jobs
  simp only [Rows.statusCounts, Tables.statusCounts, counts]

theorem componentsOfJob (shows : rows.Shows tables) (jobId : Text) :
    List.Forall₂ ComponentRow.Shows (rows.componentsOfJob jobId) (tables.componentsOfJob jobId) :=
  forall₂_filter (fun row component same => by rw [same.jobId]) shows.components

end Rows.Shows

/-! ## Databases that show a store -/

namespace Database

variable {table : TableName} (database : Database)

theorem change_path (statement : Rows → Except StoreError Rows) :
    (database.change table statement).2.path = database.path := by
  cases isShown : database.rows table with
  | error error => rw [change_of_error isShown]
  | ok rows =>
      cases accepted : statement rows with
      | error error => rw [change_of_refused isShown accepted]
      | ok changed => rw [change_of_ok isShown accepted]

theorem changeWith_path {α : Type} (value : Except Json.WriteError α)
    (statement : α → Rows → Except StoreError Rows) :
    (database.changeWith table value statement).2.path = database.path := by
  cases value with
  | error error => rfl
  | ok given => exact database.change_path (statement given)

/-- No operation moves a database. -/
theorem run_path (operation : StoreOperation) :
    (database.run operation).2.path = database.path := by
  cases operation with
  | createJob | completeJob | createComponent => exact database.changeWith_path _ _
  | updateProgress | failJob => exact database.change_path _
  | getJob | listByUser | countByStatus | getComponent | listByJob => rfl
  | migrate =>
      obtain ⟨path, saved, connection⟩ := database
      match connection with
      | none | some ⟨_, false⟩ | some ⟨_, true⟩ => rfl
  | connect | close | exit => rfl
  | enter =>
      rw [run]
      split_ifs <;> rfl

end Database

/-- What a connection shows is what a store holds. -/
inductive Represents : Option Connection → Store → Prop
  | closed : Represents none .closed
  | bare (isOpen : Bool) : Represents (some ⟨none, isOpen⟩) .bare
  | ready (isOpen : Bool) {rows : Rows} {tables : Tables} (shows : rows.Shows tables) :
      Represents (some ⟨some rows, isOpen⟩) (.ready tables)

/-- An operation with values of the program. -/
def StoreOperation.IsValue : StoreOperation → Prop
  | .createJob job => job.IsValue
  | .completeJob _ output _ => output.IsValue
  | .createComponent component => component.IsValue
  | _ => True

/-- An operation with its values as they are read back. -/
def StoreOperation.joined : StoreOperation → StoreOperation
  | .createJob job => .createJob job.joined
  | .completeJob id output time => .completeJob id output.joined time
  | .createComponent component => .createComponent component.joined
  | operation => operation

/-- An operation that may begin a connection. -/
def StoreOperation.Connects : StoreOperation → Prop
  | .connect | .enter => True
  | _ => False

/-- The job that a row shows is what is answered. -/
theorem answer_of_job {stored : Option JobRow} {found : Option Job} :
    Option.Rel JobRow.Shows stored found →
      (match stored with
        | none => .ok (.job none)
        | some row => row.job.map fun job => .job (some job) : Except RowError StoreAnswer).mapError
          DatabaseError.unreadable = .ok (.job found) := by
  rintro (same | -)
  · simp only [same.job_eq]
    rfl
  · rfl

namespace Represents

variable {database : Database} {store : Store} {table : TableName}

/-- A statement that changes rows as the store changes its tables. -/
theorem change (represents : Represents database.connection store)
    {statement : Rows → Except StoreError Rows} {make : Tables → Except StoreError Tables}
    (changes : ∀ rows tables, rows.Shows tables →
      SameResult Rows.Shows (statement rows) (make tables)) :
    (database.change table statement).1 = (store.change table make).1.mapError .refused ∧
      Represents (database.change table statement).2.connection (store.change table make).2 := by
  obtain ⟨path, saved, connection⟩ := database
  cases represents with
  | closed => exact ⟨rfl, .closed⟩
  | bare isOpen => exact ⟨rfl, .bare isOpen⟩
  | @ready isOpen rows tables shows =>
      have made := changes rows tables shows
      generalize isStatement : statement rows = result at made
      generalize isMake : make tables = outcome at made
      simp only [Store.change, Store.tables, Except.bind, isMake]
      cases made with
      | refused error =>
          rw [Database.change_of_refused rfl isStatement]
          exact ⟨rfl, .ready true shows⟩
      | done related =>
          rw [Database.change_of_ok rfl isStatement]
          exact ⟨rfl, .ready false related⟩

/-- A statement with a value is refused for the value, or changes rows as the store changes
its tables. -/
theorem changeWith {α : Type} (represents : Represents database.connection store)
    (value : Except Json.WriteError α) {statement : α → Rows → Except StoreError Rows}
    {make : Tables → Except StoreError Tables}
    (changes : ∀ given, value = .ok given → ∀ rows tables, rows.Shows tables →
      SameResult Rows.Shows (statement given rows) (make tables)) :
    (∃ error, database.changeWith table value statement = (.error (.unwritable error), database)) ∨
      (database.changeWith table value statement).1 =
          (store.change table make).1.mapError .refused ∧
        Represents (database.changeWith table value statement).2.connection
          (store.change table make).2 := by
  cases value with
  | error error => exact .inl ⟨error, rfl⟩
  | ok given => exact .inr (represents.change (changes given rfl))

/-- A question about rows that is answered as the store answers it. -/
theorem ask {α : Type} (represents : Represents database.connection store)
    {select : Rows → Except StoreError α} {answer : α → Except RowError StoreAnswer}
    {question : Tables → Except StoreError StoreAnswer}
    (answers : ∀ rows tables, rows.Shows tables →
      ((select rows).mapError DatabaseError.refused >>= fun found =>
        (answer found).mapError .unreadable) = (question tables).mapError .refused) :
    (database.ask table select answer).1 = (store.ask table question).1.mapError .refused ∧
      Represents (database.ask table select answer).2.connection (store.ask table question).2 := by
  refine ⟨?_, represents⟩
  obtain ⟨path, saved, connection⟩ := database
  cases represents with
  | closed => rfl
  | bare isOpen => rfl
  | ready isOpen shows => exact answers _ _ shows

/-- Behind a new connection to rows that are lost with the last one, there are no tables. -/
theorem connect (passing : Database.isPassing database.path = true) :
    Represents database.connect.connection .bare := by
  have lost : database.connect.connection = some ⟨none, false⟩ := by
    simp [Database.connect, passing]
  rw [lost]
  exact .bare false

/-- A listing is answered as the store answers it. -/
theorem listByUser (represents : Represents database.connection store) (user limit : Int) :
    (database.run (.listByUser user limit)).1 =
        (store.run (.listByUser user limit)).1.mapError .refused ∧
      Represents (database.run (.listByUser user limit)).2.connection
        (store.run (.listByUser user limit)).2 := by
  refine represents.ask fun rows tables shows => ?_
  have found := shows.jobsOfUser user limit
  generalize rows.jobsOfUser user limit = result, tables.jobsOfUser user limit = outcome at found
  cases found with
  | refused error => rfl
  | @done rows jobs same =>
      change ((rows.mapM JobRow.job).map _).mapError _ = _
      rw [mapM_eq_ok_of_forall₂ (fun row job shows => shows.job_eq) same]
      rfl

/-- A database whose rows show the records of a store answers as the store does to the operation
with its values as they are read back. -/
theorem run (represents : Represents database.connection store) {operation : StoreOperation}
    (isValue : operation.IsValue)
    (anew : operation.Connects → Database.isPassing database.path = true) :
    (∃ error, database.run operation = (.error (.unwritable error), database)) ∨
      (database.run operation).1 = (store.run operation.joined).1.mapError .refused ∧
        Represents (database.run operation).2.connection (store.run operation.joined).2 := by
  cases operation with
  | createJob job =>
      exact represents.changeWith job.row fun row isRow rows tables shows =>
        shows.insertJob (isValue.shows isRow)
  | getJob id =>
      refine .inr (represents.ask fun rows tables shows => ?_)
      exact answer_of_job (shows.job? id)
  | updateProgress id progress =>
      exact .inr (represents.change fun rows tables shows => shows.setProgress id progress)
  | completeJob id output time =>
      exact represents.changeWith output.written fun column isWritten rows tables shows =>
        .done (shows.completeJob id time (isValue.ofColumn_of_written isWritten))
  | failJob id message time =>
      exact .inr (represents.change fun rows tables shows => .done (shows.failJob id message time))
  | listByUser user limit => exact .inr (represents.listByUser user limit)
  | countByStatus =>
      refine .inr (represents.ask fun rows tables shows => ?_)
      rw [shows.statusCounts_eq]
      rfl
  | createComponent component =>
      exact represents.changeWith component.row fun row isRow rows tables shows =>
        shows.insertComponent (isValue.shows isRow)
  | getComponent id =>
      refine .inr (represents.ask fun rows tables shows => ?_)
      have found := shows.component? id
      generalize rows.component? id = row, tables.component? id = component at found
      cases found with
      | none => rfl
      | @some row component same =>
          change (row.component.map _).mapError _ = _
          rw [same.component_eq]
          rfl
  | listByJob jobId =>
      refine .inr (represents.ask fun rows tables shows => ?_)
      change (((rows.componentsOfJob jobId).mapM ComponentRow.component).map _).mapError _ = _
      rw [mapM_eq_ok_of_forall₂ (fun row component shows => shows.component_eq)
        (shows.componentsOfJob jobId)]
      rfl
  | migrate =>
      obtain ⟨path, saved, connection⟩ := database
      cases represents with
      | closed => exact .inr ⟨rfl, .closed⟩
      | bare isOpen => cases isOpen <;> exact .inr ⟨rfl, .ready false .empty⟩
      | ready isOpen shows => cases isOpen <;> exact .inr ⟨rfl, .ready false shows⟩
  | connect => exact .inr ⟨rfl, connect (anew trivial)⟩
  | close => exact .inr ⟨rfl, .closed⟩
  | enter =>
      obtain ⟨path, saved, connection⟩ := database
      cases represents with
      | closed => exact .inr ⟨rfl, connect (anew trivial)⟩
      | bare isOpen => exact .inr ⟨rfl, .bare isOpen⟩
      | ready isOpen shows => exact .inr ⟨rfl, .ready isOpen shows⟩
  | exit => exact .inr ⟨rfl, .closed⟩

/-- Operations that are all written are answered as the store answers them, and the rows show
what the store holds in the end. Where they begin a connection, the rows must be lost with the
last one. -/
theorem runAll (represents : Represents database.connection store)
    {operations : List StoreOperation} (isValue : ∀ operation ∈ operations, operation.IsValue)
    (anew : ∀ operation ∈ operations, operation.Connects →
      Database.isPassing database.path = true)
    (writable : ∀ answer ∈ (database.runAll operations).1, ∀ error,
      answer ≠ .error (.unwritable error)) :
    (database.runAll operations).1 =
        (store.runAll (operations.map StoreOperation.joined)).1.map
          (fun answer => answer.mapError .refused) ∧
      Represents (database.runAll operations).2.connection
        (store.runAll (operations.map StoreOperation.joined)).2 := by
  induction operations generalizing database store with
  | nil => exact ⟨rfl, represents⟩
  | cons operation operations ih =>
      obtain ⟨isValueFirst, isValue⟩ := List.forall_mem_cons.mp isValue
      obtain ⟨anewFirst, anew⟩ := List.forall_mem_cons.mp anew
      obtain ⟨written, writable⟩ := List.forall_mem_cons.mp writable
      rcases represents.run isValueFirst anewFirst with ⟨error, refused⟩ | ⟨answer, next⟩
      · exact absurd (congrArg Prod.fst refused) (written error)
      · have path : (database.run operation).2.path = database.path := Database.run_path _ _
        rw [← path] at anew
        obtain ⟨others, last⟩ := ih next isValue anew writable
        refine ⟨?_, last⟩
        rw [Database.runAll, List.map_cons, Store.runAll, List.map_cons, ← answer, ← others]

end Represents

end DesignExport
