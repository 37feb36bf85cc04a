/-
# The rows behind a service

A service keeps its records in a store. The same operations on a database leave rows from which
the records of the store are read: everything that a service records comes back as it is, since
the input of a job is recorded as it is read back and all else is texts and counts. So what is
known of the store of a service is known of the rows that it leaves.

An operation that the service refuses for the input of a job is refused by the database too,
and changes nothing there.
-/

import DesignExport.Proofs.Service.Invariant
import DesignExport.Proofs.Service.JobLifecycle
import DesignExport.Proofs.Store.Representation

namespace DesignExport

/-! ## Operations that keep their values -/

/-- An operation whose values come back as they are. It leaves the connection and the tables
themselves alone. -/
def StoreOperation.IsExact : StoreOperation → Prop
  | .createJob job => job.input.IsData ∧ job.output.IsData
  | .completeJob _ output _ => output.IsData
  | .createComponent component =>
    component.sourceData.IsData ∧ component.generatedCode.IsData ∧
      component.designTokens.IsData ∧ component.metadata.IsData
  | .migrate | .connect | .close | .enter | .exit => False
  | _ => True

namespace StoreOperation

variable {operation : StoreOperation}

theorem IsExact.isValue (isExact : operation.IsExact) : operation.IsValue := by
  cases operation with
  | createJob job => exact ⟨isExact.1.isValue, isExact.2.isValue⟩
  | completeJob id output time => exact Json.IsData.isValue isExact
  | createComponent component =>
      obtain ⟨source, code, tokens, metadata⟩ := isExact
      exact ⟨source.isValue, code.isValue, tokens.isValue, metadata.isValue⟩
  | _ => trivial

theorem IsExact.joined_eq (isExact : operation.IsExact) : operation.joined = operation := by
  cases operation with
  | createJob job =>
      show StoreOperation.createJob job.joined = _
      rw [Job.joined, isExact.1.joined_eq, isExact.2.joined_eq]
  | completeJob id output time =>
      show StoreOperation.completeJob id output.joined time = _
      rw [Json.IsData.joined_eq isExact]
  | createComponent component =>
      obtain ⟨source, code, tokens, metadata⟩ := isExact
      show StoreOperation.createComponent component.joined = _
      rw [ComponentRecord.joined, source.joined_eq, code.joined_eq, tokens.joined_eq,
        metadata.joined_eq]
  | _ => rfl

theorem IsExact.not_connects (isExact : operation.IsExact) : ¬operation.Connects := by
  cases operation with
  | connect | enter => exact fun _ => isExact
  | _ => exact id

end StoreOperation

namespace Store

theorem runAll_append (store : Store) (first second : List StoreOperation) :
    store.runAll (first ++ second) =
      ((store.runAll first).1 ++ ((store.runAll first).2.runAll second).1,
        ((store.runAll first).2.runAll second).2) := by
  induction first generalizing store with
  | nil => rfl
  | cons operation first ih =>
      have others := ih (store.run operation).2
      simp only [List.cons_append, runAll, others]

end Store

/-! ## What a service has done to its store -/

variable {σ : Type}

/-- The store of a service is what its operations leave of an empty one, the values of the
operations come back as they are, and the state of the reader is sound. -/
structure ServiceState.Replays (sound : σ → Prop) (state : ServiceState σ) : Prop where
  exact : ∀ operation ∈ state.performed, operation.IsExact
  store : (Store.empty.runAll state.performed).2 = state.store
  reader : sound state.reader

/-- A sheet in which no token is named twice. -/
def StyleSheet.IsIndexed (sheet : StyleSheet) : Prop := (sheet.tokens.map Prod.fst).Nodup

/-- A service that reads sheets in which no token is named twice, while the state of its reader
is sound. -/
structure Service.ReadsIndexed (service : Service σ) (sound : σ → Prop) : Prop where
  sheet : ∀ {text : Text} {reader : σ} {sheet : StyleSheet}, sound reader →
    (service.readSheet text reader).1 = .ok sheet → sheet.IsIndexed
  reader : ∀ {text : Text} {reader : σ}, sound reader → sound (service.readSheet text reader).2

namespace Service

open ServiceAction

variable {service : Service σ} {sound : σ → Prop} {css options : Json}

/-! ## Values that a service records -/

theorem isData_joined_inputOf (isCss : css.IsValue) (isOptions : options.IsValue) :
    (inputOf css options).joined.IsData := by
  have names : (["cssCode", "options"] : List Text).Nodup := by decide
  have given : (if options.isFalsy then Json.object [] else options).IsValue := by
    split_ifs
    · exact .object .nil (List.forall_mem_nil _)
    · exact isOptions
  have isInput : (inputOf css options).IsValue :=
    .object names (List.forall_mem_cons.mpr
      ⟨isCss, List.forall_mem_cons.mpr ⟨given, List.forall_mem_nil _⟩⟩)
  exact isInput.isData_joined

theorem isData_members (code : GeneratedCode) : (Json.object code.members).IsData := by
  have names : (["jsx", "css", "html", "tailwindClasses", "customStyles"] : List Text).Nodup := by
    decide
  refine .object names ?_
  simp only [GeneratedCode.members, List.forall_mem_cons]
  refine ⟨.text _, .text _, .text _, .text _, ?_, List.forall_mem_nil _⟩
  exact .array (List.forall_mem_map.mpr fun style _ => .text style)

theorem isData_tokens {conversion : Conversion}
    (indexed : conversion.sheet.IsIndexed) : conversion.tokens.IsData := by
  refine .object ?_ (List.forall_mem_map.mpr fun token _ => .text token.2)
  rwa [List.map_map]

theorem isData_stats (conversion : Conversion) : conversion.stats.IsData := by
  have names : (["rules", "declarations", "animations", "responsiveRules", "customProperties",
    "layoutType", "tailwindClassCount", "customStyleCount"] : List Text).Nodup := by decide
  refine .object names ?_
  simp only [List.forall_mem_cons]
  exact ⟨.int _, .int _, .int _, .int _, .int _, .text _, .int _, .int _, List.forall_mem_nil _⟩

theorem isExact_createComponent {conversion : Conversion} (isCss : css.IsValue)
    (indexed : conversion.sheet.IsIndexed)
    (jobId id extractedAt createdAt : Text) :
    (StoreOperation.createComponent
      (componentOf jobId css id extractedAt createdAt conversion)).IsExact := by
  have isSource : (Json.object [("cssCode", css)]).IsValue :=
    .object (List.nodup_singleton _) (List.forall_mem_cons.mpr ⟨isCss, List.forall_mem_nil _⟩)
  have names : (["extractedAt", "cssRulesCount"] : List Text).Nodup := by decide
  refine ⟨isSource.isData_joined, isData_members _, isData_tokens indexed, .object names ?_⟩
  simp only [List.forall_mem_cons]
  exact ⟨.text _, .int _, List.forall_mem_nil _⟩

theorem isData_outputOf {component : ComponentRecord} (isCode : component.generatedCode.IsData)
    (conversion : Conversion) : (outputOf component conversion).IsData := by
  have names : (["componentId", "componentName", "stats", "generatedCode"] : List Text).Nodup := by
    decide
  refine .object names ?_
  simp only [List.forall_mem_cons]
  exact ⟨.text _, .text _, isData_stats conversion, isCode, List.forall_mem_nil _⟩

/-- Whatever a submission of values of the program performs keeps its values. -/
theorem Submits.isExact {user : Int} {operation : StoreOperation} (isCss : css.IsValue)
    (isOptions : options.IsValue)
    (submits : Submits css options user
      (fun conversion => conversion.sheet.IsIndexed) operation) :
    operation.IsExact := by
  cases submits with
  | createJob id createdAt => exact ⟨isData_joined_inputOf isCss isOptions, .null⟩
  | createComponent indexed jobId id extractedAt createdAt =>
      exact isExact_createComponent isCss indexed jobId id extractedAt createdAt
  | completeJob indexed jobId id extractedAt createdAt completedAt =>
      exact isData_outputOf (isData_members _) _
  | updateProgress | failJob | getJob => trivial

/-! ## Services -/

/-- The store stays what the operations leave when one more is performed. -/
theorem maintains_replays (service : Service σ) (sound : σ → Prop) :
    service.Maintains (ServiceState.Replays sound) StoreOperation.IsExact where
  ids _ _ replays := ⟨replays.exact, replays.store, replays.reader⟩
  times _ _ replays := ⟨replays.exact, replays.store, replays.reader⟩
  perform operation isExact := by
    refine keeps_iff.mpr fun state replays => ?_
    cases refused : service.refusalOf operation with
    | some problem =>
        rw [perform, refused]
        exact replays
    | none =>
        cases run : state.store.run operation with
        | mk answer store =>
            have exact : ∀ performed ∈ state.performed ++ [operation], performed.IsExact :=
              List.forall_mem_append.mpr ⟨replays.exact, List.forall_mem_singleton.mpr isExact⟩
            rw [outcome_perform refused run]
            refine ⟨exact, ?_, replays.reader⟩
            rw [Store.runAll_append, replays.store, Store.runAll, run]
            rfl

/-- A conversion names no token twice, and leaves the reader sound. -/
theorem ReadsIndexed.converted (reads : service.ReadsIndexed sound) {reader : σ}
    (isSound : sound reader) (css : Json) :
    sound (service.converted css reader).2 ∧
      ∀ conversion, (service.converted css reader).1 = .ok conversion →
        conversion.sheet.IsIndexed := by
  cases checked : CssText.check service.limit css with
  | error refusal =>
      rw [converted_of_error checked]
      exact ⟨isSound, nofun⟩
  | ok text =>
  cases broken : service.encodingProblem css with
  | some problem =>
      rw [converted_of_problem checked broken]
      exact ⟨isSound, nofun⟩
  | none =>
      rw [converted_of_ok checked broken]
      refine ⟨reads.reader isSound, fun conversion converts => ?_⟩
      obtain ⟨sheet, isRead, rfl⟩ := Except.map_eq_ok.mp converts
      exact reads.sheet isSound isRead

theorem ReadsIndexed.converts (reads : service.ReadsIndexed sound) (css : Json) :
    service.Converts (ServiceState.Replays sound)
      (fun conversion => conversion.sheet.IsIndexed) css := by
  intro state replays
  obtain ⟨isSound, indexed⟩ := reads.converted replays.reader css
  rw [outcome_convert]
  generalize service.converted css state.reader = result at isSound indexed
  obtain ⟨answer, reader⟩ := result
  cases answer with
  | error problem => exact ⟨replays.exact, replays.store, isSound⟩
  | ok conversion => exact ⟨⟨replays.exact, replays.store, isSound⟩, indexed conversion rfl⟩

/-- Submissions of values of the program keep the store what the operations leave. -/
theorem ReadsIndexed.replays_stateAfter (reads : service.ReadsIndexed sound)
    {history : List Submission}
    (values : ∀ submission ∈ history, submission.css.IsValue ∧ submission.options.IsValue)
    {state : ServiceState σ} (replays : state.Replays sound) :
    (service.stateAfter state history).Replays sound := by
  induction history generalizing state with
  | nil => exact replays
  | cons submission later ih =>
      obtain ⟨⟨isCss, isOptions⟩, values⟩ := List.forall_mem_cons.mp values
      -- In the time of the submission sheets are read as before.
      have reads : (service.during submission).ReadsIndexed sound := ⟨reads.sheet, reads.reader⟩
      have keeps : ServiceAction.Keeps (ServiceState.Replays sound)
          ((service.during submission).submit submission.css submission.options submission.user) :=
        ((service.during submission).maintains_replays sound).submit
          (fun _ => Submits.isExact isCss isOptions) (reads.converts submission.css)
      exact ih values (keeps_iff.mp keeps state replays)

end Service

/-! ## Databases -/

/-- A job that the service refuses is refused by a database for the same reason, and nothing
changes there. -/
theorem Service.run_createJob_of_refusal {service : Service σ} {job : Job} {problem : Problem}
    (refused : service.refusalOf (.createJob job) = some problem) (database : Database) :
    ∃ error, problem = .ofWriteError error ∧
      database.run (.createJob job) = (.error (.unwritable error), database) := by
  cases written : job.input.checkWritten with
  | ok =>
      rw [refusalOf_createJob_of_written written] at refused
      cases refused
  | error error =>
      rw [refusalOf_createJob_of_unwritten written] at refused
      have noRow : job.row = .error error := by
        rw [Job.row, Json.written, written]
        rfl
      refine ⟨error, (Option.some.inj refused).symm, ?_⟩
      rw [Database.run, noRow]
      rfl

/-- A database on which the operations of a service are run answers as the store of the service
did, and its rows show what the store holds. -/
theorem ServiceState.Replays.represents {sound : σ → Prop} {state : ServiceState σ}
    (replays : state.Replays sound) {database : Database}
    (represents : Represents database.connection .empty)
    (writable : ∀ answer ∈ (database.runAll state.performed).1, ∀ error,
      answer ≠ .error (.unwritable error)) :
    (database.runAll state.performed).1 =
        (Store.empty.runAll state.performed).1.map (fun answer => answer.mapError .refused) ∧
      Represents (database.runAll state.performed).2.connection state.store := by
  have isValue : ∀ operation ∈ state.performed, operation.IsValue :=
    fun operation within => (replays.exact operation within).isValue
  have same : ∀ operation ∈ state.performed, operation.joined = operation :=
    fun operation within => (replays.exact operation within).joined_eq
  have joined : state.performed.map StoreOperation.joined = state.performed := by
    rw [List.map_congr_left same, List.map_id']
  have anew : ∀ operation ∈ state.performed, operation.Connects →
      Database.isPassing database.path = true :=
    fun operation within connects => absurd connects (replays.exact operation within).not_connects
  have shown := represents.runAll isValue anew writable
  rwa [joined, replays.store] at shown

/-- Behind any submissions to an empty store, the same operations on a database with empty
tables leave rows of jobs that have all ended, if the database could write every value. -/
theorem rows_settled {service : Service σ} {sound : σ → Prop}
    (distinct : Function.Injective service.idOf) (timed : ∀ n, service.timeOf n ≠ [])
    (recordable : service.ReadsRecordably) (indexed : service.ReadsIndexed sound) {reader : σ}
    (isSound : sound reader) {history : List Submission}
    (usual : ∀ submission ∈ history, submission.IsUsual)
    (values : ∀ submission ∈ history, submission.css.IsValue ∧ submission.options.IsValue)
    {database : Database} (represents : Represents database.connection .empty) :
    let state := service.stateAfter { reader := reader } history
    (∀ answer ∈ (database.runAll state.performed).1, ∀ error,
      answer ≠ .error (.unwritable error)) →
    ∃ rows isOpen tables,
      (database.runAll state.performed).2.connection = some ⟨some rows, isOpen⟩ ∧
        rows.Shows tables ∧ tables.IsSettled ∧ state.store = .ready tables := by
  intro state writable
  have start : ({ reader := reader } : ServiceState σ).Replays sound :=
    ⟨List.forall_mem_nil _, rfl, isSound⟩
  have shown := ((indexed.replays_stateAfter values start).represents represents writable).2
  have empty : service.Keeps ({ reader := reader } : ServiceState σ).ids {} := service.keeps_empty
  obtain ⟨tables, isStore, keeps⟩ :=
    Service.exists_stateAfter distinct timed recordable usual empty rfl
  change state.store = .ready tables at isStore
  rw [isStore] at shown
  generalize (database.runAll state.performed).2.connection = connection at shown ⊢
  cases shown with
  | ready isOpen shows => exact ⟨_, isOpen, tables, rfl, shows, keeps.settled, isStore⟩

end DesignExport
