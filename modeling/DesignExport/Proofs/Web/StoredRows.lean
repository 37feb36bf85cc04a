/-
# The rows behind requests

The body of a request holds values of the program, and the sheets that are read or remembered
name no token twice. So the rows that requests leave in a database show the records of the
store, and what the responses report can be counted in the rows.
-/

import DesignExport.Proofs.Json.ReadValues
import DesignExport.Proofs.Service.StoredRows
import DesignExport.Proofs.Sheet.TokenIndex
import DesignExport.Proofs.Web.Invariant
import DesignExport.Proofs.Web.Recording

namespace DesignExport

/-! ## Sheets that are remembered -/

namespace Keyed

variable {κ ν : Type} [DecidableEq κ] {key : κ} {value : ν} {table : Keyed κ ν}

theorem mem_of_get? (found : get? key table = some value) : (key, value) ∈ table := by
  induction table with
  | nil => cases found
  | cons entry rest ih =>
      rw [get?] at found
      split_ifs at found with same
      · obtain rfl := same
        obtain rfl := Option.some.inj found
        exact List.mem_cons_self
      · exact List.mem_cons_of_mem entry (ih found)

/-- What is entered is the only value that comes to a table. -/
theorem mem_or_eq_of_mem_put {entry : κ × ν} (within : entry ∈ put key value table) :
    entry ∈ table ∨ entry.2 = value := by
  induction table with
  | nil => exact .inr (congrArg Prod.snd (List.mem_singleton.mp within))
  | cons first rest ih =>
      rw [put] at within
      split_ifs at within with same
      · rcases List.mem_cons.mp within with rfl | later
        · exact .inr rfl
        · exact .inl (List.mem_cons_of_mem first later)
      · rcases List.mem_cons.mp within with rfl | later
        · exact .inl List.mem_cons_self
        · exact (ih later).imp (List.mem_cons_of_mem first) id

end Keyed

theorem StyleSheet.isIndexed_ofText (text : Text) : (StyleSheet.ofText text).IsIndexed := by
  show ((Token.ofRules _).map Prod.fst).Nodup
  rw [PlacedToken.entries_eq]
  exact PlacedToken.nodup_keys _

/-- A reader that remembers no sheet in which a token is named twice. -/
def CachingReader.IsIndexed (reader : CachingReader) : Prop :=
  ∀ memory ∈ reader.memory, ∀ entry ∈ memory.entries, entry.2.IsIndexed

namespace CachingReader

variable {reader : CachingReader} {readSheet : List Nat → StyleSheet}

/-- A sheet that is entered is the only one that comes to a memory. -/
theorem IsIndexed.enter (isIndexed : reader.IsIndexed) {sheet : StyleSheet}
    (indexed : sheet.IsIndexed) (key : Text) : (reader.enter key sheet).2.IsIndexed := by
  obtain ⟨memory, hits, misses⟩ := reader
  cases memory with
  | none => exact nofun
  | some memory =>
      have all : ∀ entry ∈ Keyed.put key sheet memory.entries, entry.2.IsIndexed := by
        intro entry within
        rcases Keyed.mem_or_eq_of_mem_put within with before | new
        · exact isIndexed memory rfl entry before
        · rwa [new]
      rintro _ ⟨⟩
      rw [SheetMemory.enter]
      cases memory.bound with
      | none => exact all
      | some bound => exact fun entry within => all entry (List.mem_of_mem_drop within)

/-- A text is read as a sheet in which no token is named twice, also from memory. -/
theorem IsIndexed.read (isIndexed : reader.IsIndexed)
    (indexed : ∀ codes, (readSheet codes).IsIndexed) (codes : List Nat) :
    (∀ sheet, (reader.read readSheet codes).1 = .ok sheet → sheet.IsIndexed) ∧
      (reader.read readSheet codes).2.IsIndexed := by
  rw [CachingReader.read]
  cases SheetMemory.keyOf codes with
  | error error => exact ⟨nofun, isIndexed⟩
  | ok key =>
  dsimp only
  rw [readUnder]
  cases found : reader.get? key with
  | some sheet =>
      obtain ⟨memory, isMemory, isEntry⟩ := Option.bind_eq_some_iff.mp found
      refine ⟨?_, isIndexed⟩
      rintro _ ⟨⟩
      exact isIndexed memory isMemory _ (Keyed.mem_of_get? isEntry)
  | none =>
      have missed : CachingReader.IsIndexed { reader with misses := reader.misses + 1 } := isIndexed
      refine ⟨fun sheet isSheet => ?_, missed.enter (indexed codes) key⟩
      obtain ⟨_, -, rfl⟩ := Except.map_eq_ok.mp isSheet
      exact indexed codes

end CachingReader

namespace Web

open Service ServiceAction

/-- Under any settings an app reads sheets in which no token is named twice. -/
theorem readsIndexed_ofSettings (settings : Settings) (idOf timeOf : Nat → Text) :
    (App.ofSettings settings idOf timeOf).service.ReadsIndexed
      fun reader => ∀ given ∈ reader, given.IsIndexed where
  sheet {text reader sheet} sound isRead := by
    cases reader with
    | none =>
        obtain rfl := Except.ok.inj isRead
        exact StyleSheet.isIndexed_ofText text
    | some given =>
        exact ((sound given rfl).read (fun _ => StyleSheet.isIndexed_ofText _) _).1 sheet isRead
  reader {text reader} sound := by
    cases reader with
    | none => exact nofun
    | some given =>
        rintro _ ⟨⟩
        exact ((sound given rfl).read (fun _ => StyleSheet.isIndexed_ofText _) _).2

/-! ## Bodies of requests -/

theorem isData_memberOrNull {value : Json} (isData : value.IsData) (name : Text) :
    (value.memberOrNull name).IsData := by
  rw [Json.memberOrNull]
  cases found : value.member? name with
  | none => exact .null
  | some member =>
      cases isData with
      | object names each => exact each _ (Keyed.mem_of_get? found)
      | _ => cases found

/-- The body of a request is data. -/
theorem isData_of_bodyObject {request : Request} {body : Json}
    (isBody : bodyObject request = .ok body) : body.IsData := by
  have isData : ∀ value, request.json = .ok value → value.IsData := by
    intro value isJson
    rw [Request.json] at isJson
    split_ifs at isJson
    · split at isJson
      · cases isJson
      · obtain rfl := Except.ok.inj isJson
        exact .null
      · next value isBody =>
          obtain rfl := Except.ok.inj isJson
          obtain ⟨text, -, isRead⟩ := Except.bind_eq_ok.mp isBody
          exact Json.isData_of_read (Except.mapError_eq_ok.mp isRead)
    · obtain rfl := Except.ok.inj isJson
      exact .null
  rw [bodyObject] at isBody
  split at isBody
  · cases isBody
  · obtain rfl := Except.ok.inj isBody
    exact .object .nil (List.forall_mem_nil _)
  · next members isObject =>
      obtain rfl := Except.ok.inj isBody
      exact isData _ isObject
  · cases isBody

variable {σ : Type} {app : App σ} {sound : σ → Prop}

/-- A request performs operations that keep their values, and converts without naming a token
twice. -/
theorem App.admits_of_readsIndexed (indexed : app.service.ReadsIndexed sound)
    (request : Request) :
    app.Admits (ServiceState.Replays sound) StoreOperation.IsExact
      (fun conversion => conversion.sheet.IsIndexed) request where
  allows operation asks := by
    cases asks with
    | submits isBody isUser submits =>
        have isData := isData_of_bodyObject isBody
        exact submits.isExact (isData_memberOrNull isData _).isValue
          (isData_memberOrNull isData _).isValue
    | listByUser | getJob | getComponent | countByStatus => trivial
  converting body _ := indexed.converts _

/-- The words for the states of jobs stand in the rows that show them. -/
theorem map_status_eq {rows : List JobRow} {jobs : List Job}
    (shows : List.Forall₂ JobRow.Shows rows jobs) :
    rows.map JobRow.status = jobs.map fun job => job.status.name := by
  induction shows with
  | nil => rfl
  | cons first _ ih => rw [List.map_cons, List.map_cons, first.status, ih]

/-- Behind any requests, the same operations on a database with empty tables are answered as
the store answered them, and leave rows that show the records of the store. So many of these
rows are in a state as the responses have reported it; and of the stranded requests each has
left one more that is processing. It is asked that the database could write every value: no
input of a job is performed that it could not, but a sheet may hold more rules than there are
numbers with a written form. -/
theorem rows_report (distinct : Function.Injective app.service.idOf)
    (indexed : app.service.ReadsIndexed sound) {reader : σ} (isSound : sound reader)
    (history : List Request) {database : Database}
    (represents : Represents database.connection .empty) :
    let start : ServiceState σ := { reader := reader }
    let past := app.handleAll start history
    let after := database.runAll past.2.performed
    (∀ answer ∈ after.1, ∀ error, answer ≠ .error (.unwritable error)) →
      after.1 = (Store.empty.runAll past.2.performed).1.map
        (fun answer => answer.mapError .refused) ∧
      ∃ rows isOpen tables, after.2.connection = some ⟨some rows, isOpen⟩ ∧
        rows.Shows tables ∧ past.2.store = .ready tables ∧
        ∀ word, (rows.jobs.map JobRow.status).count word =
          (past.1.filterMap Response.reported?).count word +
            if word = JobStatus.processing.name then app.strandedCount start history else 0 := by
  intro start past after writable
  have replays : past.2.Replays sound :=
    App.invariant_handleAll (app.service.maintains_replays sound)
      (fun request _ => App.admits_of_readsIndexed indexed request)
      ⟨List.forall_mem_nil _, rfl, isSound⟩
  obtain ⟨answers, shown⟩ := replays.represents represents writable
  obtain ⟨tables, has, counts⟩ :=
    App.exists_handleAll distinct (app.service.hasRows_start reader) history
  have isStore : past.2.store = .ready tables := has.store
  rw [isStore] at shown
  refine ⟨answers, ?_⟩
  show ∃ rows isOpen tables, (database.runAll past.2.performed).2.connection = _ ∧ _
  generalize (database.runAll past.2.performed).2.connection = connection at shown ⊢
  cases shown with
  | @ready isOpen rows tables shows =>
      refine ⟨rows, isOpen, tables, rfl, shows, isStore, fun word => ?_⟩
      have none : (statusWords {}).count word = 0 := rfl
      rw [map_status_eq shows.jobs]
      exact (counts word).trans (by rw [none, Nat.zero_add])

/-- Under any settings the rows that requests leave in new tables are counted by what the
responses report. -/
theorem rows_report_ofSettings {idOf : Nat → Text} (distinct : Function.Injective idOf)
    (settings : Settings) (timeOf : Nat → Text) (history : List Request) :
    let app := App.ofSettings settings idOf timeOf
    let past := app.handleAll (App.start settings) history
    let after := Database.runAll { connection := some ⟨some {}, false⟩ } past.2.performed
    (∀ answer ∈ after.1, ∀ error, answer ≠ .error (.unwritable error)) →
      ∃ rows isOpen, after.2.connection = some ⟨some rows, isOpen⟩ ∧
        ∀ word, (rows.jobs.map JobRow.status).count word =
          (past.1.filterMap Response.reported?).count word +
            if word = JobStatus.processing.name then
              app.strandedCount (App.start settings) history
            else 0 := by
  intro app past after writable
  have isSound : ∀ given ∈ readerOf settings, given.IsIndexed := by
    rw [readerOf]
    split_ifs
    · rintro _ ⟨⟩ _ ⟨⟩
      exact List.forall_mem_nil _
    · exact nofun
  obtain ⟨-, rows, isOpen, tables, isConnection, -, -, counts⟩ :=
    rows_report distinct (readsIndexed_ofSettings settings idOf timeOf) isSound history
      (.ready false .empty) writable
  exact ⟨rows, isOpen, isConnection, counts⟩

end Web

end DesignExport
