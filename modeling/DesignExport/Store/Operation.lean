/-
# Operations of the store

Every use of the store is an operation with an answer. A refused operation
leaves the store as it is.
-/

import DesignExport.Store.Basic

namespace DesignExport

/-- The operations of the store. -/
inductive StoreOperation where
  | createJob (job : Job)
  | getJob (id : Text)
  | updateProgress (id : Text) (progress : Int)
  | completeJob (id : Text) (output : Json) (time : Text)
  | failJob (id message time : Text)
  | listByUser (user limit : Int)
  | countByStatus
  | createComponent (component : ComponentRecord)
  | getComponent (id : Text)
  | listByJob (jobId : Text)
  | migrate
  | connect
  | close
  | enter
  | exit

/-- The answers of the store. -/
inductive StoreAnswer where
  | done
  | job (found : Option Job)
  | jobs (found : List Job)
  | component (found : Option ComponentRecord)
  | components (found : List ComponentRecord)
  | counts (found : Keyed JobStatus Nat)

namespace Store

/-- A change of the tables as an operation on the named one. -/
def change (table : TableName) (store : Store) (make : Tables → Except StoreError Tables) :
    Except StoreError StoreAnswer × Store :=
  match (store.tables table).bind make with
  | .ok tables => (.ok .done, ready tables)
  | .error error => (.error error, store)

/-- A question about the named table. -/
def ask (table : TableName) (store : Store) (answer : Tables → Except StoreError StoreAnswer) :
    Except StoreError StoreAnswer × Store :=
  ((store.tables table).bind answer, store)

/-- The answer to an operation, and the store after it. -/
def run (store : Store) : StoreOperation → Except StoreError StoreAnswer × Store
  | .createJob job => store.change .jobs fun tables => tables.addJob job
  | .getJob id => store.ask .jobs fun tables => .ok (.job (tables.job? id))
  | .updateProgress id progress => store.change .jobs fun tables => tables.setProgress id progress
  | .completeJob id output time =>
    store.change .jobs fun tables => .ok (tables.completeJob id output time)
  | .failJob id message time => store.change .jobs fun tables => .ok (tables.failJob id message time)
  | .listByUser user limit =>
    store.ask .jobs fun tables => (tables.jobsOfUser user limit).map StoreAnswer.jobs
  | .countByStatus => store.ask .jobs fun tables => .ok (.counts tables.statusCounts)
  | .createComponent component =>
    store.change .components fun tables => tables.addComponent component
  | .getComponent id => store.ask .components fun tables => .ok (.component (tables.component? id))
  | .listByJob jobId =>
    store.ask .components fun tables => .ok (.components (tables.componentsOfJob jobId))
  | .migrate =>
    match store with
    | closed => (.error .notConnected, closed)
    | bare => (.ok .done, empty)
    | ready tables => (.ok .done, ready tables)
  | .connect => (.ok .done, bare)
  | .close | .exit => (.ok .done, closed)
  | .enter =>
    match store with
    | closed => (.ok .done, bare)
    | connected => (.ok .done, connected)

/-- The answers to operations one after the other, and the store after them. -/
def runAll (store : Store) : List StoreOperation → List (Except StoreError StoreAnswer) × Store
  | [] => ([], store)
  | operation :: rest =>
    let first := store.run operation
    let others := runAll first.2 rest
    (first.1 :: others.1, others.2)

end Store

end DesignExport
