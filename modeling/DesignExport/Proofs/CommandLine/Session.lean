/-
# What a session does

A session adds effects to those that are there, and gives a value or ends. Which kinds of
effects it adds and what is known of the value is proved part by part, as the session is put
together from its parts; what holds of the session holds of its run.
-/

import DesignExport.CommandLine.Session

namespace DesignExport.CommandLine

/-- An effect that only shows something to the user. -/
inductive Effect.IsShown : Effect → Prop where
  | print (line : Text) : IsShown (.print line)
  | complain (line : Text) : IsShown (.complain line)

/-- The run that shows what a session came to. -/
def Run.ofOutcome : Except Ending Unit × List Effect → Run
  | (.ok (), effects) => ⟨effects, .exit 0⟩
  | (.error ending, effects) => ⟨effects, ending⟩

/-- The run that ends with complaints behind effects. -/
def Run.refused (begun : List Effect) (lines : List Text) : Run :=
  ⟨begun ++ lines.map fun line => .complain (Text.withoutCodes line), .exit 1⟩

namespace Session

variable {α β ε : Type}

/-- What a session comes to when some effects are there: its value or its ending, and the
effects behind it. -/
def outcome (session : Session α) (before : List Effect) : Except Ending α × List Effect :=
  (ExceptT.run session).run before

/-- A session that only adds effects of a kind, and gives a value of a kind unless it ends. -/
def Does (kind : Effect → Prop) (gives : α → Prop) (session : Session α) : Prop :=
  ∀ before, ∃ added, (outcome session before).2 = before ++ added ∧
    (∀ effect ∈ added, kind effect) ∧
    ∀ value, (outcome session before).1 = .ok value → gives value

variable {kind : Effect → Prop} {gives : α → Prop}

/-! ## How sessions are put together -/

theorem does_pure {value : α} (given : gives value) : Does kind gives (pure value) := by
  intro before
  refine ⟨[], (List.append_nil before).symm, by simp, ?_⟩
  rintro _ ⟨⟩
  exact given

theorem does_throw (ending : Ending) : Does kind gives (throw ending) := by
  intro before
  exact ⟨[], (List.append_nil before).symm, by simp, nofun⟩

theorem does_emit {effect : Effect} (isKind : kind effect) :
    Does kind (fun _ => True) (emit effect) := by
  intro before
  exact ⟨[effect], rfl, by simpa using isKind, fun _ _ => trivial⟩

theorem outcome_bind (first : Session α) (next : α → Session β) (before : List Effect) :
    outcome (first >>= next) before =
      match outcome first before with
      | (.ok value, behind) => outcome (next value) behind
      | (.error ending, behind) => (.error ending, behind) := by
  rw [outcome, ExceptT.run_bind, StateT.run_bind]
  rw [outcome]
  generalize StateT.run (ExceptT.run first) before = answer
  obtain ⟨value | ending, behind⟩ := answer <;> rfl

theorem Does.bind {given : α → Prop} {gives : β → Prop} {first : Session α}
    {next : α → Session β} (does : Does kind given first)
    (more : ∀ value, given value → Does kind gives (next value)) :
    Does kind gives (first >>= next) := by
  intro before
  obtain ⟨added, behind, kinds, value⟩ := does before
  rw [outcome_bind]
  generalize outcome first before = answer at behind value
  obtain ⟨ending | result, after⟩ := answer
  · exact ⟨added, behind, kinds, nofun⟩
  · obtain ⟨later, laterBehind, laterKinds, laterValue⟩ := more result (value result rfl) after
    refine ⟨added ++ later, ?_, List.forall_mem_append.mpr ⟨kinds, laterKinds⟩, laterValue⟩
    dsimp only at behind
    rw [laterBehind, behind, List.append_assoc]

/-- Less is known of the value, and more kinds of effects are let through. -/
theorem Does.mono {wider : Effect → Prop} {weaker : α → Prop} {session : Session α}
    (does : Does kind gives session) (kinds : ∀ effect, kind effect → wider effect)
    (values : ∀ value, gives value → weaker value) : Does wider weaker session := by
  intro before
  obtain ⟨added, behind, isKind, value⟩ := does before
  exact ⟨added, behind, fun effect within => kinds effect (isKind effect within),
    fun result isResult => values result (value result isResult)⟩

theorem Does.forM {items : List α} {act : α → Session Unit}
    (each : ∀ item ∈ items, Does kind (fun _ => True) (act item)) :
    Does kind (fun _ => True) (items.forM act) := by
  induction items with
  | nil => exact does_pure trivial
  | cons item more ih =>
      exact (each item List.mem_cons_self).bind fun _ _ =>
        ih fun later within => each later (List.mem_cons_of_mem item within)

/-- A run shows what its session comes to where no effects are there. -/
theorem run_eq (session : Session Unit) : run session = .ofOutcome (outcome session []) := rfl

theorem outcome_emit (effect : Effect) (before : List Effect) :
    outcome (emit effect) before = (.ok (), before ++ [effect]) := rfl

theorem outcome_orCrash_ok (crash : ε → Crash) (value : α) (before : List Effect) :
    outcome (orCrash crash (.ok value)) before = (.ok value, before) := rfl

theorem outcome_orCrash_error (crash : ε → Crash) (error : ε) (before : List Effect) :
    outcome (orCrash crash (.error error) : Session α) before =
      (.error (.crash (crash error)), before) := rfl

/-- A session that ends leaves nothing to go on with. -/
theorem outcome_bind_of_error {first : Session α} {before behind : List Effect} {ending : Ending}
    (ended : outcome first before = (.error ending, behind)) (next : α → Session β) :
    outcome (first >>= next) before = (.error ending, behind) := by
  rw [outcome_bind, ended]

theorem outcome_bind_of_ok {first : Session α} {before behind : List Effect} {value : α}
    (given : outcome first before = (.ok value, behind)) (next : α → Session β) :
    outcome (first >>= next) before = outcome (next value) behind := by
  rw [outcome_bind, given]

/-- A session that goes through items and leaves everything as it is. -/
theorem outcome_forM {items : List α} {act : α → Session Unit} {before : List Effect}
    (each : ∀ item ∈ items, outcome (act item) before = (.ok (), before)) :
    outcome (items.forM act) before = (.ok (), before) := by
  induction items with
  | nil => rfl
  | cons item more ih =>
      obtain ⟨first, others⟩ := List.forall_mem_cons.mp each
      exact (outcome_bind_of_ok first _).trans (ih others)

/-- Complaints are shown in their order, and the session ends. -/
theorem outcome_refuse (lines : List Text) (before : List Effect) :
    outcome (refuse lines : Session α) before =
      (.error (.exit 1), before ++ lines.map fun line => .complain (Text.withoutCodes line)) := by
  have complained : outcome (lines.forM complain) before =
      (.ok (), before ++ lines.map fun line => .complain (Text.withoutCodes line)) := by
    induction lines generalizing before with
    | nil => rw [List.map_nil, List.append_nil]; rfl
    | cons line more ih =>
        refine (outcome_bind_of_ok (outcome_emit _ before) _).trans ((ih _).trans ?_)
        rw [List.map_cons, List.append_assoc, List.singleton_append]
  exact outcome_bind_of_ok complained _

/-! ## The parts of sessions -/

theorem does_print (line : Text) : Does Effect.IsShown (fun _ => True) (print line) :=
  does_emit (.print _)

end Session

end DesignExport.CommandLine
