/-
# The reader between conversions

Only a conversion touches the state of the reader. So what conversions keep of it holds
behind every request, whatever becomes of the store.
-/

import DesignExport.Proofs.Web.Invariant

namespace DesignExport

variable {σ : Type} {holds : σ → Prop}

namespace Service

open ServiceAction

variable {service : Service σ} {css : Json}

/-- What holds of the reader is kept by everything but conversions. -/
theorem maintains_reader (service : Service σ) (holds : σ → Prop) :
    service.Maintains (fun state => holds state.reader) fun _ => True where
  ids _ _ held := held
  times _ _ held := held
  perform operation _ := .of_eq fun state => reader_outcome_perform service state operation

/-- Converting CSS input keeps what holds of the reader. -/
def KeepsConverting (service : Service σ) (holds : σ → Prop) (css : Json) : Prop :=
  ∀ reader, holds reader → holds (service.converted css reader).2

/-- A conversion keeps what holds of the reader if reading its text does. -/
theorem keepsConverting_of_reads
    (reads : ∀ text, CssText.check service.limit css = .ok text → ∀ reader, holds reader →
      holds (service.readSheet (Sanitizer.sanitize text) reader).2) :
    service.KeepsConverting holds css := by
  intro reader held
  cases checked : CssText.check service.limit css with
  | error refusal => rwa [converted_of_error checked]
  | ok text =>
      cases broken : service.encodingProblem css with
      | some problem => rwa [converted_of_problem checked broken]
      | none =>
          rw [converted_of_ok checked broken]
          exact reads text checked reader held

theorem KeepsConverting.converts (keeps : service.KeepsConverting holds css) :
    service.Converts (fun state => holds state.reader) (fun _ => True) css := by
  intro state held
  have kept := keeps state.reader held
  rw [outcome_convert]
  generalize service.converted css state.reader = result at kept ⊢
  obtain ⟨answer, reader⟩ := result
  cases answer with
  | error problem => exact kept
  | ok conversion => exact ⟨kept, trivial⟩

end Service

namespace Web

open Service

variable {app : App σ} {request : Request}

/-- The style sheets that a request can bring are converted without losing what holds of the
reader. -/
def App.KeepsRequest (app : App σ) (holds : σ → Prop) (request : Request) : Prop :=
  ∀ body, bodyObject request = .ok body →
    app.service.KeepsConverting holds (body.memberOrNull "cssCode")

theorem App.KeepsRequest.admits (keeps : app.KeepsRequest holds request) :
    app.Admits (fun state => holds state.reader) (fun _ => True) (fun _ => True) request where
  allows _ _ := trivial
  converting body isBody := (keeps body isBody).converts

/-- Requests one after the other keep what holds of the reader if their conversions do. -/
theorem App.holds_handleAll {history : List Request}
    (keeps : ∀ request ∈ history, app.KeepsRequest holds request) {state : ServiceState σ}
    (held : holds state.reader) : holds (app.handleAll state history).2.reader := by
  have admits := fun request within => (keeps request within).admits
  exact invariant_handleAll (maintains_reader app.service holds) admits held

end Web

end DesignExport
