/-
# What is made of replies

A reply is reported if it brings a document only with a status of success and JSON in its
body, and otherwise a fault: one of the network with its cause where there is no response,
and one of the service with its status where that is no success. Every reply is reported but
for four kinds: exchanges that were abandoned, responses to a URL without a scheme, responses
with a status below all successes, and successes whose body is not JSON.
-/

import DesignExport.Figma.Client

namespace DesignExport

/-- The fault of a status is one of the design service, and carries the status. -/
theorem Fault.kind_status_ofFigmaStatus (status : Int) (detail : Text) :
    (ofFigmaStatus status detail).kind = .figmaApi ∧
      (ofFigmaStatus status detail).status = some status := by
  delta ofFigmaStatus
  dsimp only
  repeat' split
  all_goals exact ⟨kind_make _ _ _, status_make _ _ _⟩

namespace Figma

/-- The least status that is a success. -/
def firstSuccess : Int := 200

/-- Whether a status is that of a success. -/
def IsSuccess (status : Int) : Prop := firstSuccess ≤ status ∧ status < firstFailure

/-- An answer reports what came of a request: a document only for a success with JSON in its
body, and otherwise a fault of the kind that belongs to the reply. -/
inductive IsReported : Reply → Except FetchError Json → Prop where
  | document {status : Int} {body : Text} {document : Json} (success : IsSuccess status)
      (isJson : Json.ofBody body = .ok document) :
      IsReported (.response status body) (.ok document)
  | unreadable {status : Int} {body : Text} {error : Json.BodyError} {fault : Fault}
      (success : IsSuccess status) (notJson : Json.ofBody body = .error error) :
      IsReported (.response status body) (.error (.fault fault))
  | refused {status : Int} {body : Text} {fault : Fault} (noSuccess : ¬ IsSuccess status)
      (isService : fault.kind = .figmaApi) (carries : fault.status = some status) :
      IsReported (.response status body) (.error (.fault fault))
  | failed {failure : ExchangeFailure} {kind message : Text} {fault : Fault}
      (isNetwork : fault.kind = .network) (caused : fault.cause = some kind) :
      IsReported (.failure failure kind message) (.error (.fault fault))

/-- The replies that are not reported. -/
inductive IsUnreported (request : FileRequest) : Reply → Prop where
  | abandoned (kind message : Text) : IsUnreported request (.failure .abandoned kind message)
  | noScheme {status : Int} {body : Text} (noScheme : hasScheme request.url = false) :
      IsUnreported request (.response status body)
  | belowSuccess {status : Int} {body : Text} (below : status < firstSuccess) :
      IsUnreported request (.response status body)
  | notJson {status : Int} {body : Text} {error : Json.BodyError} (success : IsSuccess status)
      (notJson : Json.ofBody body = .error error) : IsUnreported request (.response status body)

variable {request : FileRequest} {fileId body : Text} {status : Int}

/-! ## What responses bring -/

theorem documentOf_of_noScheme (noScheme : hasScheme request.url = false) :
    request.documentOf fileId (.response status body) = .error (.noScheme request.url) := by
  rw [FileRequest.documentOf, noScheme]
  rfl

theorem documentOf_of_failure (scheme : hasScheme request.url = true)
    (failure : firstFailure ≤ status) :
    request.documentOf fileId (.response status body) =
      .error (.fault (Fault.ofFigmaStatus status body)) := by
  rw [FileRequest.documentOf, scheme]
  exact if_pos failure

theorem documentOf_of_lt (scheme : hasScheme request.url = true) (below : status < firstFailure) :
    request.documentOf fileId (.response status body) =
      (Json.ofBody body).mapError .unreadable := by
  rw [FileRequest.documentOf, scheme]
  exact if_neg (Int.not_le.mpr below)

/-! ## Which replies are reported -/

/-- A status is below all successes, that of a success, or that of a failure. -/
theorem status_cases (status : Int) :
    status < firstSuccess ∨ IsSuccess status ∨ firstFailure ≤ status := by
  rcases Int.lt_or_le status firstSuccess with below | reached
  · exact .inl below
  · rcases Int.lt_or_le status firstFailure with success | failure
    · exact .inr (.inl ⟨reached, success⟩)
    · exact .inr (.inr failure)

/-- No status below all successes is reported, whatever the body says. -/
theorem not_isReported_of_lt (below : status < firstSuccess) :
    ¬ IsReported (.response status body) (request.documentOf fileId (.response status body)) := by
  cases scheme : hasScheme request.url with
  | false =>
      rw [documentOf_of_noScheme scheme]
      nofun
  | true =>
      rw [documentOf_of_lt scheme (Int.lt_trans below (by decide))]
      cases Json.ofBody body with
      | ok document =>
          rintro ⟨success, -⟩
          exact Int.not_le.mpr below success.1
      | error error => nofun

/-- A response to a URL with a scheme is reported unless its status is below all successes, or
it is a success whose body is not JSON. -/
theorem isReported_response_iff (scheme : hasScheme request.url = true) :
    IsReported (.response status body) (request.documentOf fileId (.response status body)) ↔
      ¬ IsUnreported request (.response status body) := by
  have schemed : hasScheme request.url ≠ false := by
    rw [scheme]
    nofun
  -- Only between the two bounds does the body decide.
  rcases status_cases status with below | success | failure
  · exact iff_of_false (not_isReported_of_lt below) (not_not_intro (.belowSuccess below))
  · rw [documentOf_of_lt scheme success.2]
    cases isRead : Json.ofBody body with
    | ok document =>
        apply iff_of_true (.document success isRead)
        rintro (_ | noScheme | below | ⟨-, notJson⟩)
        · exact schemed noScheme
        · exact Int.not_le.mpr below success.1
        · rw [isRead] at notJson
          cases notJson
    | error error => exact iff_of_false nofun (not_not_intro (.notJson success isRead))
  · rw [documentOf_of_failure scheme failure]
    obtain ⟨isService, carries⟩ := Fault.kind_status_ofFigmaStatus status body
    have noSuccess : ¬ IsSuccess status := fun success => Int.not_le.mpr success.2 failure
    apply iff_of_true (.refused noSuccess isService carries)
    rintro (_ | noScheme | below | ⟨success, -⟩)
    · exact schemed noScheme
    · exact Int.not_le.mpr (Int.lt_trans below (by decide)) failure
    · exact noSuccess success

/-- A reply is reported exactly when it is not one of the unreported ones. -/
theorem isReported_documentOf_iff (request : FileRequest) (fileId : Text) (reply : Reply) :
    IsReported reply (request.documentOf fileId reply) ↔ ¬ IsUnreported request reply := by
  cases reply with
  | failure failure kind message =>
      cases failure with
      | timedOut =>
          exact iff_of_true (.failed (Fault.kind_make _ _ _) (Fault.cause_make _ _ _)) nofun
      | disconnected =>
          exact iff_of_true (.failed (Fault.kind_make _ _ _) (Fault.cause_make _ _ _)) nofun
      | abandoned => exact iff_of_false nofun (not_not_intro (.abandoned kind message))
  | response status body =>
      cases scheme : hasScheme request.url with
      | true => exact isReported_response_iff scheme
      | false =>
          rw [documentOf_of_noScheme scheme]
          exact iff_of_false nofun (not_not_intro (.noScheme scheme))

/-- Without the status of a failure a response brings no fault. -/
theorem documentOf_ne_fault_of_lt (below : status < firstFailure) (fault : Fault) :
    request.documentOf fileId (.response status body) ≠ .error (.fault fault) := by
  cases scheme : hasScheme request.url with
  | false =>
      rw [documentOf_of_noScheme scheme]
      nofun
  | true =>
      rw [documentOf_of_lt scheme below]
      cases Json.ofBody body <;> nofun

/-- Unreported replies bring no fault. -/
theorem IsUnreported.documentOf_ne_fault {reply : Reply} (unreported : IsUnreported request reply)
    (fault : Fault) : request.documentOf fileId reply ≠ .error (.fault fault) := by
  cases unreported with
  | abandoned kind message => nofun
  | noScheme noScheme =>
      rw [documentOf_of_noScheme noScheme]
      nofun
  | belowSuccess below => exact documentOf_ne_fault_of_lt (Int.lt_trans below (by decide)) fault
  | notJson success => exact documentOf_ne_fault_of_lt success.2 fault

/-- Where there is no document, there is a fault unless the reply is unreported. -/
theorem exists_fault_iff {reply : Reply} {error : FetchError}
    (isError : request.documentOf fileId reply = .error error) :
    (∃ fault, error = .fault fault) ↔ ¬ IsUnreported request reply := by
  constructor
  · rintro ⟨fault, rfl⟩ unreported
    exact unreported.documentOf_ne_fault fault isError
  · intro reported
    have isReported := (isReported_documentOf_iff request fileId reply).mpr reported
    rw [isError] at isReported
    cases isReported with
    | unreadable | refused | failed => exact ⟨_, rfl⟩

end Figma

end DesignExport
