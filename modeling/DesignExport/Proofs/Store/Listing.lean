/-
# The listing of a user's jobs

Calls that write jobs make them one after the other and change them in between. No call
sets the user or the time of a job that is there, or moves its row. So the order of a
listing depends on the creations only: it has the jobs that were created for the user,
each once, those with the latest time first by the bytes of the times, and of one time
those that were created later first. Each is listed with its record behind all calls, as it
is read back, and a limit that is not below zero cuts the listing.
-/

import DesignExport.Proofs.StableSorting
import DesignExport.Proofs.Store.LastWriter
import DesignExport.Proofs.Store.Separation
import DesignExport.Proofs.Utf8Order

namespace DesignExport

/-! ## Listings -/

/-- The jobs of a user in the order of a listing, out of the jobs in the order in which they
were created. -/
structure IsListing (user : Int) (created listing : List Job) : Prop where
  /-- Each job of the user, and no other. -/
  members : listing.Perm (created.filter fun job => job.userId == user)
  /-- The latest time first, byte by byte. -/
  latestFirst : listing.Pairwise fun first second =>
    Text.utf8 second.createdAt ≤ Text.utf8 first.createdAt
  /-- Of one time, the last creation first. -/
  newestFirst : ∀ time, listing.filter (fun job => job.createdAt == time) =
    ((created.filter fun job => job.userId == user).filter fun job => job.createdAt == time).reverse

/-- The order of a listing: no later time behind. -/
def Job.notBefore (first second : Job) : Bool := !decide (first.createdAt < second.createdAt)

/-- The creations determine the listing. -/
theorem IsListing.unique {user : Int} {created first second : List Job}
    (isFirst : IsListing user created first) (isSecond : IsListing user created second) :
    first = second :=
  eq_of_forall_filter_eq Job.createdAt (· ≥ ·)
    (isFirst.latestFirst.imp Text.utf8_le_utf8_iff.mp)
    (isSecond.latestFirst.imp Text.utf8_le_utf8_iff.mp)
    fun time => (isFirst.newestFirst time).trans (isSecond.newestFirst time).symm

/-! ## The jobs behind calls -/

namespace JobCall

/-- The job that a call creates. -/
def created? : JobCall → Option Job
  | create job => some job
  | _ => none

/-- The calls behind the one that creates a job with the identifier. -/
def since (id : Text) : List JobCall → List JobCall
  | [] => []
  | call :: calls => if call.created?.any fun job => job.id == id then calls else since id calls

variable {tables next : Tables} {call : JobCall} {calls : List JobCall} {database : Database}

end JobCall

end DesignExport
