/-
# Responses

A response has a status and may have a JSON body and headers that share it
with pages of other origins. A fault is answered with its summary under the
status of its category; any other problem is answered without a body.
-/

import DesignExport.Fault.Problem

namespace DesignExport.Web

/-- A response. -/
structure Response where
  status : Nat
  headers : List (Text × Text) := []
  body : Option Json := none

namespace Response

/-- Headers that share a response with pages of other origins. -/
def sharing : List (Text × Text) :=
  [("Access-Control-Allow-Origin", "*"),
   ("Access-Control-Allow-Headers", "Content-Type"),
   ("Access-Control-Allow-Methods", "GET, POST, OPTIONS")]

/-- A shared response without a body. -/
def bare (status : Nat) : Response := { status := status, headers := sharing }

/-- A shared response with a JSON body. -/
def json (status : Nat) (body : Json) : Response :=
  { status := status, headers := sharing, body := some body }

/-- The status of a category of faults. -/
def statusOf : Category → Nat
  | .validation => 400
  | .authentication => 401
  | .figmaApi | .network => 502
  | .processing | .storage => 500

/-- The response to a problem. -/
def ofProblem : Problem → Response
  | .fault fault => json (statusOf fault.category) fault.summary
  | .store _ | .unexpected _ _ => bare 500

end Response

end DesignExport.Web
