import EvidenceLedger.Json.Source
import EvidenceLedger.Ledger.Error

/-!
# How a request fails

The ledger refuses what was asked, mandatory fields are blank, or the request cannot be
understood. A failure leaves the node as a status, the usual phrase for it, and a message.
-/

namespace EvidenceLedger.Api

/-- Why a request cannot be understood. -/
inductive Misunderstanding where
  /-- The body does not claim to be JSON. -/
  | notDeclaredJson
  /-- The body is not JSON. -/
  | bodyNotJson
  /-- The body is JSON of the wrong shape. -/
  | bodyShape
  /-- The query has a value that does not fit, or one too many. -/
  | query
  /-- The wish to synchronise cannot be read. -/
  | syncBody (fault : Json.Fault)
deriving DecidableEq

def Misunderstanding.describe : Misunderstanding → String
  | .notDeclaredJson => "Expected request with `Content-Type: application/json`"
  | .bodyNotJson => "Failed to parse the request body as JSON"
  | .bodyShape => "Failed to deserialize the JSON body into the target type"
  | .query => "Failed to deserialize query string"
  | .syncBody fault => fault.describe

inductive Failure where
  | ledger (reason : LedgerError)
  | blankFields (names : List String)
  | malformed (why : Misunderstanding)
deriving DecidableEq

namespace Failure

def status : Failure → Nat
  | .ledger reason =>
    match reason.kind with
    | .validation | .chainIntegrity => 400
    | .authorization => 403
    | .state => 409
    | .crypto => 500
  | .blankFields _ | .malformed _ => 400

def phrase (status : Nat) : String :=
  match status with
  | 400 => "Bad Request"
  | 403 => "Forbidden"
  | 409 => "Conflict"
  | 500 => "Internal Server Error"
  | _ => "Error"

def message : Failure → String
  | .ledger reason => reason.message
  | .blankFields names => "Validation failed for fields: " ++ String.intercalate ", " names
  | .malformed why => "Malformed request: " ++ why.describe

end Failure

end EvidenceLedger.Api
