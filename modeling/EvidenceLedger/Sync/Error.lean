import EvidenceLedger.Ledger.Error

/-!
# Why catching up with a peer fails

The peer cannot be reached, it does not answer in time, or the ledger refuses what it serves.
Only in the last case there is no point in asking the same peer again.
-/

namespace EvidenceLedger

/-- Why catching up with a peer fails. -/
inductive SyncError where
  | transport (peer reason : String)
  | timeout (peer : String) (afterMs : Nat)
  | ledger (cause : LedgerError)
deriving DecidableEq

namespace SyncError

/-- Is the error one of the way to the peer, and not of what the peer serves? -/
def isTransient : SyncError → Bool
  | .transport _ _ | .timeout _ _ => true
  | .ledger _ => false

def message : SyncError → String
  | .transport peer reason => "Peer " ++ peer ++ " unreachable: " ++ reason
  | .timeout peer afterMs => "Peer " ++ peer ++ " timed out after " ++ Text.decimal afterMs ++ "ms"
  | .ledger cause => cause.message

end SyncError

end EvidenceLedger
