import EvidenceLedger.Chain.Validation
import EvidenceLedger.Text.Quoted

/-!
# Why a ledger refuses

Submissions are refused for what they hold, commits for what the node is or lacks, blocks for
what they break. Each reason belongs to a kind that tells the caller whose fault it is.
-/

namespace EvidenceLedger

inductive LedgerError where
  /-- The algorithm, in its normal form. -/
  | unsupportedAlgorithm (received : String)
  /-- The hash, by its number of characters. -/
  | malformedHash (length : Nat)
  | notLeader (nodeId : String)
  | missingPrivateKey
  | mempoolEmpty
  | violation (v : ChainViolation)
  | signing (cause : KeyError)
deriving DecidableEq

/-- Whose fault an error is. -/
inductive ErrorKind where
  /-- What was submitted is not acceptable. -/
  | validation
  /-- This node may not do that. -/
  | authorization
  /-- The ledger is not in a state for that. -/
  | state
  /-- A block broke the rules of the chain. -/
  | chainIntegrity
  /-- The node's own key cannot be used. -/
  | crypto
deriving DecidableEq, Repr

namespace LedgerError

def kind : LedgerError → ErrorKind
  | .unsupportedAlgorithm _ | .malformedHash _ => .validation
  | .notLeader _ | .missingPrivateKey => .authorization
  | .mempoolEmpty => .state
  | .violation _ => .chainIntegrity
  | .signing _ => .crypto

/-- Is the error nothing to worry about, because a later attempt may well succeed? -/
def isRecoverable : LedgerError → Bool
  | .mempoolEmpty | .violation _ => true
  | _ => false

def message : LedgerError → String
  | .unsupportedAlgorithm received =>
    "Unsupported hash algorithm: expected SHA-256, received " ++ Text.quote received
  | .malformedHash length =>
    "Invalid hash: must be a 64-character hex string (SHA-256), received " ++
      Text.decimal length ++ " characters"
  | .notLeader nodeId => "Node " ++ nodeId ++ " is not a leader; cannot commit blocks"
  | .missingPrivateKey => "Missing private key to sign blocks"
  | .mempoolEmpty => "No pending evidences in mempool"
  | .violation v => v.message
  | .signing cause => "Block signing failed: " ++ cause.message

end LedgerError

end EvidenceLedger
