import EvidenceLedger.Sync.Error

/-!
# The audit trail

Every operation that changes a ledger, every refused block, and the course of every
synchronisation leaves an event. An event is known by its name and its details; one that
reports a failure has a message too. In a log all events without a message of their own have
the same one, and their details stand in one line.
-/

namespace EvidenceLedger

/-- Why a node does not synchronise on its own. -/
inductive SkipReason where
  | leader
  | noPeers
deriving DecidableEq, Repr

def SkipReason.describe : SkipReason → String
  | .leader => "Leader node does not sync on startup"
  | .noPeers => "No peers configured"

inductive Event where
  | evidenceSubmitted (record : EvidenceRecord)
  | blockCommitted (block : Block)
  | blockAccepted (block : Block)
  | blockRejected (reason : ChainViolation) (block : Block)
  /-- The peer to catch up with is not one of those that are configured. -/
  | unlistedPeer (peer : String)
  | syncStarted (peer : String) (localHeight remoteHeight : UInt64)
  | syncCompleted (applied finalHeight : UInt64)
  | syncFailed (reason : SyncError) (peer : String) (applied height : UInt64)
  | autoSyncSkipped (reason : SkipReason)
  | autoSyncStarted (peers : Nat)
  | autoSyncSucceeded (peer : String) (applied height : UInt64)
  | autoSyncPeerFailed (peer reason : String)
  | autoSyncFinished (nodeId : String)
deriving DecidableEq

/-- The name of the event that a refused block leaves. -/
def ChainViolation.eventName : ChainViolation → String
  | .heightMismatch _ _ => "INVALID_BLOCK_HEIGHT"
  | .previousHashMismatch _ _ => "INVALID_PREVIOUS_HASH"
  | .unauthorizedProposer _ => "UNAUTHORIZED_PROPOSER"
  | .hashMismatch _ _ => "INVALID_BLOCK_HASH"
  | .invalidSignature _ => "INVALID_BLOCK_SIGNATURE"

namespace Event

def name : Event → String
  | .evidenceSubmitted _ => "EVIDENCE_SUBMITTED"
  | .blockCommitted _ => "BLOCK_COMMITTED"
  | .blockAccepted _ => "BLOCK_ACCEPTED"
  | .blockRejected reason _ => reason.eventName
  | .unlistedPeer _ => "SYNC_WARNING"
  | .syncStarted _ _ _ => "SYNC_STARTED"
  | .syncCompleted _ _ => "SYNC_COMPLETED"
  | .syncFailed _ _ _ _ => "SYNC_FAILED"
  | .autoSyncSkipped _ => "AUTO_SYNC_SKIPPED"
  | .autoSyncStarted _ => "AUTO_SYNC_STARTED"
  | .autoSyncSucceeded _ _ _ => "AUTO_SYNC_SUCCESS"
  | .autoSyncPeerFailed _ _ => "AUTO_SYNC_PEER_FAILED"
  | .autoSyncFinished _ => "AUTO_SYNC_FINISHED"

/-- The message of an event that reports a failure. -/
def message? : Event → Option String
  | .blockRejected reason _ => some reason.message
  | .syncFailed reason _ _ _ => some reason.message
  | _ => none

def number (n : UInt64) : String :=
  Text.decimal n.toNat

def details : Event → List (String × String)
  | .evidenceSubmitted r =>
    [("evidenceId", r.evidenceId), ("hash", r.artifact.hash), ("createdBy", r.artifact.createdBy)]
  | .blockCommitted b =>
    [("height", number b.height), ("hash", b.hash),
      ("evidencesCount", Text.decimal b.evidences.length), ("proposer", b.proposer)]
  | .blockAccepted b => [("height", number b.height), ("hash", b.hash), ("proposer", b.proposer)]
  | .blockRejected _ b => [("height", number b.height), ("proposer", b.proposer)]
  | .unlistedPeer peer => [("message", "Syncing from unlisted peer"), ("peer", peer)]
  | .syncStarted peer localHeight remoteHeight =>
    [("peer", peer), ("localHeight", number localHeight), ("remoteHeight", number remoteHeight)]
  | .syncCompleted applied finalHeight =>
    [("applied", number applied), ("finalHeight", number finalHeight)]
  | .syncFailed reason peer applied height =>
    [("peer", peer), ("appliedCount", number applied), ("height", number height),
      ("transient", if reason.isTransient then "true" else "false")]
  | .autoSyncSkipped reason => [("reason", reason.describe)]
  | .autoSyncStarted peers => [("peerCount", Text.decimal peers)]
  | .autoSyncSucceeded peer applied height =>
    [("peer", peer), ("appliedBlocks", number applied), ("currentHeight", number height)]
  | .autoSyncPeerFailed peer reason => [("peer", peer), ("reason", reason)]
  | .autoSyncFinished nodeId => [("nodeId", nodeId)]

structure LogLine where
  event : String
  details : String
  message : String
  isError : Bool
deriving DecidableEq, Repr

def logLine (e : Event) : LogLine where
  event := e.name
  details := String.intercalate " " (e.details.map fun (k, v) => k ++ "=" ++ v)
  message := e.message?.getD "business event"
  isError := e.message?.isSome

end Event

end EvidenceLedger
