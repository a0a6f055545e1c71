import EvidenceLedger.Api.Error
import EvidenceLedger.Ledger.Wire
import EvidenceLedger.Sync.Outcome

/-!
# Replies

What a node answers, before it is written down. Submitted evidence and committed blocks are
created, a received block is accepted, and everything else that succeeds is simply fine. Some
refusals say nothing but their status.
-/

namespace EvidenceLedger

open Json

/-- What is found under a hash. -/
structure Finding where
  found : Bool
  evidence : Option EvidenceRecord
  proof : Option ProofDetails
deriving DecidableEq

instance : Wire Finding where
  encode f := .obj <|
    ("found", .bool f.found) :: mention "evidence" encode f.evidence ++
      mention "proof" encode f.proof
  decode := RecordReader.read <|
    ((RecordReader.required "found" Reader.bool).map Finding.mk)
      |>.and (.default "evidence" (Reader.nullable decode) none)
      |>.and (.default "proof" (Reader.nullable decode) none)

structure Health where
  status : String
  nodeId : String
  isLeader : Bool
  height : UInt64
deriving DecidableEq

instance : Wire Health where
  encode h := .obj [("status", .str h.status), ("nodeId", .str h.nodeId),
    ("leader", .bool h.isLeader), ("height", word64 h.height)]
  decode := RecordReader.read <|
    ((RecordReader.required "status" Reader.text).map Health.mk)
      |>.and (.required "nodeId" Reader.text)
      |>.and (.required "leader" Reader.bool)
      |>.and (.required "height" Reader.word64)

namespace Api

inductive Reply where
  | chain (blocks : List Block)
  | latest (head : BlockHeader)
  | blocks (blocks : List Block)
  | synced (outcome : SyncOutcome)
  | mempool (records : List EvidenceRecord)
  | submitted (record : EvidenceRecord)
  | committed (block : Block)
  | received (height : UInt64)
  | validity (valid : Bool)
  | finding (finding : Finding)
  | report (report : VerificationReport)
  | health (health : Health)
  /-- A failure, with the time of it. -/
  | failed (failure : Failure) (now : Timestamp)
  /-- The path is not known. -/
  | notFound
  /-- The path is not for this method. -/
  | methodNotAllowed
  /-- The hash in the path is not text. -/
  | unreadablePath
  /-- A browser asks what it may ask. -/
  | preflight
deriving DecidableEq

namespace Reply

def status : Reply → Nat
  | .submitted _ | .committed _ => 201
  | .received _ => 202
  | .failed failure _ => failure.status
  | .unreadablePath => 400
  | .notFound => 404
  | .methodNotAllowed => 405
  | _ => 200

/-- The body of a reply, if it has one that is JSON. -/
def body : Reply → Option Json
  | .chain bs =>
    some (.obj [("length", .nat bs.length), ("chain", encodeList encode bs)])
  | .latest h => some (encode h)
  | .blocks bs => some (encodeList encode bs)
  | .synced outcome => some (encode outcome)
  | .mempool records =>
    some (.obj [("size", .nat records.length), ("mempool", encodeList encode records)])
  | .submitted record => some (.obj [("evidence", encode record)])
  | .committed block => some (.obj [("block", encode block)])
  | .received height => some (.obj [("accepted", .bool true), ("height", word64 height)])
  | .validity valid => some (.obj [("valid", .bool valid)])
  | .finding f => some (encode f)
  | .report r => some (encode r)
  | .health h => some (encode h)
  | .failed failure now =>
    some (.obj [("status", .nat failure.status), ("error", .str (Failure.phrase failure.status)),
      ("message", .str failure.message), ("timestamp", .str now.toText)])
  | .notFound | .methodNotAllowed | .unreadablePath | .preflight => none

end Reply

end Api

end EvidenceLedger
