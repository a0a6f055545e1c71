import EvidenceLedger.Json.Reader
import EvidenceLedger.Ledger.Basic

/-!
# What a synchronisation comes to

The report says whether the node is in step with the peer, how many blocks it applied, and
where its chain ended before and afterwards. Blocks that were applied before a failure stay
and are counted.
-/

namespace EvidenceLedger

structure SyncOutcome where
  synced : Bool
  applied : UInt64
  fromHeight : UInt64
  toHeight : UInt64
  reason : Option String
deriving DecidableEq

namespace SyncOutcome

def noPeers : SyncOutcome :=
  ⟨false, 0, 0, 0, some "No peers configured or provided."⟩

def upToDate (height : UInt64) : SyncOutcome :=
  ⟨true, 0, height, height, some "Already up to date."⟩

/-- All that the peer had to offer is applied. -/
def completed (applied fromHeight toHeight : UInt64) : SyncOutcome :=
  ⟨true, applied, fromHeight, toHeight, none⟩

/-- It ended before its time. -/
def failed (applied fromHeight toHeight : UInt64) (detail : String) : SyncOutcome :=
  ⟨false, applied, fromHeight, toHeight, some ("Sync failed: " ++ detail)⟩

end SyncOutcome

open Json

instance : Wire SyncOutcome where
  encode o := .obj
    [("synced", .bool o.synced),
      ("appliedCount", word64 o.applied),
      ("fromHeight", word64 o.fromHeight),
      ("toHeight", word64 o.toHeight),
      ("reason", encodeOption .str o.reason)]
  decode := RecordReader.read <|
    ((RecordReader.required "synced" Reader.bool).map SyncOutcome.mk)
      |>.and (.required "appliedCount" Reader.word64)
      |>.and (.required "fromHeight" Reader.word64)
      |>.and (.required "toHeight" Reader.word64)
      |>.and (.optional "reason" Reader.text)

structure SyncConfig where
  batchSize : UInt64
  requestTimeoutMs : UInt64
  autoSyncOnStartup : Bool
deriving DecidableEq

namespace SyncConfig

/-- Batches of a hundred blocks, five seconds for a request, and catching up at the start. -/
def standard : SyncConfig := ⟨100, 5000, true⟩

/-- Half a second for a request, and no catching up at the start. -/
def brisk : SyncConfig := ⟨100, 500, false⟩

end SyncConfig

instance : Wire SyncConfig where
  encode c := .obj
    [("batchSize", word64 c.batchSize),
      ("requestTimeoutMs", word64 c.requestTimeoutMs),
      ("autoSyncOnStartup", .bool c.autoSyncOnStartup)]
  decode := RecordReader.read <|
    ((RecordReader.default "batchSize" Reader.word64 SyncConfig.standard.batchSize).map
        SyncConfig.mk)
      |>.and (.default "requestTimeoutMs" Reader.word64 SyncConfig.standard.requestTimeoutMs)
      |>.and (.default "autoSyncOnStartup" Reader.bool SyncConfig.standard.autoSyncOnStartup)

end EvidenceLedger
