import EvidenceLedger.Node.Wire
import EvidenceLedger.Sync.Outcome

/-!
# The configuration of a node

Who the node is, where it listens, and how it synchronises, pushes and commits. Everything has
a default, so a configuration file mentions only what differs. A node without configuration
has no name, which is why it cannot run.
-/

namespace EvidenceLedger

structure ListenConfig where
  bindAddress : String
  httpPort : UInt16
deriving DecidableEq

structure PushConfig where
  pushTimeoutMs : UInt64
deriving DecidableEq

/-- How a leader commits: at intervals, or only when it is asked to. -/
structure LeaderConfig where
  commitIntervalSecs : Option UInt64
deriving DecidableEq

structure NodeConfig where
  identity : NodeIdentity
  network : ListenConfig
  sync : SyncConfig
  replication : PushConfig
  leader : LeaderConfig
deriving DecidableEq

/-- All interfaces, port 8080. -/
def ListenConfig.standard : ListenConfig := ⟨"0.0.0.0", 8080⟩

/-- Three seconds for a push. -/
def PushConfig.standard : PushConfig := ⟨3000⟩

/-- Commit only when asked to. -/
def LeaderConfig.standard : LeaderConfig := ⟨none⟩

/-- A node that is nobody. -/
def NodeConfig.standard : NodeConfig :=
  ⟨.follower "", .standard, .standard, .standard, .standard⟩

def NodeConfig.httpAddress (c : NodeConfig) : String :=
  c.network.bindAddress ++ ":" ++ Text.decimal c.network.httpPort.toNat

open Json

instance : Wire ListenConfig where
  encode c := .obj
    [("bindAddress", .str c.bindAddress), ("httpPort", .num c.httpPort.toNat)]
  decode := RecordReader.read <|
    ((RecordReader.default "bindAddress" Reader.text ListenConfig.standard.bindAddress).map
        ListenConfig.mk)
      |>.and (.default "httpPort" Reader.word16 ListenConfig.standard.httpPort)

instance : Wire PushConfig where
  encode c := .obj [("pushTimeoutMs", word64 c.pushTimeoutMs)]
  decode := RecordReader.read <|
    (RecordReader.default "pushTimeoutMs" Reader.word64 PushConfig.standard.pushTimeoutMs).map
      PushConfig.mk

instance : Wire LeaderConfig where
  encode c := .obj [("commitIntervalSecs", encodeOption word64 c.commitIntervalSecs)]
  decode := RecordReader.read <|
    (RecordReader.default "commitIntervalSecs" (Reader.nullable Reader.word64) none).map
      LeaderConfig.mk

instance : Wire NodeConfig where
  encode c := .obj
    [("identity", encode c.identity),
      ("network", encode c.network),
      ("sync", encode c.sync),
      ("replication", encode c.replication),
      ("leader", encode c.leader)]
  decode := RecordReader.read <|
    ((RecordReader.default "identity" decode NodeConfig.standard.identity).map NodeConfig.mk)
      |>.and (.default "network" decode .standard)
      |>.and (.default "sync" decode .standard)
      |>.and (.default "replication" decode .standard)
      |>.and (.default "leader" decode .standard)

end EvidenceLedger
