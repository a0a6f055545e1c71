import EvidenceLedger.Config.Environment
import EvidenceLedger.Key.Private

/-!
# Which configurations make a node

A node needs a name. A leader needs a key, and has to trust itself under the public half of
that key, or it would refuse its own blocks. Nobody may be trusted under a blank key. Sizes
and times must not be zero. The checks are made in this order, and the first that fails is
the error.
-/

namespace EvidenceLedger.NodeConfig

def require (condition : Bool) (error : ConfigError) : Except ConfigError Unit :=
  if condition then .ok () else .error error

/-- The first node that is trusted under a blank key. -/
def blankKey? (c : NodeConfig) : Option String :=
  (c.identity.allowlist.entries.find? fun entry => Text.isBlank entry.2).map (·.1)

/-- A leader trusts itself under the public half of its key. -/
def checkLeaderKey (c : NodeConfig) : Except ConfigError Unit := do
  let nodeId := c.identity.nodeId
  let own ← (PrivateKey.ofText (c.identity.privateKeyText.getD "")).mapError
    (.invalidLeaderKey nodeId)
  match c.identity.allowlist.find? nodeId with
  | none => .error (.leaderNotAllowed nodeId)
  | some text =>
    let allowed ← (PublicKey.ofText text).mapError (.invalidLeaderKey nodeId)
    require (allowed == own.publicKey) (.leaderKeyMismatch nodeId)

/-- Can the configuration make a node? -/
def validate (c : NodeConfig) : Except ConfigError Unit := do
  let nodeId := c.identity.nodeId
  require (!Text.isBlank nodeId) .blankNodeId
  require (!c.identity.isLeader || c.identity.privateKey?.isSome) (.leaderWithoutKey nodeId)
  match c.blankKey? with
  | some node => .error (.blankAllowedKey node)
  | none => .ok ()
  if c.identity.isLeader then c.checkLeaderKey
  require (c.sync.requestTimeoutMs != 0) (.zeroValue .requestTimeout)
  require (c.sync.batchSize != 0) (.zeroValue .batchSize)
  require (c.replication.pushTimeoutMs != 0) (.zeroValue .pushTimeout)
  require (c.leader.commitIntervalSecs != some 0) (.zeroValue .commitInterval)

/-- A configuration from a file that holds the given text, if there is a file, and from the
environment. The file is known by its path. -/
def load (file : Option (String × Bytes)) (env : Environment) : Except ConfigError NodeConfig := do
  let base ← match file with
    | none => .ok standard
    | some (path, bytes) =>
      (Json.readWhole Json.decode bytes).mapError fun fault =>
        .unparsable path fault.describe
  match base.override env with
  | (_, some error) => .error error
  | (c, none) => do
    c.validate
    return c

end EvidenceLedger.NodeConfig
