import EvidenceLedger.Key.Error
import EvidenceLedger.Text.Numeral
import EvidenceLedger.Text.Quoted

/-!
# What can be wrong with a configuration

A file cannot be read or understood, a variable of the environment has no sensible value, or
the configuration as a whole makes no node that could work.
-/

namespace EvidenceLedger

/-- A setting that must not be zero. -/
inductive PositiveSetting where
  | requestTimeout
  | batchSize
  | pushTimeout
  | commitInterval
deriving DecidableEq, Repr

def PositiveSetting.name : PositiveSetting → String
  | .requestTimeout => "sync.requestTimeoutMs"
  | .batchSize => "sync.batchSize"
  | .pushTimeout => "replication.pushTimeoutMs"
  | .commitInterval => "leader.commitIntervalSecs"

inductive ConfigError where
  | unreadable (path reason : String)
  | unparsable (path reason : String)
  | invalidVariable (name value : String)
  | blankNodeId
  | leaderWithoutKey (nodeId : String)
  | invalidLeaderKey (nodeId : String) (reason : KeyError)
  | leaderNotAllowed (nodeId : String)
  | leaderKeyMismatch (nodeId : String)
  | blankAllowedKey (nodeId : String)
  | zeroValue (setting : PositiveSetting)
deriving DecidableEq

def ConfigError.message : ConfigError → String
  | .unreadable path reason => "Cannot read config file " ++ path ++ ": " ++ reason
  | .unparsable path reason => "Cannot parse config file " ++ path ++ ": " ++ reason
  | .invalidVariable name value => "Invalid value for " ++ name ++ ": " ++ Text.quote value
  | .blankNodeId => "Node id must not be blank"
  | .leaderWithoutKey nodeId => "Leader " ++ nodeId ++ " has no private key configured"
  | .invalidLeaderKey nodeId reason =>
    "Invalid key material for leader " ++ nodeId ++ ": " ++ reason.message
  | .leaderNotAllowed nodeId => "Leader " ++ nodeId ++ " is not in the allowed proposer keys"
  | .leaderKeyMismatch nodeId =>
    "Allowed public key for leader " ++ nodeId ++ " does not match its private key"
  | .blankAllowedKey nodeId => "Allowed public key for " ++ nodeId ++ " is blank"
  | .zeroValue setting => setting.name ++ " must be greater than zero"

end EvidenceLedger
