import EvidenceLedger.Config.Error
import EvidenceLedger.Config.NodeConfig

/-!
# Settings from the environment

Variables of the environment override what a configuration file says, one after the other in a
fixed order. White space around values and around the entries of lists does not matter. The
first value that makes no sense ends it; what was overridden before stays overridden.

Peers and allowed keys are lists with commas, in which blank entries do not count. The peers
take the place of those in the file; the allowed keys are added to them. In an entry for a key
the first equals sign ends the name of the node, so a key may have more of them.
-/

namespace EvidenceLedger

/-- The value of a variable, if it is set. -/
abbrev Environment := String → Option String

/-- What comes of a setting, and what is wrong with the value, if something is. -/
abbrev Override := String → NodeConfig → NodeConfig × Option ConfigError

namespace Override

/-- The pieces of a list with commas, blank ones left out. -/
def pieces (value : String) : List String :=
  ((value.toList.splitOnP (· == ',')).map fun cs => Text.trim (String.ofList cs)).filter
    (!·.isEmpty)

/-- A letter of the first alphabet in lower case, any other character as it is. -/
def asciiLower (s : String) : String :=
  String.ofList (s.toList.map Char.toLower)

/-- A truth value in one of three spellings each. -/
def truth? (value : String) : Option Bool :=
  let word := asciiLower (Text.trim value)
  if ["true", "1", "yes"].contains word then some true
  else if ["false", "0", "no"].contains word then some false
  else none

/-- An entry for a key, cut at its first equals sign. -/
def keyEntry? (entry : String) : Option (String × String) :=
  match entry.toList.dropWhile (· != '=') with
  | [] => none
  | _ :: key =>
    some (Text.trim (String.ofList (entry.toList.takeWhile (· != '='))),
      Text.trim (String.ofList key))

/-- Add entries for keys up to the first that is none. -/
def allowAll : List String → NodeConfig → NodeConfig × Option ConfigError
  | [], c => (c, none)
  | entry :: rest, c =>
    match keyEntry? entry with
    | none => (c, some (.invalidVariable "IC_ALLOWED_KEYS" entry))
    | some (node, key) => allowAll rest { c with identity := c.identity.allow node key }

def nodeId : Override := fun value c =>
  ({ c with identity := { c.identity with nodeId := Text.trim value } }, none)

def leader : Override := fun value c =>
  match truth? value with
  | some isLeader => ({ c with identity := { c.identity with isLeader } }, none)
  | none => (c, some (.invalidVariable "IC_LEADER" value))

def privateKey : Override := fun value c =>
  ({ c with identity := { c.identity with privateKeyText := some (Text.trim value) } }, none)

def peers : Override := fun value c =>
  ({ c with identity := c.identity.withPeers (pieces value) }, none)

def allowedKeys : Override := fun value c =>
  allowAll (pieces value) c

def httpPort : Override := fun value c =>
  match Text.unsigned? (UInt16.size - 1) (Text.trim value) with
  | some port => ({ c with network := { c.network with httpPort := UInt16.ofNat port } }, none)
  | none => (c, some (.invalidVariable "IC_HTTP_PORT" value))

def commitInterval : Override := fun value c =>
  match Text.unsigned? (UInt64.size - 1) (Text.trim value) with
  | some secs => ({ c with leader := ⟨some (UInt64.ofNat secs)⟩ }, none)
  | none => (c, some (.invalidVariable "IC_COMMIT_INTERVAL_SECS" value))

/-- The variables in the order in which they are looked at. -/
def all : List (String × Override) :=
  [("IC_NODE_ID", nodeId),
    ("IC_LEADER", leader),
    ("IC_PRIVATE_KEY", privateKey),
    ("IC_PEERS", peers),
    ("IC_ALLOWED_KEYS", allowedKeys),
    ("IC_HTTP_PORT", httpPort),
    ("IC_COMMIT_INTERVAL_SECS", commitInterval)]

/-- Apply the variables that are set, up to the first that makes no sense. -/
def applyAll (env : Environment) : List (String × Override) → NodeConfig →
    NodeConfig × Option ConfigError
  | [], c => (c, none)
  | (name, override) :: rest, c =>
    match env name with
    | none => applyAll env rest c
    | some value =>
      match override value c with
      | (c, none) => applyAll env rest c
      | (c, some error) => (c, some error)

end Override

/-- The configuration as the environment has it, and what is wrong with the environment, if
something is. -/
def NodeConfig.override (env : Environment) (c : NodeConfig) : NodeConfig × Option ConfigError :=
  Override.applyAll env Override.all c

end EvidenceLedger
