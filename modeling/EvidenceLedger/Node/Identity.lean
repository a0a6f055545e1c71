import EvidenceLedger.Node.Allowlist
import EvidenceLedger.Text.Blank

/-!
# The identity of a node

What a node is called, whether it may seal blocks and with which key, which peers it has, and
whose blocks it trusts. Key texts that are blank count as missing; other key texts are
handed on as they are.
-/

namespace EvidenceLedger

/-- Who a node is and whom it trusts. -/
structure NodeIdentity where
  nodeId : String
  isLeader : Bool
  privateKeyText : Option String
  peers : List String
  allowlist : Allowlist
deriving DecidableEq

namespace NodeIdentity

/-- A node that seals nothing, has no peers and trusts nobody. -/
def follower (nodeId : String) : NodeIdentity :=
  ⟨nodeId, false, none, [], .empty⟩

/-- A node that seals under the given key. -/
def leader (nodeId key : String) : NodeIdentity :=
  { follower nodeId with isLeader := true, privateKeyText := some key }

def allow (identity : NodeIdentity) (node key : String) : NodeIdentity :=
  { identity with allowlist := identity.allowlist.insert node key }

def withPeers (identity : NodeIdentity) (peers : List String) : NodeIdentity :=
  { identity with peers }

/-- The private key, if it is not blank. -/
def privateKey? (identity : NodeIdentity) : Option String :=
  identity.privateKeyText.filter fun key => !Text.isBlank key

/-- The trusted key of a node, if it is not blank. -/
def trustedKey? (identity : NodeIdentity) (node : String) : Option String :=
  (identity.allowlist.find? node).filter fun key => !Text.isBlank key

end NodeIdentity

end EvidenceLedger
