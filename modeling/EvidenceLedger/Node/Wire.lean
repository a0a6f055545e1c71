import EvidenceLedger.Json.Reader
import EvidenceLedger.Node.Identity

/-!
# Identities on the wire

Only the name of the node has to be there. In an allowlist the last entry for a node counts.
-/

namespace EvidenceLedger

open Json

instance : Wire Allowlist where
  encode list := .obj (list.entries.map fun (node, key) => (node, .str key))
  decode := Reader.entries Reader.text Allowlist.insert .empty

instance : Wire NodeIdentity where
  encode i := .obj
    [("nodeId", .str i.nodeId),
      ("isLeader", .bool i.isLeader),
      ("privateKeyBase64", encodeOption .str i.privateKeyText),
      ("peers", encodeList .str i.peers),
      ("allowedNodePublicKeys", encode i.allowlist)]
  decode := RecordReader.read <|
    ((RecordReader.required "nodeId" Reader.text).map NodeIdentity.mk)
      |>.and (.default "isLeader" Reader.bool false)
      |>.and (.default "privateKeyBase64" (Reader.nullable Reader.text) none)
      |>.and (.default "peers" (Reader.list Reader.text) [])
      |>.and (.default "allowedNodePublicKeys" decode .empty)

end EvidenceLedger
