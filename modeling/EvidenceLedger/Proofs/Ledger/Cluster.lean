import EvidenceLedger.Proofs.Ledger.Run
import EvidenceLedger.Proofs.Sync.Acceptance

/-!
# A leader and its followers

Nodes that start afresh and trust one leader. Anything may happen to them in any order: nodes are
asked to submit and to commit, and blocks are delivered to them, one by one, in batches or in
answer to a synchronisation. Where a delivered block comes from is left open. It may be made up,
altered, repeated, late or meant for somebody else, and what is delivered to one node need not be
delivered to another.

Two things about the past are kept beside the ledgers: the digests that were signed by commits,
and the canonical forms that came up. Signatures cannot be made up, which is a condition on what
is delivered: a signature under the leader's key belongs to a digest that was signed before.
-/

namespace EvidenceLedger

/-- The digest tells these texts apart. -/
def Cryptography.CollisionFree (crypto : Cryptography) (texts : String → Prop) : Prop :=
  ∀ a b, texts a → texts b →
    crypto.digest (Bytes.ofString a) = crypto.digest (Bytes.ofString b) → a = b

theorem Cryptography.CollisionFree.mono {crypto : Cryptography} {texts fewer : String → Prop}
    (h : crypto.CollisionFree texts) (subset : ∀ text, fewer text → texts text) :
    crypto.CollisionFree fewer :=
  fun a b isA isB => h a b (subset a isA) (subset b isB)

/-- Nodes with a leader among them. -/
structure Cluster (Node : Type) where
  crypto : Cryptography
  identity : Node → NodeIdentity
  leader : Node
  /-- The text of the leader's public key that a node has. -/
  key : Node → String

namespace Cluster

def judge {Node : Type} (cluster : Cluster Node) (node : Node) : Judge :=
  ⟨cluster.crypto, cluster.identity node⟩

/-- Nobody but the leader leads, and every node trusts the leader and nobody else. Entries with a
blank key do not count. -/
structure WellFormed {Node : Type} (cluster : Cluster Node) : Prop where
  follows : ∀ node, node ≠ cluster.leader → (cluster.identity node).isLeader = false
  trusts : ∀ node,
    (cluster.identity node).allowlist.entries.filter (fun entry => !Text.isBlank entry.2) =
      [((cluster.identity cluster.leader).nodeId, cluster.key node)]

inductive Action (Node : Type) where
  /-- The node is asked to submit, to commit or to accept. -/
  | operate (node : Node) (op : Operation)
  /-- The node applies a batch of blocks. -/
  | batch (node : Node) (progress : Progress) (blocks : List Block)
  /-- The node synchronises, and peers answer whatever they like. -/
  | synchronize (node : Node) (config : SyncConfig) (transport : Transport) (cutoffMs : Option Nat)
      (hint : Option String)

namespace Action

variable {Node : Type}

def node : Action Node → Node
  | .operate node _ => node
  | .batch node _ _ => node
  | .synchronize node _ _ _ _ => node

/-- The action may bring this block to its node. -/
def Delivers : Action Node → Block → Prop
  | .operate _ (.accept delivered), block => block = delivered
  | .operate _ _, _ => False
  | .batch _ _ blocks, block => block ∈ blocks
  | .synchronize _ _ transport _ _, block => transport.Serves block

/-- The ledger of the node after the action. -/
def apply (cluster : Cluster Node) (l : Ledger) : Action Node → Ledger
  | .operate node op => l.perform (cluster.judge node) op
  | .batch node progress blocks => (applyBatch (cluster.judge node) l progress blocks).ledger
  | .synchronize node config transport cutoffMs hint =>
    let synchronizer : Synchronizer := ⟨cluster.judge node, config, transport, cutoffMs⟩
    (synchronizer.synchronize hint (.start l)).1.ledger

@[simp] theorem apply_operate (cluster : Cluster Node) (l : Ledger) (node : Node)
    (op : Operation) :
    (operate node op).apply cluster l = l.perform (cluster.judge node) op := rfl

/-- The block that the action signs, if it is a commit that succeeds. -/
def sealed? (cluster : Cluster Node) (l : Ledger) : Action Node → Option Block
  | .operate node (.commit now) => (l.commit (cluster.judge node) now).answer.toOption
  | _ => none

end Action

/-- The ledgers of all nodes, the digests that were signed and the canonical forms that came up. -/
structure State (Node : Type) where
  ledgers : Node → Ledger
  signed : List (Octets 32)
  texts : String → Prop

namespace State

variable {Node : Type}

def start (cluster : Cluster Node) : State Node where
  ledgers _ := .fresh cluster.crypto
  signed := []
  texts text := text = Cryptography.genesisContent.canonicalText

def next [DecidableEq Node] (cluster : Cluster Node) (s : State Node) (action : Action Node) :
    State Node :=
  let ledger := s.ledgers action.node
  let sealed? := action.sealed? cluster ledger
  { ledgers node := if node = action.node then action.apply cluster ledger else s.ledgers node
    signed := s.signed ++ (sealed?.map fun block => cluster.crypto.digestOf block.content).toList
    texts text := s.texts text ∨
      ∃ block, (action.Delivers block ∨ sealed? = some block) ∧ text = block.content.canonicalText }

section Next

variable [DecidableEq Node] {cluster : Cluster Node} {s : State Node} {action : Action Node}

theorem ledgers_next_of_eq {node : Node} (same : node = action.node) :
    (s.next cluster action).ledgers node = action.apply cluster (s.ledgers action.node) :=
  if_pos same

theorem ledgers_next_of_ne {node : Node} (other : node ≠ action.node) :
    (s.next cluster action).ledgers node = s.ledgers node :=
  if_neg other

theorem signed_next_of_none (quiet : action.sealed? cluster (s.ledgers action.node) = none) :
    (s.next cluster action).signed = s.signed := by
  simp [next, quiet]

theorem signed_next_of_some {block : Block}
    (signs : action.sealed? cluster (s.ledgers action.node) = some block) :
    (s.next cluster action).signed =
      s.signed ++ [cluster.crypto.digestOf block.content] := by
  simp [next, signs]

end Next

/-- The block cannot have a signature under the leader's key, as the node has it, unless the
digest that its hash writes was signed. -/
def Genuine (cluster : Cluster Node) (s : State Node) (node : Node) (block : Block) : Prop :=
  ∀ digest, Digest.ofText? block.hash = some digest →
    cluster.crypto.verify (cluster.key node) digest.bytes block.signature = true →
    digest ∈ s.signed

end State

/-- The states that a cluster can come to if signatures cannot be made up. -/
inductive Reachable {Node : Type} [DecidableEq Node] (cluster : Cluster Node) :
    State Node → Prop where
  | start : Reachable cluster (.start cluster)
  | next {s : State Node} (h : Reachable cluster s) (action : Action Node)
      (genuine : ∀ block, action.Delivers block → s.Genuine cluster action.node block) :
      Reachable cluster (s.next cluster action)

end Cluster

end EvidenceLedger
