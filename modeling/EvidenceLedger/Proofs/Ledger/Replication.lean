import EvidenceLedger.Proofs.Chain.Sealing
import EvidenceLedger.Proofs.Ledger.Run
import Mathlib.Control.Monad.Basic

/-!
# Handing a block on

A leader that has a key seals what waits, and a node with the same chain that trusts the leader
accepts the block. Nothing else about the two nodes matters: not what waits at the other node,
not how it came to its chain, and not in which form it writes the key of the leader.

A commit counts heights with wrap-around and a check stops at the greatest one, so the head must
not be that high.
-/

namespace EvidenceLedger

namespace Ledger

variable {leader follower : NodeIdentity} {own : PrivateKey} {l f : Ledger} {now : Timestamp}

/-- The head of a ledger is known from its chain. -/
theorem head_eq_of_chain_eq (same : f.chain = l.chain) : f.head = l.head := by
  have last := getLast?_chain f
  rw [same, getLast?_chain] at last
  exact (Option.some.inj last).symm

/-- A leader with a key commits what waits. -/
theorem commit_standard {key : String} (leads : leader.isLeader = true)
    (holds : leader.privateKey? = some key) (reads : PrivateKey.ofText key = .ok own)
    (waiting : l.mempool ≠ []) :
    let block := own.sealed (l.nextContent leader.nodeId now)
    l.commit ⟨.standard, leader⟩ now =
      ⟨l.append block [], .ok block, [.tell (.blockCommitted block), .push block leader.peers]⟩ :=
  commit_of_ok leads holds waiting (PrivateKey.sealBlock_standard reads)

/-- What a leader commits may follow the head of every node that has the same chain. -/
theorem follows_nextContent {key : String} (same : f.chain = l.chain)
    (room : l.head.height.toNat + 1 < UInt64.size)
    (trusted : follower.allowlist.find? leader.nodeId = some key)
    (reads : PublicKey.ofText key = .ok own.publicKey)
    (signsWell : own.SignsWell (l.nextContent leader.nodeId now)) :
    (Judge.mk .standard follower).follows f.head (own.sealed (l.nextContent leader.nodeId now)) =
      .ok () := by
  rw [head_eq_of_chain_eq same]
  exact PrivateKey.follows_sealed (successorHeight_eq_add_one room).symm rfl trusted reads signsWell

end Ledger

/-! A leader that has something to commit, with the block that it comes to. -/

namespace Sample

def leaderKey : PrivateKey := ⟨⟨List.replicate 32 7, rfl⟩⟩

/-- The record that the evidence makes. -/
def record : EvidenceRecord where
  evidenceId := "ev-1"
  artifact := { draft.artifact with
    hashAlgorithm := supportedAlgorithm
    hash := String.ofList (List.replicate 64 'a') }
  createdAt := .genesis

/-- The ledger of a node in which nothing but the record waits. -/
def waiting : Ledger := { Ledger.fresh .standard with mempool := [record] }

/-- What the leader says in the block after the first one. -/
def content : BlockContent := waiting.nextContent leader.nodeId .genesis

def sealedBlock : Block := leaderKey.sealed content

theorem toRecord_draft : draft.toRecord "ev-1" .genesis = .ok record := by
  decide +kernel

theorem submit_draft :
    (Ledger.fresh .standard).submit draft "ev-1" .genesis =
      ⟨waiting, .ok record, [.tell (.evidenceSubmitted record)]⟩ :=
  Ledger.submit_of_ok toRecord_draft

theorem ofText_leaderKey :
    PrivateKey.ofText "BwcHBwcHBwcHBwcHBwcHBwcHBwcHBwcHBwcHBwcHBwc=" = .ok leaderKey := by
  decide +kernel

theorem publicKey_leaderKey :
    PublicKey.ofText "6kpsY+KcUgq+9VB7Ey7F+ZVHdq6+vnuSQh7qaRRG0iw=" = .ok leaderKey.publicKey := by
  decide +kernel

theorem signsWell_leaderKey : leaderKey.SignsWell content := by
  unfold PrivateKey.SignsWell
  decide +kernel

theorem commit_waiting :
    waiting.commit judge .genesis =
      ⟨waiting.append sealedBlock [], .ok sealedBlock,
        [.tell (.blockCommitted sealedBlock), .push sealedBlock []]⟩ :=
  Ledger.commit_standard rfl rfl ofText_leaderKey (List.cons_ne_nil _ _)

theorem perform_submit :
    (Ledger.fresh .standard).perform judge (.submit draft "ev-1" .genesis) = waiting :=
  congrArg Outcome.ledger submit_draft

theorem perform_commit :
    waiting.perform judge (.commit .genesis) = waiting.append sealedBlock [] :=
  congrArg Outcome.ledger commit_waiting

theorem reachable_waiting : Ledger.Reachable judge waiting := by
  rw [← perform_submit]
  exact .perform .start _

theorem reachable_sealed : Ledger.Reachable judge (waiting.append sealedBlock []) := by
  rw [← perform_commit]
  exact reachable_waiting.perform _

theorem follows_sealedBlock {follower : NodeIdentity}
    (trusted : follower.allowlist.find? "node-1" =
      some "6kpsY+KcUgq+9VB7Ey7F+ZVHdq6+vnuSQh7qaRRG0iw=") :
    (Judge.mk .standard follower).follows Cryptography.standard.genesis sealedBlock = .ok () :=
  @Ledger.follows_nextContent leader follower leaderKey waiting waiting .genesis _ rfl (by decide)
    trusted publicKey_leaderKey signsWell_leaderKey

end Sample

end EvidenceLedger
