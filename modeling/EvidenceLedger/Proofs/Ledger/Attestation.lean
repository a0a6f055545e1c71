import EvidenceLedger.Proofs.Chain.Verification
import EvidenceLedger.Proofs.Ledger.Agreement
import EvidenceLedger.Proofs.Node.Allowlist

/-!
# What the leader signed is accepted

Agreement is about what a follower cannot be brought to accept. This is about what it does accept.
Every block of the leader but the first names the leader, and its signature is the one that the
leader made of its digest. So to a node that trusts the leader, and for which the leader's own
signatures are good, the chain of the leader is valid.

A node need not have the very blocks of the leader to go on with the next one of them. Only the
height and the hash of its head count, so it may have got its head from somebody else, with another
signature of the same digest or with its evidence in another order.
-/

namespace EvidenceLedger

namespace Judge

variable {judge : Judge} {head other block : Block} {before rest : List Block}

/-- Of the head of a chain only its height and its hash are looked at. -/
theorem follows_congr (height : other.height = head.height) (hash : other.hash = head.hash)
    (block : Block) : judge.follows other block = judge.follows head block := by
  rw [follows, follows, height, hash]

/-- The end of a valid chain is valid. -/
theorem isValid_append_right (valid : judge.isValid (before ++ rest) = true)
    (nonempty : rest ≠ []) : judge.isValid rest = true := by
  obtain ⟨_, links⟩ := isValid_iff_forall.mp valid
  have shifted (i : Nat) : rest[i]? = (before ++ rest)[before.length + i]? := by
    rw [List.getElem?_append_right (Nat.le_add_right _ _), Nat.add_sub_cancel_left]
  refine isValid_iff_forall.mpr ⟨nonempty, ?_⟩
  intro i a b atI atNext
  rw [shifted] at atI atNext
  exact links (before.length + i) a b atI atNext

end Judge

namespace Cluster

variable {Node : Type} {cluster : Cluster Node}

/-- A node finds the leader on its list. -/
theorem WellFormed.trustedKey?_leader (wellFormed : cluster.WellFormed) (node : Node) :
    (cluster.identity node).trustedKey? (cluster.identity cluster.leader).nodeId =
      some (cluster.key node) := by
  have counts : ((cluster.identity cluster.leader).nodeId, cluster.key node) ∈
      (cluster.identity node).allowlist.entries.filter fun entry => !Text.isBlank entry.2 := by
    rw [wellFormed.trusts node]
    exact List.mem_singleton_self _
  obtain ⟨listed, notBlank⟩ := List.mem_filter.mp counts
  exact Option.filter_eq_some_iff.mpr ⟨Allowlist.find?_of_mem listed, notBlank⟩

/-- The leader proposed the block, and its signature is the one that the leader made. -/
structure Attested (cluster : Cluster Node) (s : State Node) (block : Block) : Prop where
  proposer : block.proposer = (cluster.identity cluster.leader).nodeId
  signed : cluster.crypto.digestOf block.content ∈ s.signed
  signature : ∃ own, (cluster.identity cluster.leader).privateKey? = some own ∧
    cluster.crypto.sign own (cluster.crypto.digestOf block.content).bytes = .ok block.signature

/-- The signatures that the leader makes of what it has signed verify, as a node has the key. -/
def State.SignsWell (cluster : Cluster Node) (s : State Node) (node : Node) : Prop :=
  ∀ digest ∈ s.signed, ∀ own signature,
    (cluster.identity cluster.leader).privateKey? = some own →
    cluster.crypto.sign own digest.bytes = .ok signature →
    cluster.crypto.verify (cluster.key node) digest.bytes signature = true

/-- What an action seals is sealed under the key of its node. -/
theorem exists_key_of_sealed? {action : Action Node} {l : Ledger} {block : Block}
    (seals : action.sealed? cluster l = some block) :
    block.proposer = (cluster.identity action.node).nodeId ∧
      ∃ own, (cluster.identity action.node).privateKey? = some own ∧
        cluster.crypto.sign own (cluster.crypto.digestOf block.content).bytes =
          .ok block.signature := by
  cases action with
  | batch => cases seals
  | synchronize => cases seals
  | operate node op =>
    cases op with
    | submit => cases seals
    | accept => cases seals
    | commit now =>
      have answer : (l.commit (cluster.judge node) now).answer.toOption = some block := seals
      obtain ⟨reason, refused⟩ | ⟨own, made, _, holds, _, sealed, committed⟩ :=
        Ledger.commit_cases (cluster.judge node) l now
      · rw [refused] at answer
        cases answer
      · rw [committed] at answer
        obtain rfl := Option.some.inj answer
        obtain ⟨content, _, signature⟩ := Cryptography.sealBlock_eq_ok_iff.mp sealed
        refine ⟨congrArg BlockContent.proposer content, own, holds, ?_⟩
        rw [content]
        exact signature

variable [DecidableEq Node]

/-- What was signed stays signed. -/
theorem State.signed_subset_next (s : State Node) (action : Action Node) :
    s.signed ⊆ (s.next cluster action).signed :=
  List.subset_append_left _ _

theorem Attested.next {s : State Node} {block : Block} (attested : cluster.Attested s block)
    (action : Action Node) : cluster.Attested (s.next cluster action) block :=
  ⟨attested.proposer, s.signed_subset_next action attested.signed, attested.signature⟩

/-- Every block of the leader but the first is attested. -/
theorem attested_of_reachable (wellFormed : cluster.WellFormed) {s : State Node}
    (reachable : cluster.Reachable s) (collisionFree : cluster.crypto.CollisionFree s.texts)
    {i : Nat} {block : Block}
    (atNext : (s.ledgers cluster.leader).chain[i + 1]? = some block) :
    cluster.Attested s block := by
  induction reachable with
  | start => cases atNext
  | @next s earlier action genuine ih =>
    have known : ∀ text, s.texts text → (s.next cluster action).texts text := fun _ => .inl
    have sound := sound_of_reachable wellFormed earlier (collisionFree.mono known)
    obtain ⟨new, seals, isLeader, _, _, grown⟩ | ⟨quiet, behind⟩ :=
      sound.apply_cases wellFormed collisionFree known action
        (fun block delivers => .inr ⟨block, .inl delivers, rfl⟩) genuine
    · rw [State.ledgers_next_of_eq isLeader.symm, grown, isLeader] at atNext
      obtain old | ⟨_, rfl⟩ := getElem?_append_singleton_eq_some atNext
      · exact (ih (collisionFree.mono known) old).next action
      · obtain ⟨proposer, signature⟩ := exists_key_of_sealed? seals
        rw [isLeader] at proposer signature
        refine ⟨proposer, ?_, signature⟩
        rw [State.signed_next_of_some seals]
        exact List.mem_append_right _ (List.mem_singleton_self _)
    · rw [Sound.chain_leader_next behind] at atNext
      exact (ih (collisionFree.mono known) atNext).next action

/-- The chain of the leader is valid to every node, as long as heights can be counted. -/
theorem isValid_chain_leader (wellFormed : cluster.WellFormed) {s : State Node}
    (reachable : cluster.Reachable s) (collisionFree : cluster.crypto.CollisionFree s.texts)
    (room : (s.ledgers cluster.leader).chain.length ≤ UInt64.size) {node : Node}
    (signsWell : s.SignsWell cluster node) :
    (cluster.judge node).isValid (s.ledgers cluster.leader).chain = true := by
  have sound := sound_of_reachable wellFormed reachable collisionFree
  have linked := Ledger.linked_of_reachable (sound.reachable cluster.leader)
  have numbered := Ledger.numbered_of_reachable (sound.reachable cluster.leader) room
  refine Judge.isValid_iff_forall.mpr ⟨Ledger.chain_ne_nil _, ?_⟩
  intro i a b atI atNext
  obtain ⟨proposer, signed, own, holds, signature⟩ :=
    attested_of_reachable wellFormed reachable collisionFree atNext
  have hash := linked.hash b (List.mem_of_getElem? atNext)
  have declared : Digest.ofText? b.hash = some (cluster.crypto.digestOf b.content) := by
    rw [hash]
    exact Digest.ofText?_toText _
  refine Judge.follows_eq_ok_iff.mpr
    ⟨?_, linked.previousHash i a b atI atNext, cluster.key node, ?_, hash.symm, ?_⟩
  · have inside := (List.getElem?_eq_some_iff.mp atNext).1
    refine UInt64.toNat_inj.mp ?_
    rw [toNat_successorHeight, numbered _ _ atI, numbered _ _ atNext]
    omega
  · rw [proposer]
    exact wellFormed.trustedKey?_leader node
  · rw [Cryptography.isSigned, declared]
    exact signsWell _ signed own _ holds signature

end Cluster

end EvidenceLedger
