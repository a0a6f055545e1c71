import EvidenceLedger.Proofs.Bytes.Hex
import EvidenceLedger.Proofs.Chain.CanonicalText
import EvidenceLedger.Proofs.Ledger.Cluster
import EvidenceLedger.Proofs.Ledger.Integrity
import EvidenceLedger.Proofs.Ledger.Replication

/-!
# Agreement

Whatever a network does, a follower's chain is a beginning of the leader's chain, as far as hashes
tell. The argument goes back from a block that a node accepts. It carries a good signature, so its
digest was signed, and the digest is that of a block of the leader. Digests do not collide, so the
two blocks have one canonical form, and from that the previous hash can be read, since hashes hold
no separator. The previous hash is that of the node's head. No two blocks of the leader have the
same hash, so the block of the leader is the one after the place where the node's head stands.

For the leader itself there is no such place, so the leader accepts nothing.
-/

namespace EvidenceLedger

namespace Digest

/-- The text of a digest holds no separator. -/
theorem notMem_toText (digest : Octets 32) : '|' ∉ (toText digest).toList := by
  intro member
  exact absurd (isHexDigit_of_mem_toText member) (by decide)

end Digest

/-- Where one chain begins as another one does, as far as hashes tell, the other one has a block
with the same hash at every place. -/
theorem exists_of_hashes_prefix {xs ys : List Block}
    (agree : xs.map Block.hash <+: ys.map Block.hash) {i : Nat} {a : Block}
    (atI : xs[i]? = some a) : ∃ b, ys[i]? = some b ∧ b.hash = a.hash := by
  obtain ⟨rest, whole⟩ := agree
  obtain ⟨inside, _⟩ := List.getElem?_eq_some_iff.mp atI
  have hash : (ys.map Block.hash)[i]? = some a.hash := by
    rw [← whole, List.getElem?_append_left (by simpa using inside), List.getElem?_map, atI]
    rfl
  rw [List.getElem?_map] at hash
  exact Option.map_eq_some_iff.mp hash

theorem prefix_append_singleton {α : Type} {xs ys : List α} (h : xs <+: ys) {a : α}
    (atEnd : ys[xs.length]? = some a) : xs ++ [a] <+: ys := by
  obtain ⟨rest, rfl⟩ := h
  rw [List.getElem?_append_right Nat.le.refl, Nat.sub_self] at atEnd
  obtain ⟨tail, rfl⟩ := List.head?_eq_some_iff.mp (List.head?_eq_getElem? ▸ atEnd)
  exact ⟨tail, by simp⟩

namespace Linked

variable {crypto : Cryptography} {chain : List Block}

/-- The previous hashes in a chain hold no separator, except perhaps that of the first block. -/
theorem notMem_previousHash (linked : Linked crypto chain) {i : Nat} {block : Block}
    (atNext : chain[i + 1]? = some block) : '|' ∉ block.previousHash.toList := by
  obtain ⟨inside, _⟩ := List.getElem?_eq_some_iff.mp atNext
  have before : chain[i]? = some chain[i] := List.getElem?_eq_getElem (by omega)
  rw [linked.previousHash i _ block before atNext, linked.hash _ (List.mem_of_getElem? before)]
  exact Digest.notMem_toText _

/-- In a chain without collisions, in which only the first block holds no evidence, no hash comes
twice. -/
theorem index_of_hash (linked : Linked crypto chain)
    (evident : ∀ (i : Nat) (block : Block), chain[i + 1]? = some block → block.evidences ≠ [])
    (separates : ∀ a ∈ chain, ∀ b ∈ chain,
      crypto.digestOf a.content = crypto.digestOf b.content →
        a.content.canonicalText = b.content.canonicalText)
    {i j : Nat} {a b : Block} (atI : chain[i]? = some a) (atJ : chain[j]? = some b)
    (hash : a.hash = b.hash) : i = j := by
  have text {a b : Block} (memberA : a ∈ chain) (memberB : b ∈ chain) (hash : a.hash = b.hash) :
      a.content.canonicalText = b.content.canonicalText := by
    rw [linked.hash a memberA, linked.hash b memberB] at hash
    exact separates a memberA b memberB (Digest.toText_inj.mp hash)
  have notFirst {a b : Block} {k : Nat} (first : chain[0]? = some a)
      (later : chain[k + 1]? = some b) (hash : a.hash = b.hash) : False := by
    have none : a.content.evidences = [] := by
      rw [linked.genesis] at first
      rw [← Option.some.inj first]
      rfl
    have same := text (List.mem_of_getElem? first) (List.mem_of_getElem? later) hash
    exact evident k b later ((BlockContent.evidences_eq_nil_iff same).mp none)
  induction i generalizing j a b with
  | zero =>
    cases j with
    | zero => rfl
    | succ j => exact (notFirst atI atJ hash).elim
  | succ i ih =>
    cases j with
    | zero => exact (notFirst atJ atI hash.symm).elim
    | succ j =>
      obtain ⟨insideI, _⟩ := List.getElem?_eq_some_iff.mp atI
      obtain ⟨insideJ, _⟩ := List.getElem?_eq_some_iff.mp atJ
      have beforeI : chain[i]? = some chain[i] := List.getElem?_eq_getElem (by omega)
      have beforeJ : chain[j]? = some chain[j] := List.getElem?_eq_getElem (by omega)
      have same := text (List.mem_of_getElem? atI) (List.mem_of_getElem? atJ) hash
      have links := (BlockContent.canonicalText_inj.mp same).2.2
      have previous : a.previousHash = b.previousHash := ((BlockContent.linkChars_inj
        (linked.notMem_previousHash atI) (linked.notMem_previousHash atJ)).mp links).1
      rw [linked.previousHash i _ a beforeI atI, linked.previousHash j _ b beforeJ atJ] at previous
      exact congrArg (· + 1) (ih beforeI beforeJ previous)

end Linked

namespace Cluster

variable {Node : Type} {cluster : Cluster Node}

theorem WellFormed.key_of_trustedKey? (wellFormed : cluster.WellFormed) {node : Node}
    {proposer key : String} (trusted : (cluster.identity node).trustedKey? proposer = some key) :
    key = cluster.key node := by
  obtain ⟨found, notBlank⟩ := Option.filter_eq_some_iff.mp trusted
  obtain ⟨entry, isEntry, rfl⟩ := Option.map_eq_some_iff.mp found
  have counts : entry ∈ (cluster.identity node).allowlist.entries.filter
      fun entry => !Text.isBlank entry.2 :=
    List.mem_filter.mpr ⟨List.mem_of_find?_eq_some isEntry, notBlank⟩
  rw [wellFormed.trusts node, List.mem_singleton] at counts
  rw [counts]

/-- The chain of the leader and what was signed, when nothing has gone wrong. -/
structure Sound (cluster : Cluster Node) (s : State Node) : Prop where
  reachable : ∀ node, Ledger.Reachable (cluster.judge node) (s.ledgers node)
  signed : ∀ digest ∈ s.signed, ∃ (i : Nat) (block : Block),
    (s.ledgers cluster.leader).chain[i + 1]? = some block ∧
      digest = cluster.crypto.digestOf block.content
  evident : ∀ (i : Nat) (block : Block),
    (s.ledgers cluster.leader).chain[i + 1]? = some block → block.evidences ≠ []
  texts : ∀ block ∈ (s.ledgers cluster.leader).chain, s.texts block.content.canonicalText
  agree : ∀ node, (s.ledgers node).chain.map Block.hash <+:
    (s.ledgers cluster.leader).chain.map Block.hash

namespace Sound

variable {s : State Node}

/-- A block that a node accepts has the hash of the leader's block after the node's head. -/
theorem exists_of_follows (sound : cluster.Sound s) (wellFormed : cluster.WellFormed)
    {texts : String → Prop} (collisionFree : cluster.crypto.CollisionFree texts)
    (known : ∀ text, s.texts text → texts text) {node : Node} {l : Ledger}
    (reachable : Ledger.Reachable (cluster.judge node) l)
    (agree : l.chain.map Block.hash <+: (s.ledgers cluster.leader).chain.map Block.hash)
    {block : Block} (delivered : texts block.content.canonicalText)
    (genuine : s.Genuine cluster node block)
    (follows : (cluster.judge node).follows l.head block = .ok ()) :
    ∃ c, (s.ledgers cluster.leader).chain[l.chain.length]? = some c ∧ c.hash = block.hash := by
  have linked := Ledger.linked_of_reachable (sound.reachable cluster.leader)
  have linkedHere := Ledger.linked_of_reachable reachable
  obtain ⟨_, previous, key, trusted, hash, signed⟩ := Judge.follows_eq_ok_iff.mp follows
  -- The digest of the block was signed, so it is that of a block of the leader.
  have declared : Digest.ofText? block.hash = some (cluster.crypto.digestOf block.content) := by
    rw [← hash]
    exact Digest.ofText?_toText _
  have verified : cluster.crypto.verify (cluster.key node)
      (cluster.crypto.digestOf block.content).bytes block.signature = true := by
    have here : (cluster.judge node).crypto = cluster.crypto := rfl
    rw [wellFormed.key_of_trustedKey? trusted] at signed
    simpa only [Cryptography.isSigned, here, declared] using signed
  obtain ⟨i, c, atNext, digest⟩ := sound.signed _ (genuine _ declared verified)
  have member : c ∈ (s.ledgers cluster.leader).chain := List.mem_of_getElem? atNext
  have same : block.content.canonicalText = c.content.canonicalText :=
    collisionFree _ _ delivered (known _ (sound.texts c member)) digest
  -- The two blocks name the same previous hash.
  have noBar : '|' ∉ block.content.previousHash.toList := by
    show '|' ∉ block.previousHash.toList
    rw [previous, linkedHere.hash l.head (List.mem_of_getElem? (Ledger.getElem?_chain_head l))]
    exact Digest.notMem_toText _
  have links := (BlockContent.canonicalText_inj.mp same).2.2
  have sharedPrevious : block.previousHash = c.previousHash :=
    ((BlockContent.linkChars_inj noBar (linked.notMem_previousHash atNext)).mp links).1
  -- The node's head stands where the block before the leader's block stands.
  obtain ⟨inside, _⟩ := List.getElem?_eq_some_iff.mp atNext
  have atI : (s.ledgers cluster.leader).chain[i]? = some (s.ledgers cluster.leader).chain[i] :=
    List.getElem?_eq_getElem (by omega)
  obtain ⟨d, atHead, headHash⟩ : ∃ d,
      (s.ledgers cluster.leader).chain[l.chain.length - 1]? = some d ∧ d.hash = l.head.hash :=
    exists_of_hashes_prefix agree (Ledger.getElem?_chain_head l)
  have index : i = l.chain.length - 1 := by
    refine linked.index_of_hash sound.evident ?_ atI atHead ?_
    · intro a memberA b memberB collision
      exact collisionFree _ _ (known _ (sound.texts a memberA)) (known _ (sound.texts b memberB))
        collision
    · rw [headHash, ← previous, sharedPrevious, linked.previousHash i _ c atI atNext]
  have nonempty := List.length_pos_iff.mpr (Ledger.chain_ne_nil l)
  have next : i + 1 = l.chain.length := by omega
  refine ⟨c, next ▸ atNext, ?_⟩
  rw [linked.hash c member, ← hash]
  exact congrArg Digest.toText digest.symm

/-- What a node has, between its ledger and the chain of the leader, while blocks are delivered. -/
structure Follows (cluster : Cluster Node) (s : State Node) (node : Node) (l : Ledger) : Prop where
  reachable : Ledger.Reachable (cluster.judge node) l
  grown : (s.ledgers node).chain <+: l.chain
  agree : l.chain.map Block.hash <+: (s.ledgers cluster.leader).chain.map Block.hash

/-- A node whose chain stays as it was stays behind the leader. -/
theorem Follows.of_chain_eq (sound : cluster.Sound s) {node : Node} {l : Ledger}
    (reachable : Ledger.Reachable (cluster.judge node) l)
    (unchanged : l.chain = (s.ledgers node).chain) : Follows cluster s node l where
  reachable := reachable
  grown := unchanged ▸ List.prefix_rfl
  agree := by
    rw [unchanged]
    exact sound.agree node

/-- Accepting a block that is delivered keeps a node behind the leader. -/
theorem Follows.accept (sound : cluster.Sound s) (wellFormed : cluster.WellFormed)
    {texts : String → Prop} (collisionFree : cluster.crypto.CollisionFree texts)
    (known : ∀ text, s.texts text → texts text) {node : Node} {l : Ledger}
    (behind : Follows cluster s node l) {block : Block}
    (delivered : texts block.content.canonicalText) (genuine : s.Genuine cluster node block) :
    Follows cluster s node (l.accept (cluster.judge node) block).ledger := by
  have reachable := behind.reachable.perform (.accept block)
  cases judged : (cluster.judge node).follows l.head block with
  | error reason =>
    rw [Ledger.accept_of_error judged]
    exact behind
  | ok _ =>
    obtain ⟨c, atEnd, hash⟩ := sound.exists_of_follows wellFormed collisionFree known
      behind.reachable behind.agree delivered genuine judged
    have chain : (l.accept (cluster.judge node) block).ledger.chain = l.chain ++ [block] := by
      simp [Ledger.accept_of_ok judged]
    refine ⟨reachable, ?_, ?_⟩
    · rw [chain]
      exact behind.grown.trans (List.prefix_append _ _)
    · rw [chain, List.map_append, List.map_singleton, ← hash]
      exact prefix_append_singleton behind.agree (by simp [atEnd])

/-- The leader is not behind itself, so nothing that is delivered changes its chain. -/
theorem Follows.chain_leader {l : Ledger} (behind : Follows cluster s cluster.leader l) :
    l.chain = (s.ledgers cluster.leader).chain := by
  have shorter := behind.agree.length_le
  simp only [List.length_map] at shorter
  exact (behind.grown.eq_of_length_le shorter).symm

/-- A commit that fails changes nothing, and one that succeeds is that of the leader. -/
theorem commit_cases (wellFormed : cluster.WellFormed) (node : Node) (l : Ledger)
    (now : Timestamp) :
    (l.commit (cluster.judge node) now).answer.toOption = none ∧
        (l.commit (cluster.judge node) now).ledger.chain = l.chain ∨
      ∃ block, (l.commit (cluster.judge node) now).answer.toOption = some block ∧
        node = cluster.leader ∧ Ledger.Sealed (cluster.judge node) l block ∧
        (l.commit (cluster.judge node) now).ledger.chain = l.chain ++ [block] := by
  obtain ⟨reason, refused⟩ | ⟨_, block, leads, _, waiting, sealed, committed⟩ :=
    Ledger.commit_cases (cluster.judge node) l now
  · exact .inl (by simp [refused, Except.toOption])
  · obtain ⟨content, hash, _⟩ := Cryptography.sealBlock_eq_ok_iff.mp sealed
    have isLeader : node = cluster.leader := by
      by_cases same : node = cluster.leader
      · exact same
      · exact absurd ((wellFormed.follows node same).symm.trans leads) (by decide)
    refine .inr ⟨block, ?_, isLeader, ⟨waiting, ⟨now, content⟩, ?_⟩, ?_⟩
    · rw [committed]
      rfl
    · rw [hash, content]
    · simp [committed]

/-- All that an action can do: the leader seals a block and signs its digest, or the node stays
behind the leader and nothing is signed. -/
theorem apply_cases (sound : cluster.Sound s) (wellFormed : cluster.WellFormed)
    {texts : String → Prop} (collisionFree : cluster.crypto.CollisionFree texts)
    (known : ∀ text, s.texts text → texts text) (action : Action Node)
    (delivered : ∀ block, action.Delivers block → texts block.content.canonicalText)
    (genuine : ∀ block, action.Delivers block → s.Genuine cluster action.node block) :
    (∃ block, action.sealed? cluster (s.ledgers action.node) = some block ∧
      action.node = cluster.leader ∧
      Ledger.Sealed (cluster.judge action.node) (s.ledgers action.node) block ∧
      Ledger.Reachable (cluster.judge action.node)
        (action.apply cluster (s.ledgers action.node)) ∧
      (action.apply cluster (s.ledgers action.node)).chain =
        (s.ledgers action.node).chain ++ [block]) ∨
    (action.sealed? cluster (s.ledgers action.node) = none ∧
      Follows cluster s action.node (action.apply cluster (s.ledgers action.node))) := by
  have before : Follows cluster s action.node (s.ledgers action.node) :=
    ⟨sound.reachable action.node, List.prefix_rfl, sound.agree action.node⟩
  have accepts (l : Ledger) (block : Block) (delivers : action.Delivers block)
      (behind : Follows cluster s action.node l) :
      Follows cluster s action.node (l.accept (cluster.judge action.node) block).ledger :=
    behind.accept sound wellFormed collisionFree known (delivered block delivers)
      (genuine block delivers)
  cases action with
  | operate node op =>
    have reachable := before.reachable.perform op
    cases op with
    | submit draft newId now =>
      exact .inr ⟨rfl, .of_chain_eq sound reachable (Ledger.chain_submit _ draft newId now)⟩
    | commit now =>
      obtain ⟨quiet, unchanged⟩ | ⟨block, answer, isLeader, sealed, chain⟩ :=
        commit_cases wellFormed node (s.ledgers node) now
      · exact .inr ⟨quiet, .of_chain_eq sound reachable unchanged⟩
      · exact .inl ⟨block, answer, isLeader, sealed, reachable, chain⟩
    | accept block => exact .inr ⟨rfl, accepts _ block rfl before⟩
  | batch node progress blocks =>
    exact .inr ⟨rfl, applyBatch_preserves (fun l block member => accepts l block member) before _⟩
  | synchronize node config transport cutoffMs hint =>
    exact .inr ⟨rfl, @Synchronizer.synchronize_preserves
      ⟨cluster.judge node, config, transport, cutoffMs⟩ _
      (fun l block serves => accepts l block serves) hint (.start (s.ledgers node)) before⟩

theorem start (cluster : Cluster Node) : cluster.Sound (.start cluster) where
  reachable _ := .start
  signed := by simp [State.start]
  evident := by simp [State.start]
  texts := by simp [State.start, Cryptography.genesis, Block.content, Cryptography.genesisContent]
  agree _ := List.prefix_rfl

variable [DecidableEq Node] {action : Action Node}

/-- Only the node that the action happens to gets another ledger. -/
theorem reachable_next (sound : cluster.Sound s)
    (reachable : Ledger.Reachable (cluster.judge action.node)
      (action.apply cluster (s.ledgers action.node))) (node : Node) :
    Ledger.Reachable (cluster.judge node) ((s.next cluster action).ledgers node) := by
  by_cases same : node = action.node
  · rw [State.ledgers_next_of_eq same, same]
    exact reachable
  · rw [State.ledgers_next_of_ne same]
    exact sound.reachable node

/-- The chain of the leader stays as it is while nodes stay behind it. -/
theorem chain_leader_next
    (behind : Follows cluster s action.node (action.apply cluster (s.ledgers action.node))) :
    ((s.next cluster action).ledgers cluster.leader).chain =
      (s.ledgers cluster.leader).chain := by
  by_cases same : cluster.leader = action.node
  · rw [State.ledgers_next_of_eq same]
    rw [← same] at behind ⊢
    exact behind.chain_leader
  · rw [State.ledgers_next_of_ne same]

/-- Where nothing is signed nothing is spoilt. -/
theorem next_of_follows (sound : cluster.Sound s)
    (quiet : action.sealed? cluster (s.ledgers action.node) = none)
    (behind : Follows cluster s action.node (action.apply cluster (s.ledgers action.node))) :
    cluster.Sound (s.next cluster action) := by
  have leader := chain_leader_next behind
  refine ⟨sound.reachable_next behind.reachable, ?_, ?_, ?_, fun node => ?_⟩
  · rw [State.signed_next_of_none quiet, leader]
    exact sound.signed
  · rw [leader]
    exact sound.evident
  · rw [leader]
    exact fun block member => .inl (sound.texts block member)
  · rw [leader]
    by_cases same : node = action.node
    · rw [State.ledgers_next_of_eq same]
      exact behind.agree
    · rw [State.ledgers_next_of_ne same]
      exact sound.agree node

/-- Where the leader seals a block, the others stay where they are. -/
theorem next_of_sealed (sound : cluster.Sound s) {block : Block}
    (signs : action.sealed? cluster (s.ledgers action.node) = some block)
    (isLeader : action.node = cluster.leader)
    (isSealed : Ledger.Sealed (cluster.judge action.node) (s.ledgers action.node) block)
    (reachable : Ledger.Reachable (cluster.judge action.node)
      (action.apply cluster (s.ledgers action.node)))
    (grown : (action.apply cluster (s.ledgers action.node)).chain =
      (s.ledgers action.node).chain ++ [block]) :
    cluster.Sound (s.next cluster action) := by
  have leader : ((s.next cluster action).ledgers cluster.leader).chain =
      (s.ledgers cluster.leader).chain ++ [block] := by
    rw [State.ledgers_next_of_eq isLeader.symm, grown, isLeader]
  refine ⟨sound.reachable_next reachable, ?_, ?_, ?_, fun node => ?_⟩
  · rw [State.signed_next_of_some signs, leader]
    intro digest member
    rcases List.mem_append.mp member with old | new
    · obtain ⟨i, signedBlock, atNext, isDigest⟩ := sound.signed digest old
      obtain ⟨inside, _⟩ := List.getElem?_eq_some_iff.mp atNext
      exact ⟨i, signedBlock, by rw [List.getElem?_append_left inside, atNext], isDigest⟩
    · have nonempty := List.length_pos_iff.mpr (Ledger.chain_ne_nil (s.ledgers cluster.leader))
      refine ⟨(s.ledgers cluster.leader).chain.length - 1, block, ?_, List.mem_singleton.mp new⟩
      rw [Nat.sub_add_cancel nonempty]
      simp
  · rw [leader]
    intro i b atNext
    obtain before | ⟨_, rfl⟩ := getElem?_append_singleton_eq_some atNext
    · exact sound.evident i b before
    · obtain ⟨now, content⟩ := isSealed.content
      have evidences : b.evidences = (s.ledgers action.node).mempool :=
        congrArg BlockContent.evidences content
      rw [evidences]
      exact isSealed.waiting
  · rw [leader]
    intro b member
    rcases List.mem_append.mp member with old | new
    · exact .inl (sound.texts b old)
    · obtain rfl := List.mem_singleton.mp new
      exact .inr ⟨b, .inr signs, rfl⟩
  · rw [leader]
    by_cases same : node = action.node
    · rewrite [State.ledgers_next_of_eq same, grown, isLeader]
      exact List.prefix_rfl
    · rw [State.ledgers_next_of_ne same, List.map_append]
      exact (sound.agree node).trans (List.prefix_append _ _)

/-- No action spoils anything, as long as signatures and digests hold. -/
theorem next (sound : cluster.Sound s) (wellFormed : cluster.WellFormed)
    (collisionFree : cluster.crypto.CollisionFree (s.next cluster action).texts)
    (genuine : ∀ block, action.Delivers block → s.Genuine cluster action.node block) :
    cluster.Sound (s.next cluster action) := by
  obtain ⟨block, signs, isLeader, isSealed, reachable, grown⟩ | ⟨quiet, behind⟩ :=
    sound.apply_cases wellFormed collisionFree (fun _ known => .inl known) action
      (fun block delivers => .inr ⟨block, .inl delivers, rfl⟩) genuine
  · exact sound.next_of_sealed signs isLeader isSealed reachable grown
  · exact sound.next_of_follows quiet behind

end Sound

theorem sound_of_reachable [DecidableEq Node] (wellFormed : cluster.WellFormed) {s : State Node}
    (reachable : cluster.Reachable s) (collisionFree : cluster.crypto.CollisionFree s.texts) :
    cluster.Sound s := by
  induction reachable with
  | start => exact .start cluster
  | next _ action genuine ih =>
    exact (ih (collisionFree.mono fun _ known => .inl known)).next wellFormed collisionFree genuine

/-- Agreement. Nodes start afresh and trust one leader, and anything may happen to them, in any
order: submissions and commits, and blocks delivered by whoever and in whatever way. As long as
no signature of the leader is made up and no two of the canonical forms that came up have one
digest, the hashes in the chain of every node are, at every time, a beginning of the hashes in the
chain of the leader. -/
theorem hashes_prefix_of_reachable [DecidableEq Node] (cluster : Cluster Node)
    (wellFormed : cluster.WellFormed) (s : State Node) (reachable : cluster.Reachable s)
    (collisionFree : cluster.crypto.CollisionFree s.texts) (node : Node) :
    (s.ledgers node).chain.map Block.hash <+:
      (s.ledgers cluster.leader).chain.map Block.hash :=
  (sound_of_reachable wellFormed reachable collisionFree).agree node

end Cluster

/-! A leader and a follower that gets the block of the leader. -/

namespace Sample

def follower : NodeIdentity :=
  (NodeIdentity.follower "node-2").allow "node-1" "6kpsY+KcUgq+9VB7Ey7F+ZVHdq6+vnuSQh7qaRRG0iw="

def cluster : Cluster Bool where
  crypto := .standard
  identity leads := if leads then leader else follower
  leader := true
  key _ := "6kpsY+KcUgq+9VB7Ey7F+ZVHdq6+vnuSQh7qaRRG0iw="

theorem wellFormed_cluster : cluster.WellFormed where
  follows := by decide
  trusts := by decide +kernel

def submitted : Cluster.State Bool :=
  (Cluster.State.start cluster).next cluster (.operate true (.submit draft "ev-1" .genesis))

def committed : Cluster.State Bool :=
  submitted.next cluster (.operate true (.commit .genesis))

/-- The follower got the block. -/
def replicated : Cluster.State Bool :=
  committed.next cluster (.operate false (.accept sealedBlock))

theorem ledgers_submitted : submitted.ledgers true = waiting :=
  perform_submit

theorem sealed?_submitted :
    (Cluster.Action.operate true (.commit .genesis)).sealed? cluster (submitted.ledgers true) =
      some sealedBlock := by
  rw [ledgers_submitted]
  show (waiting.commit judge .genesis).answer.toOption = some sealedBlock
  rw [commit_waiting]
  rfl

/-- The digest of the block was signed before the block is delivered. -/
theorem genuine_sealedBlock : committed.Genuine cluster false sealedBlock := by
  intro digest declared _
  have isDigest : digest = cluster.crypto.digestOf sealedBlock.content := by
    have written : Digest.ofText? sealedBlock.hash =
        some (cluster.crypto.digestOf sealedBlock.content) := Digest.ofText?_toText _
    exact Option.some.inj (declared.symm.trans written)
  have signed : committed.signed =
      submitted.signed ++ [cluster.crypto.digestOf sealedBlock.content] :=
    @Cluster.State.signed_next_of_some _ _ _ _ (.operate true (.commit .genesis)) _
      sealed?_submitted
  rw [isDigest, signed]
  exact List.mem_append_right _ (List.mem_singleton_self _)

theorem reachable_replicated : cluster.Reachable replicated := by
  refine .next (.next (.next .start _ ?_) _ ?_) _ ?_
  · intro block none
    exact none.elim
  · intro block none
    exact none.elim
  · rintro block rfl
    exact genuine_sealedBlock

/-- Only two canonical forms come up. -/
theorem texts_replicated {text : String} (h : replicated.texts text) :
    text = Cryptography.genesisContent.canonicalText ∨ text = content.canonicalText := by
  rcases h with ((first | ⟨block, none | none, _⟩) | ⟨block, none | isSealed, rfl⟩) |
    ⟨block, delivered | none, rfl⟩
  · exact .inl first
  · exact none.elim
  · exact nomatch none
  · exact none.elim
  · obtain rfl := Option.some.inj (sealed?_submitted.symm.trans isSealed)
    exact .inr rfl
  · obtain rfl : block = sealedBlock := delivered
    exact .inr rfl
  · exact nomatch none

theorem collisionFree_replicated : cluster.crypto.CollisionFree replicated.texts := by
  have distinct : Sha256.hash (Bytes.ofString Cryptography.genesisContent.canonicalText) ≠
      Sha256.hash (Bytes.ofString content.canonicalText) := by
    decide +kernel
  intro a b isA isB collision
  rcases texts_replicated isA with rfl | rfl <;> rcases texts_replicated isB with rfl | rfl
  · rfl
  · exact absurd collision distinct
  · exact absurd collision.symm distinct
  · rfl

end Sample

/-- The follower that got the block of the leader has it in its chain, and agrees with the leader
on two blocks. -/
theorem Cluster.hashes_prefix_of_replicated :
    let s := Sample.replicated
    Sample.cluster.WellFormed ∧ Sample.cluster.Reachable s ∧
      Sample.cluster.crypto.CollisionFree s.texts ∧ (s.ledgers false).chain.length = 2 ∧
      (s.ledgers false).chain.map Block.hash <+: (s.ledgers true).chain.map Block.hash := by
  intro s
  have before : Sample.committed.ledgers false = .fresh .standard := rfl
  have judge : Sample.cluster.judge false = ⟨.standard, Sample.follower⟩ := rfl
  have step : s.ledgers false = (Sample.committed.ledgers false).perform
      (Sample.cluster.judge false) (.accept Sample.sealedBlock) := by
    rw [← Cluster.Action.apply_operate]
    exact Cluster.State.ledgers_next_of_eq rfl
  have accepted : (s.ledgers false).chain =
      (Ledger.fresh .standard).chain ++ [Sample.sealedBlock] := by
    have follows := @Sample.follows_sealedBlock Sample.follower (by decide)
    rw [← Ledger.head_fresh] at follows
    rw [step, before, judge, Ledger.perform_accept, Ledger.accept_of_ok follows,
      Ledger.chain_append]
  refine ⟨Sample.wellFormed_cluster, Sample.reachable_replicated, Sample.collisionFree_replicated,
    ?_, ?_⟩
  · rw [accepted, List.length_append]
    rfl
  · exact Cluster.hashes_prefix_of_reachable Sample.cluster Sample.wellFormed_cluster s
      Sample.reachable_replicated Sample.collisionFree_replicated false

end EvidenceLedger
