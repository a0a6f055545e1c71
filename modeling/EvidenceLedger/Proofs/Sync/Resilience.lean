import EvidenceLedger.Proofs.Ledger.Attestation
import EvidenceLedger.Proofs.Sync.Rounds

/-!
# One honest peer is enough

A follower synchronises with all of its peers, and they may do what they like: fail, keep it
waiting, pretend heights, and serve blocks that are made up, altered, repeated, or from the leader
after all. If one of them answers from a beginning of the leader's chain, then afterwards the
follower is at least as high, whenever its turn came.

What the others can do to the follower before and after that turn is described by agreement: the
follower goes on having a beginning of the leader's chain, as far as hashes tell. From every such
chain on, the blocks that the honest peer has left to serve are accepted, though the blocks that the
follower has by then need not be those of the peer. And what the follower has reached it does not
lose.
-/

namespace EvidenceLedger

/-- What follows a block in a valid chain is accepted on top of every ledger whose head has the
height and the hash of the block. -/
theorem Ledger.takeAccepted_of_isValid_cons {judge : Judge} {l : Ledger} {head : Block}
    {blocks : List Block} (height : l.head.height = head.height) (hash : l.head.hash = head.hash)
    (valid : judge.isValid (head :: blocks) = true) : l.takeAccepted judge blocks = blocks := by
  induction blocks generalizing l head with
  | nil => rfl
  | cons block rest ih =>
    obtain ⟨_, links⟩ := Judge.isValid_iff_forall.mp valid
    have judged : judge.follows l.head block = .ok () := by
      rw [Judge.follows_congr height hash]
      exact links 0 head block rfl rfl
    have later : judge.isValid (block :: rest) = true :=
      @Judge.isValid_append_right judge [head] _ valid (List.cons_ne_nil _ _)
    rw [takeAccepted_cons_of_ok judged, ih _ _ later]
    · rw [accept_of_ok judged]
      rfl
    · rw [accept_of_ok judged]
      rfl

/-- No round takes anything from a chain. -/
theorem Round.Made.grown {s : Synchronizer} {before after : Session} {round : Round}
    (made : round.Made s before after) : before.ledger.chain <+: after.ledger.chain := by
  have kept := Synchronizer.synchronize_preserves (s := s) (P := (before.ledger.chain <+: ·.chain))
    (fun l block _ grown => grown.trans (Ledger.chain_prefix_perform s.judge l (.accept block)))
    (some round.entry) List.prefix_rfl
  rw [made.run] at kept
  exact kept

namespace Cluster

variable {Node : Type}

/-- A node that synchronises and is not abandoned. -/
def synchronizer (cluster : Cluster Node) (node : Node) (config : SyncConfig)
    (transport : Transport) : Synchronizer :=
  ⟨cluster.judge node, config, transport, none⟩

/-- What is taken for granted of cryptography when a node synchronises. Among the canonical forms
that came up and those of the blocks that peers may serve, no two have one digest. No block that
peers may serve has a signature that was made up. The leader's own signatures are good. -/
structure State.Secure (cluster : Cluster Node) (state : State Node) (node : Node)
    (transport : Transport) : Prop where
  collisionFree : cluster.crypto.CollisionFree fun text =>
    state.texts text ∨ ∃ block, transport.Serves block ∧ text = block.content.canonicalText
  genuine : ∀ block, transport.Serves block → state.Genuine cluster node block
  signsWell : state.SignsWell cluster node

section Room

variable {cluster : Cluster Node} {state : State Node} {node : Node}
  (room : (state.ledgers cluster.leader).chain.length ≤ UInt64.size)
include room

/-- Heights count from zero in a beginning of the leader's chain. -/
theorem Sound.numbered (sound : cluster.Sound state) {chain : List Block}
    (begins : chain <+: (state.ledgers cluster.leader).chain) : Numbered chain := by
  have numbered := Ledger.numbered_of_reachable (sound.reachable cluster.leader) room
  exact numbered.of_prefix begins

/-- So do they in the chain of a node that is behind the leader. -/
theorem Sound.Follows.numbered {l : Ledger} (behind : Sound.Follows cluster state node l) :
    Numbered l.chain := by
  have shorter := behind.agree.length_le
  simp only [List.length_map] at shorter
  exact Ledger.numbered_of_reachable behind.reachable (Nat.le_trans shorter room)

end Room

section Follower

variable [DecidableEq Node] {cluster : Cluster Node} {state : State Node} {node : Node}
  {transport : Transport} {config : SyncConfig} {before after : Session} {round : Round}
  (wellFormed : cluster.WellFormed) (reachable : cluster.Reachable state)
  (secure : state.Secure cluster node transport)
include wellFormed reachable secure

theorem sound_of_secure : cluster.Sound state :=
  sound_of_reachable wellFormed reachable (secure.collisionFree.mono fun _ => .inl)

/-- Whomever a node asks, it stays behind the leader. -/
theorem follows_of_made
    (made : round.Made (cluster.synchronizer node config transport) before after)
    (behind : Sound.Follows cluster state node before.ledger) :
    Sound.Follows cluster state node after.ledger := by
  have sound := sound_of_secure wellFormed reachable secure
  have accepts (l : Ledger) (block : Block) (serves : transport.Serves block)
      (behind : Sound.Follows cluster state node l) :
      Sound.Follows cluster state node (l.accept (cluster.judge node) block).ledger :=
    behind.accept sound wellFormed secure.collisionFree (fun _ => .inl)
      (.inr ⟨block, serves, rfl⟩) (secure.genuine block serves)
  have kept := Synchronizer.synchronize_preserves
    (s := cluster.synchronizer node config transport) accepts (some round.entry) behind
  rw [made.run] at kept
  exact kept

variable (room : (state.ledgers cluster.leader).chain.length ≤ UInt64.size)
include room

/-- A node that is behind the leader accepts all that it misses of a beginning of the leader's
chain. -/
theorem takeAccepted_missing {l remote : Ledger} (behind : Sound.Follows cluster state node l)
    (begins : remote.chain <+: (state.ledgers cluster.leader).chain)
    (lower : l.chain.length ≤ remote.chain.length) :
    l.takeAccepted (cluster.judge node) (l.missing remote) = l.missing remote := by
  have sound := sound_of_secure wellFormed reachable secure
  have numbered := sound.numbered room List.prefix_rfl
  have valid := isValid_chain_leader wellFormed reachable
    (secure.collisionFree.mono fun _ => .inl) room secure.signsWell
  obtain ⟨rest, whole⟩ := begins
  rw [← whole] at valid numbered
  -- At the place of its head the leader, and so the peer, has a block with the same hash.
  have atHead := Ledger.getElem?_chain_head l
  have nonempty := List.length_pos_iff.mpr (Ledger.chain_ne_nil l)
  obtain ⟨k, count⟩ : ∃ k, l.chain.length = k + 1 := ⟨_, (Nat.sub_add_cancel nonempty).symm⟩
  rw [count, Nat.add_sub_cancel] at atHead
  obtain ⟨twin, atTwin, hash⟩ := exists_of_hashes_prefix behind.agree atHead
  have height : l.head.height = twin.height := by
    rw [← whole] at atTwin
    exact UInt64.toNat_inj.mp ((behind.numbered room _ _ atHead).trans (numbered _ _ atTwin).symm)
  rw [← whole, List.getElem?_append_left (by omega)] at atTwin
  have split : remote.chain = remote.chain.take k ++ twin :: l.missing remote := by
    obtain ⟨inside, rfl⟩ := List.getElem?_eq_some_iff.mp atTwin
    rw [Ledger.missing, count, ← List.drop_eq_getElem_cons inside]
    exact (List.take_append_drop _ _).symm
  have remains := Judge.isValid_of_append valid (Ledger.chain_ne_nil remote)
  rw [split] at remains
  exact Ledger.takeAccepted_of_isValid_cons height hash.symm
    (Judge.isValid_append_right remains (List.cons_ne_nil _ _))

/-- After a node has asked a peer that has a beginning of the leader's chain, its chain is as long
as that of the peer. -/
theorem length_le_of_made {remote : Ledger} {honest : String}
    (begins : remote.chain <+: (state.ledgers cluster.leader).chain)
    (answers : (cluster.synchronizer node config transport).Answers honest remote)
    (chosen : Synchronizer.choosePeer (cluster.synchronizer node config transport).judge.identity
      (some round.entry) = some honest)
    (positive : 0 < config.batchSize)
    (made : round.Made (cluster.synchronizer node config transport) before after)
    (behind : Sound.Follows cluster state node before.ledger) :
    remote.chain.length ≤ after.ledger.chain.length := by
  have sound := sound_of_secure wellFormed reachable secure
  have counts := Ledger.toNat_height_head (behind.numbered room)
  have remoteCounts := Ledger.toNat_height_head (sound.numbered room begins)
  have run := made.run
  have whole : (cluster.synchronizer node config transport).cutoffMs = none := rfl
  by_cases level : remote.head.height ≤ before.ledger.head.height
  · obtain ⟨_, upToDate, ledger, _⟩ :=
      Synchronizer.synchronize_of_upToDate whole chosen answers before level
    obtain ⟨rfl, _⟩ := Prod.mk.inj (run.symm.trans upToDate)
    have below := UInt64.le_iff_toNat_le.mp level
    rw [ledger]
    omega
  · have lower := UInt64.not_le.mp level
    have below := UInt64.lt_iff_toNat_lt.mp lower
    have fetches := Synchronizer.synchronize_fetches whole chosen answers positive remoteCounts
      before counts lower
    have taken := takeAccepted_missing wellFormed reachable secure room behind begins (by omega)
    have ledger := fetches.ledger
    rw [run] at ledger
    have chain : after.ledger.chain = before.ledger.chain ++ before.ledger.missing remote := by
      rw [ledger, Ledger.chain_acceptAll_takeAccepted]
      exact congrArg (before.ledger.chain ++ ·) taken
    rw [chain, List.length_append, Ledger.missing, List.length_drop]
    omega

end Follower

/-- Faulty peers cannot keep a follower from catching up. In a cluster with one leader, in which
anything may have happened, a follower synchronises with all of its peers, in their order. Whatever
the peers do, this ends, and the hashes in the chain of the follower are a beginning of those in the
chain of the leader. If one of the peers, which is configured as it stands, answers from a beginning
of the leader's chain, and batches may hold blocks, then the follower's head is at least as high as
that of the peer.

As in agreement, digests do not collide and signatures are not made up; the leader's own signatures
are good; and there are no more blocks than words of 64 bits to count them with. -/
theorem autoSync_reaches [DecidableEq Node] (cluster : Cluster Node)
    (wellFormed : cluster.WellFormed) (state : State Node) (reachable : cluster.Reachable state)
    (node : Node) (follows : node ≠ cluster.leader) (config : SyncConfig) (transport : Transport)
    (secure : state.Secure cluster node transport)
    (room : (state.ledgers cluster.leader).chain.length ≤ UInt64.size) (honest : String)
    (configured : honest ∈ (cluster.identity node).peers) (notBlank : Text.isBlank honest = false)
    (trimmed : Text.trim honest = honest) (remote : Ledger)
    (begins : remote.chain <+: (state.ledgers cluster.leader).chain)
    (answers : (cluster.synchronizer node config transport).Answers honest remote) :
    let result :=
      (cluster.synchronizer node config transport).autoSync (.start (state.ledgers node))
    let after := result.1.ledger
    (∃ results, result.2 = some results) ∧
      after.chain.map Block.hash <+: (state.ledgers cluster.leader).chain.map Block.hash ∧
      (0 < config.batchSize → remote.head.height ≤ after.head.height) := by
  intro result after
  have sound := sound_of_secure wellFormed reachable secure
  have start : Sound.Follows cluster state node (state.ledgers node) :=
    .of_chain_eq sound (sound.reachable node) rfl
  obtain ⟨rounds, last, isResult, entries, made⟩ := Synchronizer.exists_rounds_autoSync
    (s := cluster.synchronizer node config transport) rfl (wellFormed.follows node follows)
    (List.ne_nil_of_mem configured) (.start (state.ledgers node))
  have isAfter : after = last.ledger := congrArg (·.1.ledger) isResult
  have behind : Sound.Follows cluster state node last.ledger :=
    made.keeps (P := Sound.Follows cluster state node)
      (fun made => follows_of_made wellFormed reachable secure made) start
  refine ⟨⟨_, congrArg Prod.snd isResult⟩, isAfter ▸ behind.agree, ?_⟩
  intro positive
  -- Before the turn of the honest peer the node is behind the leader, and from then on its chain
  -- is long enough, too.
  have chosen : Synchronizer.choosePeer (cluster.identity node) (some honest) = some honest := by
    rw [Synchronizer.choosePeer_some, notBlank, trimmed]
    rfl
  have long : remote.chain.length ≤ last.ledger.chain.length := by
    refine made.turns (P := Sound.Follows cluster state node)
      (Q := fun l => remote.chain.length ≤ l.chain.length) honest
      (fun made => follows_of_made wellFormed reachable secure made) ?_ ?_ (entries ▸ configured)
      start
    · intro before after round made long
      exact Nat.le_trans long made.grown.length_le
    · rintro before after round made rfl behind
      exact length_le_of_made wellFormed reachable secure room begins answers chosen positive made
        behind
  have counts := Ledger.toNat_height_head (behind.numbered room)
  have remoteCounts := Ledger.toNat_height_head (sound.numbered room begins)
  rw [isAfter, UInt64.le_iff_toNat_le]
  omega

end Cluster

/-! A follower with two peers, of which the first cannot be reached and the second is the leader,
who has sealed a block. -/

namespace Sample

/-- The leader and a follower that has peers. -/
def clusterWithPeers : Cluster Bool :=
  { cluster with
    identity := fun leads => if leads then leader else follower.withPeers ["node-9", "node-1"] }

theorem wellFormed_clusterWithPeers : clusterWithPeers.WellFormed where
  follows := by decide
  trusts := by decide +kernel

/-- Peers play no part as long as nobody asks them. -/
theorem reachable_committed : clusterWithPeers.Reachable committed := by
  have begun : clusterWithPeers.Reachable (.start cluster) := .start
  have first : clusterWithPeers.Reachable submitted :=
    .next begun (.operate true (.submit draft "ev-1" .genesis)) fun _ none => none.elim
  exact .next first (.operate true (.commit .genesis)) fun _ none => none.elim

theorem ledgers_committed : committed.ledgers true = sealedLedger := by
  have leads : cluster.judge true = judge := rfl
  have applied : committed.ledgers true =
      (submitted.ledgers true).perform (cluster.judge true) (.commit .genesis) := by
    rw [← Cluster.Action.apply_operate]
    exact Cluster.State.ledgers_next_of_eq rfl
  rw [applied, leads, ledgers_submitted, perform_commit]
  rfl

theorem room_committed : (committed.ledgers true).chain.length ≤ UInt64.size := by
  rw [ledgers_committed]
  decide

theorem begins_committed : sealedLedger.chain <+: (committed.ledgers true).chain :=
  ledgers_committed.symm ▸ List.prefix_rfl

theorem signed_committed : committed.signed = [cluster.crypto.digestOf sealedBlock.content] := by
  have quiet : submitted.signed = [] :=
    @Cluster.State.signed_next_of_none _ _ cluster (.start cluster)
      (.operate true (.submit draft "ev-1" .genesis)) rfl
  have signs : committed.signed =
      submitted.signed ++ [cluster.crypto.digestOf sealedBlock.content] :=
    @Cluster.State.signed_next_of_some _ _ _ _ (.operate true (.commit .genesis)) _
      sealed?_submitted
  rw [signs, quiet, List.nil_append]

/-- What the leader answers, with nobody else on the network. -/
def onlyLeader : Transport := (networkOf sealedLedger).transport

theorem answers_onlyLeader (config : SyncConfig) :
    (clusterWithPeers.synchronizer false config onlyLeader).Answers "node-1" sealedLedger := by
  have named : Network.baseAddress "node-1" = "node-1" := by decide +kernel
  have found :
      networkOf sealedLedger (Network.baseAddress "node-1") = some (judge, sealedLedger) := by
    rw [networkOf, if_pos named]
  have reaches : (clusterWithPeers.synchronizer false config onlyLeader).transport =
      (networkOf sealedLedger).transport := rfl
  exact Synchronizer.answers_network reaches found

/-- Nothing is served but what the leader has. -/
theorem eq_or_eq_of_serves {block : Block} (serves : onlyLeader.Serves block) :
    block = Cryptography.standard.genesis ∨ block = sealedBlock := by
  obtain ⟨calls, peer, start, limit, blocks, served, member⟩ := serves
  by_cases named : Network.baseAddress peer = "node-1"
  · simp only [onlyLeader, Network.transport, networkOf, if_pos named] at served
    obtain rfl := Except.ok.inj served
    unfold Ledger.blocksFrom at member
    split at member
    · cases member
    · have inChain := List.mem_of_mem_drop (List.mem_of_mem_take member)
      rcases List.mem_cons.mp inChain with first | second
      · exact .inl first
      · exact .inr (List.mem_singleton.mp second)
  · simp only [onlyLeader, Network.transport, networkOf, if_neg named] at served
    cases served

/-- Nobody has signed the first block. -/
theorem verify_genesis (digest : Octets 32) :
    ¬cluster.crypto.verify (cluster.key false) digest.bytes
      Cryptography.standard.genesis.signature = true := by
  have unreadable : (decodeBase64 .signature "GENESIS").isOk = false := by decide +kernel
  show ¬Cryptography.standard.verify "6kpsY+KcUgq+9VB7Ey7F+ZVHdq6+vnuSQh7qaRRG0iw=" digest.bytes
    "GENESIS" = true
  rw [PrivateKey.verify_standard, checkSignature, publicKey_leaderKey]
  show ¬(leaderKey.publicKey.check digest.bytes "GENESIS").isOk = true
  rw [PublicKey.check]
  cases read : decodeBase64 .signature "GENESIS" with
  | error reason =>
    intro isOk
    cases isOk
  | ok bytes =>
    rw [read] at unreadable
    cases unreadable

theorem secure_committed : committed.Secure clusterWithPeers false onlyLeader where
  collisionFree := by
    refine collisionFree_replicated.mono ?_
    rintro text (known | ⟨block, serves, rfl⟩)
    · exact .inl known
    · rcases eq_or_eq_of_serves serves with rfl | rfl
      · exact .inl (.inl (.inl rfl))
      · exact .inr ⟨sealedBlock, .inl rfl, rfl⟩
  genuine := by
    intro block serves
    rcases eq_or_eq_of_serves serves with rfl | rfl
    · intro digest _ verified
      exact absurd verified (verify_genesis digest)
    · exact genuine_sealedBlock
  signsWell := by
    intro digest signed own signature holds made
    rw [signed_committed] at signed
    obtain rfl := List.mem_singleton.mp signed
    obtain rfl := Option.some.inj holds
    have isSignature :=
      Except.ok.inj ((PrivateKey.sign_standard ofText_leaderKey _).symm.trans made)
    have accepted := checkSignature_sign publicKey_leaderKey signsWell_leaderKey
    rw [← isSignature]
    show Cryptography.standard.verify "6kpsY+KcUgq+9VB7Ey7F+ZVHdq6+vnuSQh7qaRRG0iw=" _ _ = true
    rw [PrivateKey.verify_standard]
    exact congrArg Except.isOk accepted

end Sample

/-- The follower asks in vain first, and then gets the block of the leader. -/
theorem Cluster.autoSync_reaches_of_committed :
    let state := Sample.committed
    let s := Sample.clusterWithPeers.synchronizer false .standard Sample.onlyLeader
    let remote := Sample.sealedLedger
    Sample.clusterWithPeers.WellFormed ∧ Sample.clusterWithPeers.Reachable state ∧
      state.Secure Sample.clusterWithPeers false Sample.onlyLeader ∧
      (state.ledgers true).chain.length ≤ UInt64.size ∧
      s.judge.identity.peers = ["node-9", "node-1"] ∧ s.Answers "node-1" remote ∧
      remote.chain <+: (state.ledgers true).chain ∧ remote.head.height = 1 ∧
      remote.head.height ≤ (s.autoSync (.start (state.ledgers false))).1.ledger.head.height := by
  intro state s remote
  have answers : s.Answers "node-1" remote := Sample.answers_onlyLeader .standard
  obtain ⟨_, _, reaches⟩ := autoSync_reaches Sample.clusterWithPeers
    Sample.wellFormed_clusterWithPeers state Sample.reachable_committed false (by decide) .standard
    Sample.onlyLeader Sample.secure_committed Sample.room_committed "node-1" (by decide)
    (by decide +kernel) (by decide +kernel) remote Sample.begins_committed answers
  refine ⟨Sample.wellFormed_clusterWithPeers, Sample.reachable_committed, Sample.secure_committed,
    Sample.room_committed, rfl, answers, Sample.begins_committed, rfl, ?_⟩
  subst s
  exact reaches (by decide)

/-- A follower whose batches hold no blocks stays where it is, though the leader answers. -/
theorem Cluster.autoSync_not_reaches_of_empty :
    let state := Sample.committed
    let s := Sample.clusterWithPeers.synchronizer false
      { SyncConfig.standard with batchSize := 0 } Sample.onlyLeader
    let remote := Sample.sealedLedger
    Sample.clusterWithPeers.WellFormed ∧ Sample.clusterWithPeers.Reachable state ∧
      state.Secure Sample.clusterWithPeers false Sample.onlyLeader ∧
      s.judge.identity.peers = ["node-9", "node-1"] ∧ s.Answers "node-1" remote ∧
      remote.chain <+: (state.ledgers true).chain ∧
      ¬remote.head.height ≤ (s.autoSync (.start (state.ledgers false))).1.ledger.head.height := by
  intro state s remote
  refine ⟨Sample.wellFormed_clusterWithPeers, Sample.reachable_committed, Sample.secure_committed,
    rfl, Sample.answers_onlyLeader _, Sample.begins_committed, ?_⟩
  decide +kernel

end EvidenceLedger
