import EvidenceLedger.Proofs.Sync.Convergence

/-!
# Being in step with a peer

A node is in step with a peer if the head of the peer stands in its chain. A synchronisation that
goes well is no proof of that. If the node is lower than the peer, it gets what it misses from the
peer itself, and then it is in step. If it is not lower, nothing is compared but two heights, and
the node is as much in step as it was before.

Where there is one leader the two heights are enough, because every chain is a beginning of the
chain of the leader.
-/

namespace EvidenceLedger

namespace Ledger

/-- The head of a ledger stands in the chain, as far as hashes tell. -/
def InStepWith (l remote : Ledger) : Prop :=
  ∃ block, l.chain[remote.head.height.toNat]? = some block ∧ block.hash = remote.head.hash

variable {l remote : Ledger}

theorem getElem?_chain_height (numbered : Numbered l.chain) :
    l.chain[l.head.height.toNat]? = some l.head := by
  have counts := toNat_height_head numbered
  rw [← getElem?_chain_head l, ← counts, Nat.add_sub_cancel]

/-- A chain that ends as that of a peer does is in step with it. -/
theorem inStepWith_of_append_missing (numbered : Numbered remote.chain)
    (behind : l.chain.length ≤ remote.head.height.toNat) {after : Ledger}
    (chain : after.chain = l.chain ++ l.missing remote) : after.InStepWith remote := by
  refine ⟨remote.head, ?_, rfl⟩
  rw [chain, List.getElem?_append_right behind, missing, List.getElem?_drop,
    Nat.add_sub_cancel' behind, getElem?_chain_height numbered]

/-- A chain that is too short is not in step with that of a peer. -/
theorem not_inStepWith_of_length_le (behind : l.chain.length ≤ remote.head.height.toNat) :
    ¬l.InStepWith remote := by
  rintro ⟨block, atHeight, _⟩
  rw [List.getElem?_eq_none behind] at atHeight
  exact nomatch atHeight

end Ledger

/-- Where there is one leader, every node is in step with every node that is not higher. -/
theorem Cluster.inStepWith_of_le {Node : Type} [DecidableEq Node] {cluster : Cluster Node}
    (wellFormed : cluster.WellFormed) {s : State Node} (reachable : cluster.Reachable s)
    (collisionFree : cluster.crypto.CollisionFree s.texts) {node peer : Node}
    (room : ∀ node, (s.ledgers node).chain.length ≤ UInt64.size)
    (level : (s.ledgers peer).head.height ≤ (s.ledgers node).head.height) :
    (s.ledgers node).InStepWith (s.ledgers peer) := by
  have sound := sound_of_reachable wellFormed reachable collisionFree
  have numbered (node : Node) : Numbered (s.ledgers node).chain :=
    Ledger.numbered_of_reachable (sound.reachable node) (room node)
  have below := UInt64.le_iff_toNat_le.mp level
  have counts := Ledger.toNat_height_head (numbered node)
  -- The leader has a block at the height, and it is that of both nodes.
  obtain ⟨a, atPeer, hash⟩ := exists_of_hashes_prefix (sound.agree peer)
    (Ledger.getElem?_chain_height (numbered peer))
  obtain ⟨block, atNode⟩ : ∃ block,
      (s.ledgers node).chain[(s.ledgers peer).head.height.toNat]? = some block :=
    ⟨_, List.getElem?_eq_getElem (by omega)⟩
  obtain ⟨b, atLeader, same⟩ := exists_of_hashes_prefix (sound.agree node) atNode
  obtain rfl := Option.some.inj (atPeer.symm.trans atLeader)
  exact ⟨block, atNode, same.symm.trans hash⟩

namespace Synchronizer

variable {s : Synchronizer} {peer : String} {remote : Ledger}

theorem batchSize_eq_zero (none : ¬0 < s.config.batchSize) : s.config.batchSize = 0 := by
  have least := UInt64.le_iff_toNat_le.mp (UInt64.not_lt.mp none)
  exact UInt64.toNat_inj.mp (Nat.le_zero.mp least)

/-- Batches of no blocks end a session in peace. -/
theorem fetch_of_empty (whole : s.cutoffMs = none) (answers : s.Answers peer remote)
    (empty : s.config.batchSize = 0) {rounds : Nat} {progress : Progress} (session : Session)
    (behind : progress.current < remote.head.height)
    (enough : remote.head.height.toNat - progress.current.toNat ≤ rounds) :
    ∃ asked, asked.ledger = session.ledger ∧
      s.fetch peer remote.head.height rounds progress session = complete progress asked := by
  have below := UInt64.lt_iff_toNat_lt.mp behind
  obtain ⟨rounds, rfl⟩ : ∃ before, rounds = before + 1 :=
    Nat.exists_eq_succ_of_ne_zero (by omega)
  have replied : s.reply session.calls
      (.blocks peer (progress.current + 1) s.config.batchSize) = .ok [] := by
    rw [reply, answers.blocks, Ledger.blocksFrom, if_pos (.inl empty)]
  obtain ⟨elapsedMs, asked⟩ := @askBlocks_of_whole s peer whole progress.current session
  rw [replied] at asked
  simp only [fetch, if_pos behind, asked]
  let answered : Session :=
    { session with
      calls := session.calls ++ [.blocks peer (progress.current + 1) s.config.batchSize]
      elapsedMs }
  exact ⟨answered, rfl, rfl⟩

section Chosen

variable {hint : Option String} (whole : s.cutoffMs = none)
  (chosen : choosePeer s.judge.identity hint = some peer) (answers : s.Answers peer remote)
include whole chosen answers

/-- A node that fetches what it misses is in step afterwards, if all goes well. -/
theorem inStepWith_of_fetches (positive : 0 < s.config.batchSize) (numbered : Numbered remote.chain)
    (session : Session)
    (counts : session.ledger.head.height.toNat + 1 = session.ledger.chain.length)
    (behind : session.ledger.head.height < remote.head.height) :
    ∃ report, (s.synchronize hint session).2 = some report ∧
      (report.synced = true → (s.synchronize hint session).1.ledger.InStepWith remote) := by
  have fetches := synchronize_fetches whole chosen answers positive
    (Ledger.toNat_height_head numbered) session counts behind
  by_cases taken : session.ledger.takeAccepted s.judge (session.ledger.missing remote) =
      session.ledger.missing remote
  · have short : session.ledger.chain.length ≤ remote.head.height.toNat :=
      counts ▸ UInt64.lt_iff_toNat_lt.mp behind
    have chain : (s.synchronize hint session).1.ledger.chain =
        session.ledger.chain ++ session.ledger.missing remote := by
      rw [fetches.ledger, Ledger.chain_acceptAll_takeAccepted, taken]
    exact ⟨_, fetches.ends taken,
      fun _ => Ledger.inStepWith_of_append_missing numbered short chain⟩
  · obtain ⟨report, ends, failed⟩ := fetches.fails taken
    exact ⟨report, ends, fun synced => nomatch failed.symm.trans synced⟩

/-- A node that fetches batches of no blocks stays where it is, and the session goes well. -/
theorem synchronize_of_empty (empty : s.config.batchSize = 0) (session : Session)
    (behind : session.ledger.head.height < remote.head.height) :
    ∃ after, s.synchronize hint session =
        (after, some (.completed 0 session.ledger.head.height session.ledger.head.height)) ∧
      after.ledger = session.ledger := by
  obtain ⟨asked, ledger, _, fetched⟩ := synchronize_of_behind whole chosen answers session behind
  have begins : (Progress.begin session.ledger.head.height).current < remote.head.height := behind
  obtain ⟨answered, same, completed⟩ :=
    fetch_of_empty whole answers empty asked begins (Nat.le_refl _)
  exact ⟨_, fetched.trans completed, same.trans ledger⟩

end Chosen

/-- What it says about a node that a session with a peer went well, where the peer answers from its
chain. A node that was lower than the peer is in step with it afterwards, provided that batches may
hold blocks. A node that was not lower is told that it is up to date and stays as it was, so it is
in step exactly if it was before. -/
theorem synchronize_inStepWith {hint : Option String} (whole : s.cutoffMs = none)
    (chosen : choosePeer s.judge.identity hint = some peer) (answers : s.Answers peer remote)
    (numbered : Numbered remote.chain) (session : Session)
    (reachable : Ledger.Reachable s.judge session.ledger)
    (room : session.ledger.chain.length ≤ UInt64.size) :
    ∃ report, (s.synchronize hint session).2 = some report ∧
      (session.ledger.head.height < remote.head.height → report.synced = true →
        ((s.synchronize hint session).1.ledger.InStepWith remote ↔ 0 < s.config.batchSize)) ∧
      (remote.head.height ≤ session.ledger.head.height →
        report = .upToDate session.ledger.head.height ∧
          (s.synchronize hint session).1.ledger = session.ledger) := by
  have counts := Ledger.toNat_height_head (Ledger.numbered_of_reachable reachable room)
  by_cases level : remote.head.height ≤ session.ledger.head.height
  · obtain ⟨_, result, ledger, _⟩ := synchronize_of_upToDate whole chosen answers session level
    rw [result]
    exact ⟨_, rfl, fun lower => absurd level (UInt64.not_le.mpr lower), fun _ => ⟨rfl, ledger⟩⟩
  · have lower := UInt64.not_le.mp level
    by_cases positive : 0 < s.config.batchSize
    · obtain ⟨report, ends, inStep⟩ :=
        inStepWith_of_fetches whole chosen answers positive numbered session counts lower
      exact ⟨report, ends, fun _ synced => iff_of_true (inStep synced) positive,
        fun high => absurd high level⟩
    · have empty := batchSize_eq_zero positive
      obtain ⟨_, result, ledger⟩ := synchronize_of_empty whole chosen answers empty session lower
      rw [result, ledger]
      refine ⟨_, rfl, fun _ _ => iff_of_false ?_ positive, fun high => absurd high level⟩
      exact Ledger.not_inStepWith_of_length_le (counts ▸ UInt64.lt_iff_toNat_lt.mp lower)

end Synchronizer

/-! The leader has sealed a block, and the follower has it. Then the leader starts afresh, is given
other evidence, and seals a block again. -/

namespace Sample

/-- What waits at the leader when it seals a block again. -/
def waitingAgain : Ledger :=
  { Ledger.fresh .standard with mempool := [{ record with evidenceId := "ev-2" }] }

/-- The block that it seals then. -/
def rivalBlock : Block := leaderKey.sealed (waitingAgain.nextContent leader.nodeId .genesis)

/-- The ledger of the leader after that. -/
def rivalLedger : Ledger := waitingAgain.append rivalBlock []

theorem reachable_rivalLedger : Ledger.Reachable judge rivalLedger := by
  have isRecord : draft.toRecord "ev-2" .genesis = .ok { record with evidenceId := "ev-2" } := by
    decide +kernel
  have submitted : (Ledger.fresh .standard).perform judge (.submit draft "ev-2" .genesis) =
      waitingAgain := congrArg Outcome.ledger (Ledger.submit_of_ok isRecord)
  have committed : waitingAgain.perform judge (.commit .genesis) = rivalLedger :=
    congrArg Outcome.ledger
      (Ledger.commit_standard rfl rfl ofText_leaderKey (List.cons_ne_nil _ _))
  rw [← committed, ← submitted]
  exact (Ledger.Reachable.start.perform _).perform _

theorem reachable_sealedLedger : Ledger.Reachable ⟨.standard, follower⟩ sealedLedger := by
  have follows := @follows_sealedBlock follower (by decide)
  rw [← Ledger.head_fresh] at follows
  have accepted : (Ledger.fresh .standard).perform ⟨.standard, follower⟩ (.accept sealedBlock) =
      sealedLedger := by
    rw [Ledger.perform_accept, Ledger.accept_of_ok follows]
    rfl
  rw [← accepted]
  exact Ledger.Reachable.start.perform _

theorem not_inStepWith_rivalLedger : ¬sealedLedger.InStepWith rivalLedger := by
  have distinct : sealedBlock.hash ≠ rivalBlock.hash := by decide +kernel
  rintro ⟨block, atHeight, hash⟩
  obtain rfl : sealedBlock = block := Option.some.inj atHeight
  exact distinct hash

end Sample

/-- The follower is told that it is up to date with a leader whose block it does not have. And if
its batches may hold no blocks, it is told that all went well with a leader that is ahead. -/
theorem Synchronizer.synced_not_inStepWith :
    (let s := Sample.clientOf Sample.rivalLedger
      let result := s.synchronize (some "node-1") (.start Sample.sealedLedger)
      Ledger.Reachable s.judge Sample.sealedLedger ∧ s.Answers "node-1" Sample.rivalLedger ∧
        Sample.rivalLedger.chain[0]? = some s.judge.crypto.genesis ∧
        Numbered Sample.rivalLedger.chain ∧
        ∃ report, result.2 = some report ∧ report.synced = true ∧
          ¬result.1.ledger.InStepWith Sample.rivalLedger) ∧
      let s := { Sample.clientOf Sample.sealedLedger with
        config := { SyncConfig.standard with batchSize := 0 } }
      let result := s.synchronize (some "node-1") (.start (.fresh .standard))
      Ledger.Reachable s.judge (.fresh .standard) ∧ s.Answers "node-1" Sample.sealedLedger ∧
        Sample.sealedLedger.chain[0]? = some s.judge.crypto.genesis ∧
        Numbered Sample.sealedLedger.chain ∧
        ∃ report, result.2 = some report ∧ report.synced = true ∧
          ¬result.1.ledger.InStepWith Sample.sealedLedger := by
  have numbered {judge : Judge} {l : Ledger} (reachable : Ledger.Reachable judge l)
      (two : l.chain.length = 2) : Numbered l.chain :=
    Ledger.numbered_of_reachable reachable (by rw [two]; decide)
  constructor
  · intro s result
    have answers : s.Answers "node-1" Sample.rivalLedger := Sample.answers_clientOf _
    obtain ⟨_, isResult, ledger, _⟩ := synchronize_of_upToDate rfl Sample.choosePeer_follower
      answers (.start Sample.sealedLedger) (by decide)
    refine ⟨Sample.reachable_sealedLedger, answers, rfl,
      numbered Sample.reachable_rivalLedger rfl, _, congrArg Prod.snd isResult, rfl, ?_⟩
    simp only [result, isResult, ledger]
    exact Sample.not_inStepWith_rivalLedger
  · intro s result
    have answers : s.Answers "node-1" Sample.sealedLedger := by
      obtain ⟨head, blocks⟩ := Sample.answers_clientOf Sample.sealedLedger
      exact ⟨head, blocks⟩
    obtain ⟨_, isResult, ledger⟩ := synchronize_of_empty rfl Sample.choosePeer_follower
      answers rfl (.start (.fresh .standard)) (by decide)
    refine ⟨.start, answers, rfl,
      numbered Sample.reachable_sealedLedger rfl, _, congrArg Prod.snd isResult, rfl, ?_⟩
    simp only [result, isResult, ledger]
    exact Ledger.not_inStepWith_of_length_le (by decide)

/-- The follower that gets the block of the leader is in step with it. -/
theorem Synchronizer.inStepWith_sealedLedger :
    let remote := Sample.sealedLedger
    let s := Sample.clientOf remote
    let session : Session := .start (.fresh .standard)
    s.cutoffMs = none ∧ choosePeer s.judge.identity (some "node-1") = some "node-1" ∧
      s.Answers "node-1" remote ∧ Numbered remote.chain ∧
      Ledger.Reachable s.judge session.ledger ∧ session.ledger.chain.length ≤ UInt64.size ∧
      ∃ report, (s.synchronize (some "node-1") session).2 = some report ∧
        (report.synced = true →
          (s.synchronize (some "node-1") session).1.ledger.InStepWith remote) := by
  intro remote s session
  have answers : s.Answers "node-1" remote := Sample.answers_clientOf remote
  have numbered : Numbered remote.chain :=
    Ledger.numbered_of_reachable Sample.reachable_sealedLedger (by decide)
  have reachable : Ledger.Reachable s.judge session.ledger := .start
  have room : session.ledger.chain.length ≤ UInt64.size := by decide
  have lower : session.ledger.head.height < remote.head.height := by decide
  have positive : 0 < s.config.batchSize := by decide
  obtain ⟨report, ends, inStep, _⟩ := synchronize_inStepWith rfl Sample.choosePeer_follower answers
    numbered session reachable room
  exact ⟨rfl, Sample.choosePeer_follower, answers, numbered, reachable, room, report, ends,
    fun synced => (inStep lower synced).mpr positive⟩

end EvidenceLedger
