import EvidenceLedger.Proofs.Ledger.Agreement
import EvidenceLedger.Proofs.Ledger.Pages
import EvidenceLedger.Proofs.Ledger.Validity
import EvidenceLedger.Proofs.Sync.Replay
import EvidenceLedger.Sync.Network

/-!
# Catching up converges

A peer that answers from its ledger is caught up with, whatever the size of the batches is. Each
batch begins where the last one ended, because the blocks of a batch are accepted one after the
other and the next request starts after the last of them; so the requests follow each other in
steps of the batch size, and the last batch may be short.

What a peer serves need not be accepted. `fetch_of_answers` tells the two ends apart: either all
that is missing is accepted and the chain of the peer is the end of the node's chain, or some block
is refused and the report says so.
-/

namespace EvidenceLedger

/-- The heights that a call asks for. -/
def Call.heights : Call → List Nat
  | .head _ => []
  | .blocks _ start limit => List.range' start.toNat limit.toNat

/-- The calls for batches of a size that it takes to get so many blocks from a height on. -/
def batchCalls (peer : String) (size : UInt64) (start missing : Nat) : List Call :=
  (List.range ((missing + size.toNat - 1) / size.toNat)).map fun k =>
    .blocks peer (.ofNat (start + k * size.toNat)) size

section BatchCalls

variable {peer : String} {size : UInt64} {start missing : Nat}

@[simp] theorem batchCalls_zero (peer : String) (size : UInt64) (start : Nat) :
    batchCalls peer size start 0 = [] := by
  have none : (0 + size.toNat - 1) / size.toNat = 0 := by
    obtain zero | positive := Nat.eq_zero_or_pos size.toNat
    · rw [zero]
    · exact Nat.div_eq_of_lt (by omega)
  rw [batchCalls, none]
  rfl

/-- The first call is for the first batch, and the others are for what is missing after it. -/
theorem batchCalls_of_pos (positive : 0 < size.toNat) (behind : 0 < missing) :
    batchCalls peer size start missing =
      .blocks peer (.ofNat start) size ::
        batchCalls peer size (start + min size.toNat missing)
          (missing - min size.toNat missing) := by
  obtain long | short := Nat.le_total size.toNat missing
  · have count : (missing + size.toNat - 1) / size.toNat =
        (missing - size.toNat + size.toNat - 1) / size.toNat + 1 := by
      rw [Nat.sub_add_cancel long, ← Nat.add_div_right _ positive]
      congr 1
      omega
    rw [Nat.min_eq_left long, batchCalls, count, List.range_succ_eq_map, List.map_cons,
      List.map_map]
    simp only [batchCalls, Nat.zero_mul, Nat.add_zero, Function.comp_def, Nat.succ_mul]
    congr 2
    funext k
    rw [Nat.add_right_comm, Nat.add_assoc]
  · have one : (missing + size.toNat - 1) / size.toNat = 1 :=
      Nat.div_eq_of_lt_le (by omega) (by omega)
    rw [Nat.min_eq_right short, Nat.sub_self, batchCalls_zero, batchCalls, one]
    simp

/-- The calls ask for every height from the start on once, up to the end of the last batch. -/
theorem flatMap_heights_batchCalls (positive : 0 < size.toNat)
    (room : start + missing ≤ UInt64.size) :
    (batchCalls peer size start missing).flatMap Call.heights =
      List.range' start (rowCount missing size.toNat * size.toNat) := by
  have counted : ∀ k < rowCount missing size.toNat, start + k * size.toNat < UInt64.size := by
    intro k inside
    have short := mul_lt_of_lt_rowCount positive inside
    omega
  rw [batchCalls, ← rowCount]
  generalize rowCount missing size.toNat = count at counted ⊢
  induction count with
  | zero => simp
  | succ count ih =>
    have last : Call.heights (.blocks peer (.ofNat (start + count * size.toNat)) size) =
        List.range' (start + count * size.toNat) size.toNat := by
      rw [Call.heights, UInt64.toNat_ofNat_of_lt' (counted count (Nat.lt_succ_self count))]
    rw [List.range_succ, List.map_append, List.flatMap_append,
      ih fun k inside => counted k (Nat.lt_succ_of_lt inside), List.map_singleton,
      List.flatMap_singleton, last, Nat.succ_mul, ← List.range'_append, Nat.one_mul]

/-- No height is asked for twice or left out, and the last batch begins with a height that is
missing. -/
theorem exists_flatMap_heights_batchCalls (positive : 0 < size.toNat)
    (room : start + missing ≤ UInt64.size) :
    ∃ covered, missing ≤ covered ∧ covered < missing + size.toNat ∧
      (batchCalls peer size start missing).flatMap Call.heights = List.range' start covered :=
  ⟨_, le_rowCount_mul positive, rowCount_mul_lt_add positive,
    flatMap_heights_batchCalls positive room⟩

end BatchCalls

namespace Ledger

variable {judge : Judge} {l : Ledger} {blocks rest : List Block}

/-- If not all of some blocks are accepted, what comes after them does not matter. -/
theorem takeAccepted_append_of_ne (cut : l.takeAccepted judge blocks ≠ blocks) :
    l.takeAccepted judge (blocks ++ rest) = l.takeAccepted judge blocks := by
  induction blocks generalizing l with
  | nil => exact absurd rfl cut
  | cons block blocks ih =>
    cases judged : judge.follows l.head block with
    | error reason =>
      rw [List.cons_append, takeAccepted_cons_of_error judged, takeAccepted_cons_of_error judged]
    | ok _ =>
      rw [takeAccepted_cons_of_ok judged] at cut
      rw [List.cons_append, takeAccepted_cons_of_ok judged, takeAccepted_cons_of_ok judged,
        ih fun whole => cut (congrArg (block :: ·) whole)]

/-- What stands after a chain in a valid chain is accepted. -/
theorem takeAccepted_of_isValid (valid : judge.isValid (l.chain ++ blocks) = true) :
    l.takeAccepted judge blocks = blocks := by
  induction blocks generalizing l with
  | nil => rfl
  | cons block blocks ih =>
    have split : l.chain ++ block :: blocks = l.chain ++ [block] ++ blocks := by simp
    have judged : judge.follows l.head block = .ok () := by
      have validHere := Judge.isValid_of_append (split ▸ valid) (by simp)
      exact Judge.follows_of_isValid (getLast?_chain l) validHere
    have chain : (l.accept judge block).ledger.chain = l.chain ++ [block] := by
      simp [accept_of_ok judged]
    rw [takeAccepted_cons_of_ok judged, ih]
    rw [chain, ← split]
    exact valid

/-- Where the head says how long the chain is, it still does so after blocks are accepted, as long
as heights can be counted. -/
theorem toNat_height_acceptAll_of_room (counts : l.head.height.toNat + 1 = l.chain.length)
    (whole : l.takeAccepted judge blocks = blocks)
    (room : l.chain.length + blocks.length ≤ UInt64.size) :
    (l.acceptAll judge blocks).chain = l.chain ++ blocks ∧
      (l.acceptAll judge blocks).head.height.toNat + 1 = l.chain.length + blocks.length := by
  have chain := chain_acceptAll_takeAccepted judge l blocks
  have height := toNat_height_acceptAll judge l blocks
  rw [whole] at chain height
  exact ⟨chain, by omega⟩

/-- The blocks of another ledger from the end of the chain on. -/
def missing (l remote : Ledger) : List Block :=
  remote.chain.drop l.chain.length

theorem missing_acceptAll (remote : Ledger) (whole : l.takeAccepted judge blocks = blocks) :
    (l.acceptAll judge blocks).missing remote = (l.missing remote).drop blocks.length := by
  have chain := chain_acceptAll_takeAccepted judge l blocks
  rw [whole] at chain
  rw [missing, missing, chain, List.length_append, List.drop_drop]

/-- Nothing is missing from a ledger whose head is as high. -/
theorem missing_eq_nil_iff {remote : Ledger} (counts : l.head.height.toNat + 1 = l.chain.length)
    (remoteCounts : remote.head.height.toNat + 1 = remote.chain.length) :
    l.missing remote = [] ↔ remote.head.height ≤ l.head.height := by
  rw [missing, List.drop_eq_nil_iff, UInt64.le_iff_toNat_le]
  omega

/-- A batch from a height on that the ledger has is cut from the rest of its chain. -/
theorem blocksFrom_of_le {start limit : UInt64} (positive : 0 < limit.toNat)
    (inside : start ≤ l.head.height) :
    l.blocksFrom start limit = (l.chain.drop start.toNat).take limit.toNat := by
  refine if_neg ?_
  rintro (rfl | beyond)
  · exact absurd positive (by decide)
  · exact absurd inside (UInt64.not_le.mpr beyond)

/-- A batch from the height after one that is lower than the head holds blocks. -/
theorem exists_blocksFrom {current limit : UInt64}
    (counts : l.head.height.toNat + 1 = l.chain.length) (positive : 0 < limit.toNat)
    (lower : current < l.head.height) :
    ∃ block rest, l.blocksFrom (current + 1) limit = block :: rest ∧
      (l.chain.drop (current.toNat + 1)).take limit.toNat = block :: rest := by
  have below := UInt64.lt_iff_toNat_lt.mp lower
  have bound : l.head.height.toNat < UInt64.size := l.head.height.toNat_lt
  have next : (current + 1).toNat = current.toNat + 1 := toNat_add_one (by omega)
  have inside : current + 1 ≤ l.head.height := by
    rw [UInt64.le_iff_toNat_le, next]
    exact below
  obtain ⟨block, rest, isBatch⟩ :
      ∃ block rest, (l.chain.drop (current.toNat + 1)).take limit.toNat = block :: rest := by
    refine List.exists_cons_of_ne_nil (mt List.take_eq_nil_iff.mp ?_)
    rintro (zero | none)
    · omega
    · rw [List.drop_eq_nil_iff] at none
      omega
  refine ⟨block, rest, ?_, isBatch⟩
  rw [blocksFrom_of_le positive inside, next, isBatch]

end Ledger

namespace Synchronizer

variable {s : Synchronizer} {peer : String} {remote : Ledger}

/-- The peer answers every request from a ledger, and in time. -/
structure Answers (s : Synchronizer) (peer : String) (remote : Ledger) : Prop where
  head : ∀ before, s.received peer (s.transport.head before peer) = .ok remote.head.header
  blocks : ∀ before start limit,
    s.received peer (s.transport.blocks before peer start limit) =
      .ok (remote.blocksFrom start limit)

/-- Every node that can be reached on a network answers from its ledger. -/
theorem answers_network {network : Network} {judge : Judge}
    (reaches : s.transport = network.transport)
    (found : network (Network.baseAddress peer) = some (judge, remote)) :
    s.Answers peer remote where
  head before := by simp [received, reaches, Network.transport, found]
  blocks before start limit := by
    simp [received, reaches, Network.transport, found]

/-- Fetching what a peer has, from the ledger `l` on and after the calls in `before`, comes to
`result`, where `progress` is what was applied before. The blocks that the chain misses are accepted
up to the first that is refused. If none is, the session ends well and has asked for one batch after
the other. -/
structure Fetches (s : Synchronizer) (peer : String) (remote l : Ledger) (before : List Call)
    (progress : Progress) (result : Session × Option SyncOutcome) : Prop where
  ledger : result.1.ledger = l.acceptAll s.judge (l.takeAccepted s.judge (l.missing remote))
  ends : l.takeAccepted s.judge (l.missing remote) = l.missing remote →
    result.2 = some (.completed (progress.applied + .ofNat (l.missing remote).length) progress.start
      result.1.ledger.head.height)
  calls : l.takeAccepted s.judge (l.missing remote) = l.missing remote →
    result.1.calls = before ++
      batchCalls peer s.config.batchSize l.chain.length (l.missing remote).length
  fails : l.takeAccepted s.judge (l.missing remote) ≠ l.missing remote →
    ∃ report, result.2 = some report ∧ report.synced = false

namespace Fetches

variable {l : Ledger} {before : List Call} {progress later : Progress} {session : Session}
  {result : Session × Option SyncOutcome} {batch rest : List Block}

/-- There is nothing left to fetch. -/
theorem done (nothing : session.ledger.missing remote = [])
    (current : progress.current = session.ledger.head.height) :
    s.Fetches peer remote session.ledger session.calls progress (complete progress session) := by
  refine ⟨?_, fun _ => ?_, fun _ => ?_, fun cut => ?_⟩
  · rw [nothing]
    rfl
  · rw [nothing, ledger_complete, ← current]
    simp [complete]
  · rw [nothing, List.length_nil, batchCalls_zero, List.append_nil]
    rfl
  · rw [nothing] at cut
    exact absurd rfl cut

/-- It goes on after a batch that is accepted as a whole. -/
theorem step (positive : 0 < s.config.batchSize.toNat) (behind : l.missing remote ≠ [])
    (isBatch : batch = (l.missing remote).take s.config.batchSize.toNat)
    (accepted : l.takeAccepted s.judge batch = batch)
    (goesOn : s.Fetches peer remote (l.acceptAll s.judge batch)
      (before ++ [.blocks peer (.ofNat l.chain.length) s.config.batchSize]) later result)
    (start : later.start = progress.start)
    (counted : later.applied = progress.applied + .ofNat batch.length) :
    s.Fetches peer remote l before progress result := by
  have length : batch.length = min s.config.batchSize.toNat (l.missing remote).length := by
    rw [isBatch, List.length_take]
  have remains := Ledger.missing_acceptAll remote accepted
  have split : l.missing remote = batch ++ (l.acceptAll s.judge batch).missing remote := by
    rw [remains]
    exact (List.prefix_iff_eq_append.mp (isBatch ▸ List.take_prefix _ _)).symm
  have chain := Ledger.chain_acceptAll_takeAccepted s.judge l batch
  have taken : l.takeAccepted s.judge (l.missing remote) = batch ++
      (l.acceptAll s.judge batch).takeAccepted s.judge
        ((l.acceptAll s.judge batch).missing remote) :=
    (congrArg (l.takeAccepted s.judge) split).trans (Ledger.takeAccepted_append accepted)
  have all : l.takeAccepted s.judge (l.missing remote) = l.missing remote ↔
      (l.acceptAll s.judge batch).takeAccepted s.judge
        ((l.acceptAll s.judge batch).missing remote) =
          (l.acceptAll s.judge batch).missing remote := by
    constructor
    · intro whole
      exact List.append_cancel_left (taken.symm.trans (whole.trans split))
    · intro whole
      exact taken.trans ((congrArg (batch ++ ·) whole).trans split.symm)
  refine ⟨?_, fun whole => ?_, fun whole => ?_, fun cut => ?_⟩
  · rw [goesOn.ledger, taken, Ledger.acceptAll_append]
  · rw [goesOn.ends (all.mp whole), start, counted, UInt64.add_assoc, ← UInt64.ofNat_add,
      ← List.length_append, ← split]
  · rw [accepted] at chain
    rw [goesOn.calls (all.mp whole), List.append_assoc, List.singleton_append,
      batchCalls_of_pos positive (List.length_pos_iff.mpr behind), chain, List.length_append,
      remains, List.length_drop, length]
  · exact goesOn.fails (mt all.mpr cut)

/-- It ends with a block in a batch that is refused. -/
theorem fail {reason : SyncError} (split : l.missing remote = batch ++ rest)
    (refused : l.takeAccepted s.judge batch ≠ batch)
    (ledger : session.ledger = l.acceptAll s.judge (l.takeAccepted s.judge batch)) :
    s.Fetches peer remote l before progress (Synchronizer.fail peer later reason session) := by
  have same : l.takeAccepted s.judge (l.missing remote) = l.takeAccepted s.judge batch := by
    rw [split, Ledger.takeAccepted_append_of_ne refused]
  have cut : l.takeAccepted s.judge (l.missing remote) ≠ l.missing remote := by
    obtain ⟨block, others, _, shape, _⟩ := Ledger.takeAccepted_ne_iff.mp refused
    intro whole
    have longer := congrArg List.length (same.symm.trans (whole.trans split))
    have shorter := congrArg List.length shape
    rw [List.length_append] at longer shorter
    rw [List.length_cons] at shorter
    omega
  refine ⟨?_, fun whole => absurd whole cut, fun whole => absurd whole cut, fun _ => ⟨_, rfl, rfl⟩⟩
  rw [ledger_fail, ledger, same]

end Fetches

/-- A peer that is higher and answers has a batch of what is missing. -/
theorem exists_reply (answers : s.Answers peer remote) (positive : 0 < s.config.batchSize.toNat)
    (remoteCounts : remote.head.height.toNat + 1 = remote.chain.length) (session : Session)
    (counts : session.ledger.head.height.toNat + 1 = session.ledger.chain.length)
    (behind : session.ledger.head.height < remote.head.height) :
    ∃ block others,
      (session.ledger.missing remote).take s.config.batchSize.toNat = block :: others ∧
      s.reply session.calls
        (.blocks peer (session.ledger.head.height + 1) s.config.batchSize) =
          .ok (block :: others) := by
  obtain ⟨block, others, served, isBatch⟩ := Ledger.exists_blocksFrom remoteCounts positive behind
  rw [counts] at isBatch
  refine ⟨block, others, isBatch, ?_⟩
  rw [reply, answers.blocks, served]

/-- Fetching from a peer that answers. -/
theorem fetch_of_answers (whole : s.cutoffMs = none) (answers : s.Answers peer remote)
    (positive : 0 < s.config.batchSize.toNat)
    (remoteCounts : remote.head.height.toNat + 1 = remote.chain.length) (rounds : Nat)
    (progress : Progress) (session : Session)
    (counts : session.ledger.head.height.toNat + 1 = session.ledger.chain.length)
    (current : progress.current = session.ledger.head.height)
    (enough : remote.head.height.toNat - progress.current.toNat ≤ rounds) :
    s.Fetches peer remote session.ledger session.calls progress
      (s.fetch peer remote.head.height rounds progress session) := by
  -- The progress and the ledger agree on where the chain ends, and the head says how long it is.
  induction rounds generalizing progress session with
  | zero =>
    have level : remote.head.height ≤ progress.current := by
      rw [UInt64.le_iff_toNat_le]
      omega
    rw [fetch, if_neg (UInt64.not_lt.mpr level)]
    exact .done ((Ledger.missing_eq_nil_iff counts remoteCounts).mpr (current ▸ level)) current
  | succ rounds ih =>
    by_cases behind : progress.current < remote.head.height
    · obtain ⟨block, others, isBatch, replied⟩ :=
        exists_reply answers positive remoteCounts session counts (current ▸ behind)
      have nonempty : session.ledger.missing remote ≠ [] := fun none => by
        rw [none, List.take_nil] at isBatch
        exact List.cons_ne_nil _ _ isBatch.symm
      rw [← current] at replied
      obtain ⟨elapsedMs, asked⟩ := @askBlocks_of_whole s peer whole progress.current session
      obtain ⟨ledger, counted, refusal⟩ :=
        applyBatch_spec s.judge session.ledger progress (block :: others) current
      rw [replied] at asked
      simp only [fetch, if_pos behind, asked]
      split
      · next reason refused =>
        have cut := mt refusal.mpr (by simp [refused])
        have split := (List.take_append_drop s.config.batchSize.toNat
          (session.ledger.missing remote)).symm
        rw [isBatch] at split
        exact .fail split cut ledger
      · next accepted =>
        have taken := refusal.mp accepted
        have closer := applyBatch_closer current (List.cons_ne_nil block others) accepted behind
        have start : progress.current + 1 = .ofNat session.ledger.chain.length := by
          rw [current, ← counts, UInt64.ofNat_add, UInt64.ofNat_toNat]
          rfl
        have room : session.ledger.chain.length + (block :: others).length ≤ UInt64.size := by
          have bound : remote.head.height.toNat < UInt64.size := remote.head.height.toNat_lt
          have below := UInt64.lt_iff_toNat_lt.mp (current ▸ behind)
          rw [← isBatch, List.length_take, Ledger.missing, List.length_drop]
          omega
        obtain ⟨chain, height⟩ := Ledger.toNat_height_acceptAll_of_room counts taken room
        let batch := applyBatch s.judge session.ledger progress (block :: others)
        let next : Session :=
          ⟨batch.ledger,
            session.calls ++ [.blocks peer (progress.current + 1) s.config.batchSize],
            session.effects ++ batch.effects, elapsedMs⟩
        rw [taken] at ledger counted
        have countsNext : next.ledger.head.height.toNat + 1 = next.ledger.chain.length := by
          show batch.ledger.head.height.toNat + 1 = batch.ledger.chain.length
          rw [ledger, height, chain, List.length_append]
        have goesOn := ih batch.progress next countsNext (congrArg Progress.current counted)
          (Nat.le_of_lt_succ (Nat.lt_of_lt_of_le closer enough))
        have here : s.Fetches peer remote (session.ledger.acceptAll s.judge (block :: others))
            (session.calls ++
              [.blocks peer (.ofNat session.ledger.chain.length) s.config.batchSize])
            batch.progress (s.fetch peer remote.head.height rounds batch.progress next) := by
          rw [← start, ← ledger]
          exact goesOn
        exact .step positive nonempty isBatch.symm taken here (by rw [counted]) (by rw [counted])
    · have level := UInt64.not_lt.mp behind
      rw [fetch, if_neg behind]
      exact .done ((Ledger.missing_eq_nil_iff counts remoteCounts).mpr (current ▸ level)) current

/-- To synchronise is to catch up with the peer that is chosen. -/
theorem synchronize_of_chosen {hint : Option String}
    (chosen : choosePeer s.judge.identity hint = some peer) (session : Session) :
    ∃ told, told.ledger = session.ledger ∧ told.calls = session.calls ∧
      s.synchronize hint session = s.catchUp peer told := by
  simp only [synchronize, chosen]
  split
  · exact ⟨session.tell (.unlistedPeer peer), rfl, rfl, rfl⟩
  · exact ⟨session, rfl, rfl, rfl⟩

section Chosen

variable {hint : Option String} (whole : s.cutoffMs = none)
  (chosen : choosePeer s.judge.identity hint = some peer) (answers : s.Answers peer remote)
include whole chosen answers

/-- A node that is not lower than the peer asks for nothing but the head. -/
theorem synchronize_of_upToDate (session : Session)
    (level : remote.head.height ≤ session.ledger.head.height) :
    ∃ after, s.synchronize hint session = (after, some (.upToDate session.ledger.head.height)) ∧
      after.ledger = session.ledger ∧ after.calls = session.calls ++ [.head peer] := by
  obtain ⟨told, ledger, calls, caught⟩ := synchronize_of_chosen chosen session
  obtain ⟨elapsedMs, asked⟩ := @askHead_of_whole s peer whole told
  rw [answers.head] at asked
  simp only [caught, catchUp, asked, ledger, calls]
  rw [if_pos (show remote.head.header.height ≤ _ from level)]
  exact ⟨_, rfl, rfl, rfl⟩

/-- A node that is lower than the peer asks for the head and then for batches. -/
theorem synchronize_of_behind (session : Session)
    (behind : session.ledger.head.height < remote.head.height) :
    ∃ asked, asked.ledger = session.ledger ∧ asked.calls = session.calls ++ [.head peer] ∧
      s.synchronize hint session =
        s.fetch peer remote.head.height
          (remote.head.height.toNat - session.ledger.head.height.toNat)
          (.begin session.ledger.head.height) asked := by
  obtain ⟨told, ledger, calls, caught⟩ := synchronize_of_chosen chosen session
  obtain ⟨elapsedMs, asked⟩ := @askHead_of_whole s peer whole told
  rw [answers.head] at asked
  simp only [caught, catchUp, asked, ledger, calls]
  rw [if_neg (show ¬remote.head.header.height ≤ _ from UInt64.not_le.mpr behind)]
  let answered : Session :=
    { told with ledger := session.ledger, calls := session.calls ++ [.head peer], elapsedMs }
  exact ⟨answered.tell (.syncStarted peer session.ledger.head.height remote.head.height), rfl, rfl,
    rfl⟩

/-- A node that is lower than the peer fetches what it misses. -/
theorem synchronize_fetches (positive : 0 < s.config.batchSize)
    (remoteCounts : remote.head.height.toNat + 1 = remote.chain.length) (session : Session)
    (counts : session.ledger.head.height.toNat + 1 = session.ledger.chain.length)
    (behind : session.ledger.head.height < remote.head.height) :
    s.Fetches peer remote session.ledger (session.calls ++ [.head peer])
      (.begin session.ledger.head.height) (s.synchronize hint session) := by
  obtain ⟨asked, ledger, calls, fetched⟩ :=
    synchronize_of_behind whole chosen answers session behind
  rw [fetched, ← ledger, ← calls]
  rw [← ledger] at counts
  exact fetch_of_answers whole answers (UInt64.lt_iff_toNat_lt.mp positive) remoteCounts _
    (.begin asked.ledger.head.height) asked counts rfl (Nat.le_refl _)

end Chosen

/-- Synchronising converges, for every size of the batches. If the chain of a node is the beginning
of a valid chain and a peer answers from that chain, then a session that is not abandoned ends well,
and the node has the chain of the peer. The report counts the blocks that were missing and names
the heights of the two heads. The batches begin at the height after the head and follow each other
in steps of their size, so that no height is asked for twice or left out, and the last batch does
not begin beyond the end.

What waits at the two nodes plays no part. The chain of the peer begins as all chains do, and there
are no more blocks than words of 64 bits to count them with. -/
theorem synchronize_converges {hint : Option String} (whole : s.cutoffMs = none)
    (chosen : choosePeer s.judge.identity hint = some peer) (answers : s.Answers peer remote)
    (positive : 0 < s.config.batchSize)
    (genesis : remote.chain[0]? = some s.judge.crypto.genesis)
    (valid : s.judge.isValid remote.chain = true) (room : remote.chain.length ≤ UInt64.size)
    (session : Session) (behind : session.ledger.chain <+: remote.chain) :
    let after := (s.synchronize hint session).1
    let start := session.ledger.head.height.toNat + 1
    let missing := remote.chain.length - session.ledger.chain.length
    let calls := batchCalls peer s.config.batchSize start missing
    ∃ report, (s.synchronize hint session).2 = some report ∧
      report.synced = true ∧ report.applied.toNat = missing ∧
      report.fromHeight = session.ledger.head.height ∧ report.toHeight = remote.head.height ∧
      report.reason = (if missing = 0 then some "Already up to date." else none) ∧
      after.ledger.chain = remote.chain ∧
      after.calls = session.calls ++ .head peer :: calls ∧
      ∃ covered, missing ≤ covered ∧ covered < missing + s.config.batchSize.toNat ∧
        calls.flatMap Call.heights = List.range' start covered := by
  intro after start missing calls
  have numbered := Judge.numbered_of_isValid genesis valid room
  have remoteCounts := Ledger.toNat_height_head numbered
  have counts := Ledger.toNat_height_head (numbered.of_prefix behind)
  have shorter := behind.length_le
  have size : 0 < s.config.batchSize.toNat := UInt64.lt_iff_toNat_lt.mp positive
  by_cases level : remote.head.height ≤ session.ledger.head.height
  · have same : session.ledger.chain = remote.chain := by
      have below := UInt64.le_iff_toNat_le.mp level
      exact behind.eq_of_length_le (by omega)
    have none : missing = 0 := by
      simp [missing, same]
    obtain ⟨_, result, ledger, called⟩ :=
      synchronize_of_upToDate whole chosen answers session level
    refine ⟨_, congrArg Prod.snd result, rfl, none.symm, rfl, ?_, (if_pos none).symm, ?_, ?_,
      exists_flatMap_heights_batchCalls size (by omega)⟩
    · exact congrArg Block.height (Ledger.head_eq_of_chain_eq same)
    · show (s.synchronize hint session).1.ledger.chain = _
      rw [result, ledger, same]
    · show (s.synchronize hint session).1.calls = _
      rw [result, called]
      simp [calls, none]
  · have lower := UInt64.not_le.mp level
    have below := UInt64.lt_iff_toNat_lt.mp lower
    have fetches :=
      synchronize_fetches whole chosen answers positive remoteCounts session counts lower
    have split : session.ledger.chain ++ session.ledger.missing remote = remote.chain :=
      List.prefix_iff_eq_append.mp behind
    have taken : session.ledger.takeAccepted s.judge (session.ledger.missing remote) =
        session.ledger.missing remote :=
      Ledger.takeAccepted_of_isValid (by rw [split, valid])
    have length : (session.ledger.missing remote).length = missing := List.length_drop
    have chain : after.ledger.chain = remote.chain := by
      rw [fetches.ledger, Ledger.chain_acceptAll_takeAccepted, taken, split]
    have some : missing ≠ 0 := by
      omega
    refine ⟨_, fetches.ends taken, rfl, ?_, rfl, ?_, (if_neg some).symm, chain, ?_,
      exists_flatMap_heights_batchCalls size (by omega)⟩
    · show (0 + UInt64.ofNat (session.ledger.missing remote).length).toNat = missing
      rw [UInt64.zero_add, length, UInt64.toNat_ofNat_of_lt' (by omega)]
    · exact congrArg Block.height (Ledger.head_eq_of_chain_eq chain)
    · show (s.synchronize hint session).1.calls = _
      rw [fetches.calls taken, length, ← counts]
      simp [calls, start]

end Synchronizer

/-! A follower that was started afresh, with a leader on its network that has sealed a block. -/

namespace Sample

def sealedLedger : Ledger := waiting.append sealedBlock []

/-- A network with nobody but the leader on it. -/
def networkOf (remote : Ledger) : Network := fun address =>
  if address = "node-1" then some (judge, remote) else none

def clientOf (remote : Ledger) : Synchronizer :=
  ⟨⟨.standard, follower⟩, .standard, (networkOf remote).transport, none⟩

theorem answers_clientOf (remote : Ledger) : (clientOf remote).Answers "node-1" remote := by
  have reaches : (clientOf remote).transport = (networkOf remote).transport := rfl
  have named : Network.baseAddress "node-1" = "node-1" := by decide +kernel
  have found : networkOf remote (Network.baseAddress "node-1") = some (judge, remote) := by
    rw [networkOf, if_pos named]
  exact Synchronizer.answers_network reaches found

theorem choosePeer_follower :
    Synchronizer.choosePeer follower (some "node-1") = some "node-1" := by
  decide +kernel

theorem isValid_sealedLedger :
    (Judge.mk .standard follower).isValid sealedLedger.chain = true :=
  @Judge.isValid_append_of_follows ⟨.standard, follower⟩ sealedBlock waiting rfl
    (follows_sealedBlock (by decide))

end Sample

/-- The follower gets the block of the leader. -/
theorem Synchronizer.synchronize_converges_of_sealedLedger :
    let remote := Sample.sealedLedger
    let s := Sample.clientOf remote
    let session : Session := .start (.fresh .standard)
    s.cutoffMs = none ∧ choosePeer s.judge.identity (some "node-1") = some "node-1" ∧
      s.Answers "node-1" remote ∧ 0 < s.config.batchSize ∧
      remote.chain[0]? = some s.judge.crypto.genesis ∧ s.judge.isValid remote.chain = true ∧
      remote.chain.length ≤ UInt64.size ∧ session.ledger.chain <+: remote.chain ∧
      (s.synchronize (some "node-1") session).1.ledger.chain = remote.chain ∧
      ∃ report, (s.synchronize (some "node-1") session).2 = some report ∧ report.synced = true ∧
        report.applied.toNat = 1 := by
  intro remote s session
  have answers : s.Answers "node-1" remote := Sample.answers_clientOf remote
  have positive : 0 < s.config.batchSize := by decide
  have behind : session.ledger.chain <+: remote.chain := List.prefix_append _ _
  have room : remote.chain.length ≤ UInt64.size := by decide
  obtain ⟨report, ends, synced, applied, _, _, _, chain, _⟩ :=
    synchronize_converges rfl Sample.choosePeer_follower answers positive rfl
      Sample.isValid_sealedLedger room session behind
  exact ⟨rfl, Sample.choosePeer_follower, answers, positive, rfl, Sample.isValid_sealedLedger, room,
    behind, chain, report, ends, synced, applied⟩

end EvidenceLedger
