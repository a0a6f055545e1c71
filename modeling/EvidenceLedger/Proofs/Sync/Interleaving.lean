import EvidenceLedger.Proofs.Sync.InStep
import EvidenceLedger.Proofs.Sync.Steps
import Mathlib.Data.List.Infix

/-!
# Pushes while a node catches up

A leader pushes its blocks to a follower while the follower is on its way to catch up with the
leader. Both ways of getting a block end in the same acceptance, and a step of one may fall between
any two steps of the other. The leader may go on sealing blocks all the time.

The chain of the follower never leaves that of the leader, and the way comes to an end. But the
follower does not look at its own chain again once it is on its way. So if a push is accepted when
the follower still means to accept blocks, the next of these is one that it already has, and with
that the synchronisation fails. This is the only way in which it fails.
-/

namespace EvidenceLedger

theorem lt_successorHeight {height head : UInt64} (reached : height.toNat ≤ head.toNat)
    (room : head.toNat + 1 < UInt64.size) : height < successorHeight head := by
  rw [successorHeight_eq_add_one room, UInt64.lt_iff_toNat_lt, toNat_add_one room]
  exact Nat.lt_succ_of_le reached

namespace Ledger

variable {judge : Judge} {l remote : Ledger} {block : Block}

/-- The next block of a valid chain is accepted. -/
theorem follows_of_prefix (valid : judge.isValid remote.chain = true)
    (behind : l.chain <+: remote.chain) (next : remote.chain[l.chain.length]? = some block) :
    judge.follows l.head block = .ok () := by
  obtain ⟨rest, whole⟩ := prefix_append_singleton behind next
  rw [← whole] at valid
  exact Judge.follows_of_isValid (getLast?_chain l) (Judge.isValid_of_append valid (by simp))

/-- Any other block of the chain is refused for its height. -/
theorem follows_of_other (judge : Judge) (numbered : Numbered remote.chain)
    (room : remote.chain.length < UInt64.size) (behind : l.chain <+: remote.chain) {i : Nat}
    (atI : remote.chain[i]? = some block) (other : i ≠ l.chain.length) :
    judge.follows l.head block =
      .error (.heightMismatch (successorHeight l.head.height) block.height) := by
  have counts := toNat_height_head (numbered.of_prefix behind)
  have shorter := behind.length_le
  have height : block.height ≠ successorHeight l.head.height := by
    intro same
    have same := congrArg UInt64.toNat same
    rw [numbered i block atI, toNat_successorHeight] at same
    omega
  rw [Judge.follows, if_pos height]

end Ledger

namespace Phase

/-- The node still means to accept blocks. -/
def isBusy : Phase → Bool
  | .starting => false
  | .asking _ => true
  | .fetching remote progress blocks => !blocks.isEmpty || progress.current < remote
  | .ended _ => false

/-- So many steps, at most, and the node has nothing more to do, if the peer is not higher than the
bound. -/
def left (s : Synchronizer) (bound : Nat) : Phase → Nat
  | .starting => bound * (s.config.batchSize.toNat + 1) + 3
  | .asking _ => bound * (s.config.batchSize.toNat + 1) + 2
  | .fetching remote progress blocks =>
    blocks.length + (remote.toNat - progress.current.toNat - blocks.length) *
      (s.config.batchSize.toNat + 1) + 1
  | .ended _ => 0

end Phase

/-- The arithmetic of a batch: a block costs one step, and a block that is still to be fetched costs
more than a batch. -/
theorem left_lt_left {count size missing : Nat} (some : 0 < count) (short : count ≤ size)
    (behind : 0 < missing) :
    count + (missing - count) * (size + 1) < missing * (size + 1) := by
  obtain inside | beyond := Nat.le_total count missing
  · obtain ⟨others, rfl⟩ := Nat.exists_eq_add_of_le inside
    have two := Nat.mul_le_mul_left count (show 2 ≤ size + 1 by omega)
    rw [Nat.add_sub_cancel_left, Nat.add_mul]
    omega
  · have one := Nat.mul_le_mul_right (size + 1) behind
    rw [Nat.sub_eq_zero_of_le beyond, Nat.zero_mul]
    omega

/-- A leader, and a follower on its way to catch up with it. -/
structure Encounter where
  leader : Ledger
  pursuit : Pursuit
  /-- How high the head of the leader was when the follower asked for it. -/
  read : Option UInt64
  /-- A push was accepted when the follower still meant to accept blocks. -/
  overtaken : Bool

inductive Move where
  /-- The leader goes on to this ledger. -/
  | lead (next : Ledger)
  /-- A block is pushed to the follower. -/
  | push (block : Block)
  /-- The follower takes a step, and the leader answers in this way. -/
  | own (transport : Transport)

namespace Move

/-- Is this a step of the follower? -/
def isOwn : Move → Bool
  | .own _ => true
  | _ => false

end Move

namespace Encounter

def start (leader : Ledger) (session : Session) : Encounter :=
  ⟨leader, ⟨session, .starting⟩, none, false⟩

def follower (e : Encounter) : Ledger := e.pursuit.ledger

def next (s : Synchronizer) (peer : String) (e : Encounter) : Move → Encounter
  | .lead next => { e with leader := next }
  | .push block =>
    let outcome := e.follower.accept s.judge block
    { e with
      pursuit := e.pursuit.record outcome
      overtaken := e.overtaken || e.pursuit.phase.isBusy && outcome.answer.isOk }
  | .own transport =>
    { e with
      pursuit := { s with transport }.step peer e.pursuit
      read := match e.pursuit.phase with
        | .asking _ => some e.leader.head.height
        | _ => e.read }

/-- The leader only adds blocks that the follower would accept, only blocks of the leader are
pushed, and the leader answers in time. -/
def Allows (s : Synchronizer) (peer : String) (e : Encounter) : Move → Prop
  | .lead next => e.leader.chain <+: next.chain ∧ s.judge.isValid next.chain = true ∧
      next.chain.length < UInt64.size
  | .push block => block ∈ e.leader.chain
  | .own transport => { s with transport }.Answers peer e.leader

inductive Course (s : Synchronizer) (peer : String) (e : Encounter) :
    List Move → Encounter → Prop where
  | refl : Course s peer e [] e
  | next {moves : List Move} {middle : Encounter} (course : Course s peer e moves middle)
      (move : Move) (allowed : middle.Allows s peer move) :
      Course s peer e (moves ++ [move]) (middle.next s peer move)

/-- A report is right about an encounter. It is one of success exactly if the follower was not
overtaken. After a success the follower is as high as the leader was when it asked, and after a
failure it has the block that was refused. -/
structure Reports (e : Encounter) (report : SyncOutcome) : Prop where
  synced : report.synced = true ↔ e.overtaken = false
  reached : report.synced = true →
    ∃ height, e.read = some height ∧ height.toNat < e.follower.chain.length
  refused : report.synced = false → ∃ block ∈ e.follower.chain, ∃ expected,
    block.height < expected ∧ report.reason = some ("Sync failed: " ++
      (ChainViolation.heightMismatch expected block.height).message)

/-- What the follower goes by while it fetches is true of the leader, and it was overtaken if its
chain goes on after the height that it goes by. -/
structure Fetching (s : Synchronizer) (e : Encounter) (remote : UInt64) (progress : Progress)
    (blocks : List Block) : Prop where
  read : e.read = some remote
  served : remote.toNat < e.leader.chain.length
  reached : progress.current.toNat < e.follower.chain.length
  pending : blocks <+: e.leader.chain.drop (progress.current.toNat + 1)
  size : blocks.length ≤ s.config.batchSize.toNat
  overtaken : e.overtaken = true ↔ progress.current.toNat + 1 < e.follower.chain.length ∧
    (Phase.fetching remote progress blocks).isBusy = true

/-- The phase of the follower fits the rest of the encounter. -/
inductive Fits (s : Synchronizer) (e : Encounter) : Phase → Prop where
  | starting (overtaken : e.overtaken = false) : Fits s e .starting
  | asking {height : UInt64} (reached : height.toNat < e.follower.chain.length)
      (overtaken : e.overtaken = true ↔ height.toNat + 1 < e.follower.chain.length) :
      Fits s e (.asking height)
  | fetching {remote : UInt64} {progress : Progress} {blocks : List Block}
      (h : e.Fetching s remote progress blocks) : Fits s e (.fetching remote progress blocks)
  | ended {report : SyncOutcome} (empty : s.config.batchSize = 0 → report.synced = true)
      (h : 0 < s.config.batchSize → e.Reports report) : Fits s e (.ended (some report))

section Fits

variable {s : Synchronizer} {e : Encounter} {height remote : UInt64} {progress : Progress}
  {block : Block} {rest blocks : List Block}

theorem Fits.of_starting (fits : Fits s e .starting) : e.overtaken = false := by
  cases fits with
  | starting overtaken => exact overtaken

theorem Fits.of_asking (fits : Fits s e (.asking height)) :
    height.toNat < e.follower.chain.length ∧
      (e.overtaken = true ↔ height.toNat + 1 < e.follower.chain.length) := by
  cases fits with
  | asking reached overtaken => exact ⟨reached, overtaken⟩

theorem Fits.of_fetching (fits : Fits s e (.fetching remote progress blocks)) :
    e.Fetching s remote progress blocks := by
  cases fits with
  | fetching h => exact h

/-- The next block of a batch is the one of the leader after those that the follower has
accepted. -/
theorem Fetching.getElem?_leader (h : e.Fetching s remote progress (block :: rest)) :
    e.leader.chain[progress.current.toNat + 1]? = some block := by
  obtain ⟨tail, whole⟩ := h.pending
  have first := congrArg (·[0]?) whole
  simpa using first.symm

theorem Fetching.pending_tail (h : e.Fetching s remote progress (block :: rest)) :
    rest <+: e.leader.chain.drop (progress.current.toNat + 1 + 1) := by
  obtain ⟨tail, whole⟩ := h.pending
  refine ⟨tail, ?_⟩
  rw [← List.drop_drop, ← whole]
  rfl

end Fits

/-- A phase goes on fitting when the chains grow, as long as it is told when the follower is
overtaken. -/
theorem Fits.grow {s : Synchronizer} {e later : Encounter} {phase : Phase} (fits : Fits s e phase)
    (read : later.read = e.read) (leader : e.leader.chain <+: later.leader.chain)
    (follower : e.follower.chain <+: later.follower.chain)
    (overtaken : later.overtaken = true ↔ e.overtaken = true ∨
      (phase.isBusy = true ∧ e.follower.chain.length < later.follower.chain.length)) :
    Fits s later phase := by
  have longer := follower.length_le
  cases fits with
  | starting before =>
    rw [before] at overtaken
    exact .starting (by simpa [Phase.isBusy] using overtaken)
  | asking reached before =>
    refine .asking (by omega) ?_
    rw [overtaken, before]
    simp only [Phase.isBusy, true_and]
    omega
  | fetching h =>
    refine .fetching ⟨read.trans h.read, Nat.lt_of_lt_of_le h.served leader.length_le,
      Nat.lt_of_lt_of_le h.reached longer, h.pending.trans (leader.drop _), h.size, ?_⟩
    have reached := h.reached
    rw [overtaken, h.overtaken]
    cases (Phase.fetching _ _ _).isBusy with
    | false => simp
    | true =>
      simp only [and_true, true_and]
      omega
  | ended empty h =>
    have same : later.overtaken = e.overtaken := by
      exact Bool.eq_iff_iff.mpr (by simpa [Phase.isBusy] using overtaken)
    refine .ended empty fun positive => ?_
    have h := h positive
    refine ⟨by rw [same, h.synced], fun synced => ?_, fun failed => ?_⟩
    · obtain ⟨height, isRead, reached⟩ := h.reached synced
      exact ⟨height, read.trans isRead, Nat.lt_of_lt_of_le reached longer⟩
    · obtain ⟨block, member, expected, lower, reason⟩ := h.refused failed
      exact ⟨block, follower.subset member, expected, lower, reason⟩

/-- The follower would accept the chain of the leader, and has a beginning of it. -/
structure Sound (s : Synchronizer) (e : Encounter) : Prop where
  genesis : e.leader.chain[0]? = some s.judge.crypto.genesis
  valid : s.judge.isValid e.leader.chain = true
  room : e.leader.chain.length < UInt64.size
  behind : e.follower.chain <+: e.leader.chain
  phase : Fits s e e.pursuit.phase

/-- A step of the follower that brings it closer to the end. -/
structure Advances (s : Synchronizer) (bound : Nat) (e later : Encounter) : Prop where
  sound : later.Sound s
  closer : later.pursuit.phase.left s bound < e.pursuit.phase.left s bound

variable {s : Synchronizer} {peer : String} {e : Encounter} {block : Block} {longer : Ledger}

@[simp] theorem follower_next_lead : (e.next s peer (.lead longer)).follower = e.follower := rfl

@[simp] theorem follower_next_push :
    (e.next s peer (.push block)).follower = (e.follower.accept s.judge block).ledger := rfl

@[simp] theorem overtaken_next_push :
    (e.next s peer (.push block)).overtaken =
      (e.overtaken || e.pursuit.phase.isBusy && (e.follower.accept s.judge block).answer.isOk) :=
  rfl

namespace Sound

theorem numbered (sound : e.Sound s) : Numbered e.leader.chain :=
  Judge.numbered_of_isValid sound.genesis sound.valid (Nat.le_of_lt sound.room)

/-- The head of the follower says how long its chain is. -/
theorem counts (sound : e.Sound s) :
    e.follower.head.height.toNat + 1 = e.follower.chain.length :=
  Ledger.toNat_height_head (sound.numbered.of_prefix sound.behind)

/-- The leader may seal more blocks at any time. -/
theorem lead (sound : e.Sound s) (allowed : e.Allows s peer (.lead longer)) :
    (e.next s peer (.lead longer)).Sound s := by
  obtain ⟨grown, valid, room⟩ := allowed
  have genesis : longer.chain[0]? = some s.judge.crypto.genesis := by
    obtain ⟨rest, whole⟩ := grown
    have nonempty : 0 < e.leader.chain.length := (List.getElem?_eq_some_iff.mp sound.genesis).1
    rw [← whole, List.getElem?_append_left nonempty, sound.genesis]
  refine ⟨genesis, valid, room, sound.behind.trans grown, ?_⟩
  refine sound.phase.grow rfl grown List.prefix_rfl ?_
  show e.overtaken = true ↔ _
  rw [follower_next_lead]
  simp

/-- A push that is accepted overtakes a follower that still means to accept blocks. -/
theorem push (sound : e.Sound s) (allowed : e.Allows s peer (.push block)) :
    (e.next s peer (.push block)).Sound s := by
  obtain ⟨i, atI⟩ := List.getElem?_of_mem allowed
  by_cases other : i = e.follower.chain.length
  · subst other
    have judged := Ledger.follows_of_prefix sound.valid sound.behind atI
    have chain : (e.next s peer (.push block)).follower.chain = e.follower.chain ++ [block] := by
      rw [follower_next_push, Ledger.accept_of_ok judged, Ledger.chain_append]
    refine ⟨sound.genesis, sound.valid, sound.room, ?_, ?_⟩
    · rw [chain]
      exact prefix_append_singleton sound.behind atI
    · refine sound.phase.grow rfl List.prefix_rfl (chain ▸ List.prefix_append _ _) ?_
      rw [chain, overtaken_next_push, Ledger.accept_of_ok judged]
      simp [Except.isOk, Except.toBool]
  · have judged := Ledger.follows_of_other s.judge sound.numbered sound.room sound.behind atI other
    have follower : (e.next s peer (.push block)).follower = e.follower := by
      rw [follower_next_push, Ledger.accept_of_error judged]
    refine ⟨sound.genesis, sound.valid, sound.room, follower ▸ sound.behind, ?_⟩
    refine sound.phase.grow rfl List.prefix_rfl (follower ▸ List.prefix_rfl) ?_
    rw [follower, overtaken_next_push, Ledger.accept_of_error judged]
    simp [Except.isOk, Except.toBool]

/-! Each step of the follower is a case of its own, by the phase that it begins in. -/

section Own

variable {bound : Nat} {height remote : UInt64} {progress : Progress} {rest : List Block}
  {transport : Transport}

theorem read_next_of_starting (phase : e.pursuit.phase = .starting) :
    (e.next s peer (.own transport)).read = e.read := by
  simp only [Encounter.next, phase]

theorem read_next_of_asking (phase : e.pursuit.phase = .asking height) :
    (e.next s peer (.own transport)).read = some e.leader.head.height := by
  simp only [Encounter.next, phase]

theorem read_next_of_fetching {blocks : List Block}
    (phase : e.pursuit.phase = .fetching remote progress blocks) :
    (e.next s peer (.own transport)).read = e.read := by
  simp only [Encounter.next, phase]

/-- A step that is not an acceptance leaves the chains as they are, so only the new phase counts. -/
theorem own_of_same {after : Session} {phase : Phase} {read : Option UInt64} (sound : e.Sound s)
    (isRead : (e.next s peer (.own transport)).read = read)
    (stepped : { s with transport }.step peer e.pursuit = ⟨after, phase⟩)
    (same : after.ledger = e.follower) (fits : Fits s { e with read } phase)
    (closer : phase.left s bound < e.pursuit.phase.left s bound) :
    e.Advances s bound (e.next s peer (.own transport)) := by
  have pursuit : (e.next s peer (.own transport)).pursuit = ⟨after, phase⟩ := stepped
  have follower : (e.next s peer (.own transport)).follower = e.follower := by
    rw [Encounter.follower, pursuit]
    exact same
  refine ⟨⟨sound.genesis, sound.valid, sound.room, follower ▸ sound.behind, ?_⟩, ?_⟩
  · rw [pursuit]
    refine fits.grow isRead List.prefix_rfl (follower ▸ List.prefix_rfl) ?_
    rw [follower]
    exact (or_iff_left fun more => Nat.lt_irrefl _ more.2).symm
  · rw [pursuit]
    exact closer

/-- The follower looks how high its head is. -/
theorem own_of_starting (sound : e.Sound s) (phase : e.pursuit.phase = .starting) :
    e.Advances s bound (e.next s peer (.own transport)) := by
  have counts := sound.counts
  have notOvertaken : e.overtaken = false := (phase ▸ sound.phase).of_starting
  have stepped : { s with transport }.step peer e.pursuit =
      ⟨e.pursuit.session, .asking e.follower.head.height⟩ := by
    simp only [Synchronizer.step, phase]
    rfl
  refine sound.own_of_same (read_next_of_starting phase) stepped rfl (.asking ?_ ?_) ?_
  · show e.follower.head.height.toNat < e.follower.chain.length
    omega
  · show e.overtaken = true ↔ e.follower.head.height.toNat + 1 < e.follower.chain.length
    rw [notOvertaken, counts]
    simp
  · rw [phase]
    exact Nat.lt_succ_self _

section Answered

variable (whole : s.cutoffMs = none) (answers : { s with transport }.Answers peer e.leader)
include whole answers

/-- The follower learns that the leader is not higher. -/
theorem own_of_upToDate (sound : e.Sound s) (phase : e.pursuit.phase = .asking height)
    (level : e.leader.head.height ≤ height) :
    e.Advances s bound (e.next s peer (.own transport)) := by
  obtain ⟨reached, before⟩ := (phase ▸ sound.phase).of_asking
  have below := UInt64.le_iff_toNat_le.mp level
  -- The follower has no more blocks than the leader, so none can have been pushed since it looked.
  have notOvertaken : e.overtaken = false := by
    have shorter := sound.behind.length_le
    have remoteCounts := Ledger.toNat_height_head sound.numbered
    rw [← Bool.not_eq_true, before]
    omega
  obtain ⟨after, stepped, same⟩ := @Synchronizer.step_asking_of_upToDate { s with transport }
    peer e.leader e.pursuit height whole answers phase level
  refine sound.own_of_same (read_next_of_asking phase) stepped same
    (.ended (fun _ => rfl) fun _ => ⟨iff_of_true rfl notOvertaken, fun _ => ?_, ?_⟩) ?_
  · exact ⟨_, rfl, Nat.lt_of_le_of_lt below reached⟩
  · exact fun failed => nomatch failed
  · rw [phase]
    exact Nat.succ_pos _

/-- The follower learns how much higher the leader is. -/
theorem own_of_behind (sound : e.Sound s) (phase : e.pursuit.phase = .asking height)
    (lower : height < e.leader.head.height) (bounded : e.leader.chain.length ≤ bound) :
    e.Advances s bound (e.next s peer (.own transport)) := by
  obtain ⟨reached, before⟩ := (phase ▸ sound.phase).of_asking
  have remoteCounts := Ledger.toNat_height_head sound.numbered
  have busy : (Phase.fetching e.leader.head.height (.begin height) []).isBusy = true :=
    decide_eq_true lower
  obtain ⟨after, stepped, same⟩ := @Synchronizer.step_asking_of_behind { s with transport }
    peer e.leader e.pursuit height whole answers phase lower
  refine sound.own_of_same (read_next_of_asking phase) stepped same (.fetching
    ⟨rfl, Nat.le_of_eq remoteCounts, reached, List.nil_prefix, Nat.zero_le _, ?_⟩) ?_
  · exact before.trans (and_iff_left busy).symm
  · have rounds := Nat.mul_le_mul_right (s.config.batchSize.toNat + 1)
      (show e.leader.head.height.toNat - height.toNat ≤ bound by omega)
    simp only [phase, Phase.left, Progress.begin, List.length_nil, Nat.sub_zero]
    omega

/-- The follower gets the next batch, which begins with the block after those that it has
accepted. -/
theorem own_of_fetching (sound : e.Sound s) (phase : e.pursuit.phase = .fetching remote progress [])
    (lower : progress.current < remote) (positive : 0 < s.config.batchSize) :
    e.Advances s bound (e.next s peer (.own transport)) := by
  have h := (phase ▸ sound.phase).of_fetching
  have below := UInt64.lt_iff_toNat_lt.mp lower
  have remoteCounts := Ledger.toNat_height_head sound.numbered
  have inside : progress.current < e.leader.head.height := by
    have served := h.served
    rw [UInt64.lt_iff_toNat_lt]
    omega
  obtain ⟨block, rest, served, isBatch⟩ :=
    Ledger.exists_blocksFrom remoteCounts (UInt64.lt_iff_toNat_lt.mp positive) inside
  have pending := isBatch ▸ List.take_prefix _ _
  have short := isBatch ▸ List.length_take_le _ _
  have wasBusy : (Phase.fetching remote progress []).isBusy = true := decide_eq_true lower
  obtain ⟨after, stepped, same⟩ := @Synchronizer.step_fetching_of_behind { s with transport }
    peer e.leader e.pursuit remote progress block rest whole answers phase lower served
  refine sound.own_of_same (read_next_of_fetching phase) stepped same
    (.fetching ⟨h.read, h.served, h.reached, pending, short, ?_⟩) ?_
  · exact h.overtaken.trans (and_congr_right fun _ => iff_of_true wasBusy rfl)
  · have fewer := left_lt_left (List.length_pos_of_mem List.mem_cons_self) short
      (Nat.sub_pos_of_lt below)
    simp only [phase, Phase.left, List.length_nil, Nat.sub_zero, Nat.zero_add]
    omega

/-- The follower asks for a batch of no blocks. -/
theorem own_of_empty (sound : e.Sound s) (phase : e.pursuit.phase = .fetching remote progress [])
    (lower : progress.current < remote) (empty : s.config.batchSize = 0) :
    e.Advances s bound (e.next s peer (.own transport)) := by
  obtain ⟨after, report, stepped, synced, same⟩ := @Synchronizer.step_fetching_of_empty
    { s with transport } peer e.leader e.pursuit remote progress whole answers phase empty lower
  refine sound.own_of_same (read_next_of_fetching phase) stepped same
    (.ended (fun _ => synced) fun positive => ?_) ?_
  · exact absurd (empty ▸ positive) (UInt64.lt_irrefl 0)
  · rw [phase]
    exact Nat.succ_pos _

end Answered

/-- The follower is as high as the leader was. -/
theorem own_of_reached (sound : e.Sound s) (phase : e.pursuit.phase = .fetching remote progress [])
    (high : ¬progress.current < remote) :
    e.Advances s bound (e.next s peer (.own transport)) := by
  have h := (phase ▸ sound.phase).of_fetching
  have notBusy : (Phase.fetching remote progress []).isBusy = false := decide_eq_false high
  have notOvertaken : e.overtaken = false := by
    rw [← Bool.not_eq_true, h.overtaken, notBusy]
    simp
  have above := UInt64.le_iff_toNat_le.mp (UInt64.not_lt.mp high)
  obtain ⟨after, report, stepped, synced, same⟩ := @Synchronizer.step_fetching_of_reached
    { s with transport } peer e.pursuit remote progress phase high
  refine sound.own_of_same (read_next_of_fetching phase) stepped same
    (.ended (fun _ => synced) fun _ => ⟨iff_of_true synced notOvertaken, fun _ => ?_, ?_⟩) ?_
  · exact ⟨remote, h.read, Nat.lt_of_le_of_lt above h.reached⟩
  · exact fun failed => nomatch failed.symm.trans synced
  · rw [phase]
    exact Nat.succ_pos _

/-- The follower accepts the next block of a batch. -/
theorem own_of_fresh (sound : e.Sound s)
    (phase : e.pursuit.phase = .fetching remote progress (block :: rest))
    (fresh : progress.current.toNat + 1 = e.follower.chain.length) :
    e.Advances s bound (e.next s peer (.own transport)) := by
  have h := (phase ▸ sound.phase).of_fetching
  have atNext := h.getElem?_leader
  have current : (progress.advance block).current.toNat = progress.current.toNat + 1 :=
    sound.numbered _ _ atNext
  rw [fresh] at atNext
  obtain ⟨after, stepped, chain⟩ := @Synchronizer.step_accept_of_ok { s with transport } peer
    e.pursuit remote progress block rest phase
    (Ledger.follows_of_prefix sound.valid sound.behind atNext)
  have pursuit : (e.next s peer (.own transport)).pursuit =
      ⟨after, .fetching remote (progress.advance block) rest⟩ := stepped
  have follower : (e.next s peer (.own transport)).follower.chain =
      e.follower.chain ++ [block] := by
    rw [Encounter.follower, pursuit]
    exact chain
  have length : (e.next s peer (.own transport)).follower.chain.length =
      e.follower.chain.length + 1 := by
    rw [follower, List.length_append, List.length_singleton]
  refine ⟨⟨sound.genesis, sound.valid, sound.room, ?_, ?_⟩, ?_⟩
  · rw [follower]
    exact prefix_append_singleton sound.behind atNext
  · rw [pursuit]
    refine .fetching ⟨?_, h.served, ?_, ?_, Nat.le_of_succ_le h.size, ?_⟩
    · exact (read_next_of_fetching phase).trans h.read
    · omega
    · rw [current]
      exact h.pending_tail
    · refine iff_of_false (fun isOvertaken => ?_) fun further => ?_
      · have further := (h.overtaken.mp isOvertaken).1
        omega
      · have further := further.1
        omega
  · have sameLeft : remote.toNat - (progress.current.toNat + 1) - rest.length =
        remote.toNat - progress.current.toNat - (rest.length + 1) := by omega
    rw [pursuit, phase]
    simp only [Phase.left, current, List.length_cons, sameLeft]
    omega

/-- The follower was overtaken, and is left with a block that it has. -/
theorem own_of_overtaken (sound : e.Sound s)
    (phase : e.pursuit.phase = .fetching remote progress (block :: rest))
    (beyond : progress.current.toNat + 1 ≠ e.follower.chain.length) :
    e.Advances s bound (e.next s peer (.own transport)) := by
  have h := (phase ▸ sound.phase).of_fetching
  have atNext := h.getElem?_leader
  have height := sound.numbered _ _ atNext
  have reached := h.reached
  have counts := sound.counts
  have room := Nat.lt_of_le_of_lt sound.behind.length_le sound.room
  have isOvertaken : e.overtaken = true := h.overtaken.mpr ⟨by omega, rfl⟩
  have member : block ∈ e.follower.chain := by
    refine List.mem_of_getElem? (?_ : e.follower.chain[progress.current.toNat + 1]? = _)
    obtain ⟨others, whole⟩ := sound.behind
    rw [← atNext, ← whole, List.getElem?_append_left (by omega)]
  have lower : block.height < successorHeight e.follower.head.height :=
    lt_successorHeight (by omega) (by omega)
  obtain ⟨after, stepped, same⟩ := @Synchronizer.step_accept_of_error { s with transport } peer
    e.pursuit remote progress block rest _ phase
    (Ledger.follows_of_other s.judge sound.numbered sound.room sound.behind atNext beyond)
  refine sound.own_of_same (read_next_of_fetching phase) stepped same
    (.ended (fun empty => ?_) fun _ => ⟨?_, ?_, ?_⟩) ?_
  · have short := h.size
    rw [empty] at short
    exact absurd short (Nat.not_succ_le_zero _)
  · exact iff_of_false (fun synced => nomatch synced) (by simp [isOvertaken])
  · exact fun synced => nomatch synced
  · exact fun _ => ⟨block, member, _, lower, rfl⟩
  · rw [phase]
    exact Nat.succ_pos _

/-- A step after the end does nothing. -/
theorem own_of_ended {outcome : Option SyncOutcome} (phase : e.pursuit.phase = .ended outcome) :
    e.next s peer (.own transport) = e := by
  simp only [Encounter.next, Synchronizer.step, phase]

/-- A step of the follower brings it closer to the end, unless it is there. -/
theorem own (whole : s.cutoffMs = none) (sound : e.Sound s)
    (allowed : e.Allows s peer (.own transport)) (bounded : e.leader.chain.length ≤ bound) :
    e.Advances s bound (e.next s peer (.own transport)) ∨
      (∃ outcome, e.pursuit.phase = .ended outcome) ∧ e.next s peer (.own transport) = e := by
  cases phase : e.pursuit.phase with
  | starting => exact .inl (sound.own_of_starting phase)
  | asking height =>
    by_cases level : e.leader.head.height ≤ height
    · exact .inl (sound.own_of_upToDate whole allowed phase level)
    · exact .inl (sound.own_of_behind whole allowed phase (UInt64.not_le.mp level) bounded)
  | fetching remote progress blocks =>
    cases blocks with
    | nil =>
      by_cases lower : progress.current < remote
      · by_cases positive : 0 < s.config.batchSize
        · exact .inl (sound.own_of_fetching whole allowed phase lower positive)
        · have empty := Synchronizer.batchSize_eq_zero positive
          exact .inl (sound.own_of_empty whole allowed phase lower empty)
      · exact .inl (sound.own_of_reached phase lower)
    | cons block rest =>
      by_cases fresh : progress.current.toNat + 1 = e.follower.chain.length
      · exact .inl (sound.own_of_fresh phase fresh)
      · exact .inl (sound.own_of_overtaken phase fresh)
  | ended outcome => exact .inr ⟨⟨outcome, rfl⟩, own_of_ended phase⟩

end Own

/-- Nothing that may happen spoils anything. -/
theorem next (whole : s.cutoffMs = none) (sound : e.Sound s)
    {move : Move} (allowed : e.Allows s peer move) : (e.next s peer move).Sound s := by
  cases move with
  | lead longer => exact sound.lead allowed
  | push block => exact sound.push allowed
  | own transport =>
    obtain advances | ⟨_, same⟩ := sound.own whole allowed (Nat.le_refl _)
    · exact advances.sound
    · rw [same]
      exact sound

end Sound

/-- The leader takes nothing back. -/
theorem leader_prefix_next {move : Move} (allowed : e.Allows s peer move) :
    e.leader.chain <+: (e.next s peer move).leader.chain := by
  cases move with
  | lead longer => exact allowed.1
  | push block => exact List.prefix_rfl
  | own transport => exact List.prefix_rfl

namespace Course

variable {start : Encounter} {moves : List Move}

theorem step {middle : Encounter} {move : Move} (course : Course s peer start moves middle)
    (allowed : middle.Allows s peer move) (leads : middle.next s peer move = e) :
    Course s peer start (moves ++ [move]) e :=
  leads ▸ course.next move allowed

theorem sound (whole : s.cutoffMs = none)
    (begins : start.Sound s) (course : Course s peer start moves e) : e.Sound s := by
  induction course with
  | refl => exact begins
  | next _ move allowed ih => exact ih.next whole allowed

/-- As long as the follower is not at the end, every step of its own brings it closer. -/
theorem left_add_countP_le (whole : s.cutoffMs = none)
    (begins : start.Sound s) (course : Course s peer start moves e) {bound : Nat}
    (bounded : e.leader.chain.length ≤ bound) :
    (∃ outcome, e.pursuit.phase = .ended outcome) ∨
      e.pursuit.phase.left s bound + moves.countP Move.isOwn ≤
        start.pursuit.phase.left s bound := by
  induction course with
  | refl => exact .inr (Nat.le_refl _)
  | @next moves middle course move allowed ih =>
    have grown := (leader_prefix_next allowed).length_le
    have earlier := ih (Nat.le_trans grown bounded)
    have sound := course.sound whole begins
    rw [List.countP_append]
    cases move with
    | lead longer => exact earlier
    | push block => exact earlier
    | own transport =>
      obtain advances | ⟨ended, same⟩ :=
        sound.own whole allowed (Nat.le_trans grown bounded)
      · have closer := advances.closer
        obtain ⟨outcome, ended⟩ | enough := earlier
        · rw [ended] at closer
          exact absurd closer (Nat.not_lt_zero _)
        · refine .inr ?_
          simp only [List.countP_singleton, Move.isOwn, if_true]
          omega
      · rw [same]
        exact .inl ended

end Course

/-- Submitting and committing are ways to go on for a leader whose key the follower trusts. The
signature of a block that is committed is assumed to verify. -/
theorem Sound.allows_perform {leader follower : NodeIdentity} {own : PrivateKey}
    {key trustedKey : String} (sound : e.Sound s) (judges : s.judge = ⟨.standard, follower⟩)
    (holds : leader.privateKey? = some key) (reads : PrivateKey.ofText key = .ok own)
    (trusted : follower.allowlist.find? leader.nodeId = some trustedKey)
    (readsTrusted : PublicKey.ofText trustedKey = .ok own.publicKey)
    (room : e.leader.chain.length + 1 < UInt64.size) {op : Operation}
    (honest : ∀ block, op ≠ .accept block)
    (signsWell : ∀ now, own.SignsWell (e.leader.nextContent leader.nodeId now)) :
    e.Allows s peer (.lead (e.leader.perform ⟨.standard, leader⟩ op)) := by
  have stays : e.leader.chain <+: e.leader.chain ∧ s.judge.isValid e.leader.chain = true ∧
      e.leader.chain.length < UInt64.size := ⟨List.prefix_rfl, sound.valid, sound.room⟩
  cases op with
  | accept block => exact absurd rfl (honest block)
  | submit draft newId now =>
    simpa only [Allows, Ledger.perform, Ledger.chain_submit] using stays
  | commit now =>
    obtain ⟨reason, refused⟩ | ⟨_, _, leads, _, waiting, _, _⟩ :=
      Ledger.commit_cases ⟨.standard, leader⟩ e.leader now
    · simpa only [Allows, Ledger.perform, refused, Ledger.refuse_ledger] using stays
    · have counts := Ledger.toNat_height_head sound.numbered
      have follows := Ledger.follows_nextContent rfl (by omega) trusted readsTrusted
        (signsWell now)
      have valid := Judge.isValid_append_of_follows (judges ▸ sound.valid) follows
      simp only [Allows, Ledger.perform, Ledger.commit_standard leads holds reads waiting,
        Ledger.chain_append, List.length_append, List.length_singleton]
      exact ⟨List.prefix_append _ _, judges ▸ valid, room⟩

/-- A follower that is lower than the leader may always be overtaken. -/
theorem exists_course_overtaken {leader : Ledger} {session : Session} (whole : s.cutoffMs = none)
    (positive : 0 < s.config.batchSize) (answers : s.Answers peer leader)
    (sound : (start leader session).Sound s)
    (lower : session.ledger.head.height < leader.head.height) :
    ∃ block ∈ leader.chain, ∃ e, Course s peer (start leader session)
        [.own s.transport, .own s.transport, .own s.transport, .push block, .own s.transport] e ∧
      e.overtaken = true ∧ ∃ outcome, e.pursuit.phase = .ended outcome := by
  have counts : session.ledger.head.height.toNat + 1 = session.ledger.chain.length := sound.counts
  have behind : session.ledger.chain <+: leader.chain := sound.behind
  have remoteCounts : leader.head.height.toNat + 1 = leader.chain.length :=
    Ledger.toNat_height_head sound.numbered
  obtain ⟨block, rest, served, isBatch⟩ :=
    Ledger.exists_blocksFrom remoteCounts (UInt64.lt_iff_toNat_lt.mp positive) lower
  obtain ⟨tail, pending⟩ := isBatch ▸ List.take_prefix _ _
  have atNext : leader.chain[session.ledger.chain.length]? = some block := by
    have first := congrArg (·[0]?) pending
    rw [← counts]
    simpa using first.symm
  have member : block ∈ leader.chain := List.mem_of_getElem? atNext
  -- The follower has fetched a batch, and means to accept the block.
  obtain ⟨asked, askedStep, askedLedger⟩ :=
    @Synchronizer.step_asking_of_behind s peer leader ⟨session, .asking _⟩ _ whole answers rfl lower
  obtain ⟨fetched, fetchedStep, fetchedLedger⟩ :=
    @Synchronizer.step_fetching_of_behind s peer leader
      ⟨asked, .fetching leader.head.height (.begin session.ledger.head.height) []⟩ _ _ block rest
      whole answers rfl lower served
  -- The push brings the block, and the follower is left with one that it has.
  have sameLedger : fetched.ledger = session.ledger := fetchedLedger.trans askedLedger
  have accepted := Ledger.follows_of_prefix sound.valid behind atNext
  rw [← sameLedger] at accepted
  have pushed : (fetched.ledger.accept s.judge block).ledger.chain =
      session.ledger.chain ++ [block] := by
    rw [Ledger.accept_of_ok accepted, Ledger.chain_append, sameLedger]
  have refused := Ledger.follows_of_other s.judge sound.numbered sound.room
    (pushed ▸ prefix_append_singleton behind atNext) atNext (by rw [pushed]; simp)
  let overtaken : Session :=
    { fetched with
      ledger := (fetched.ledger.accept s.judge block).ledger
      effects := fetched.effects ++ (fetched.ledger.accept s.judge block).effects }
  obtain ⟨after, afterStep, _⟩ := @Synchronizer.step_accept_of_error s peer
    ⟨overtaken, .fetching leader.head.height (.begin session.ledger.head.height) (block :: rest)⟩
    _ _ _ _ _ rfl refused
  have starts : Course s peer (start leader session) [.own s.transport]
      ⟨leader, ⟨session, .asking session.ledger.head.height⟩, none, false⟩ :=
    .step .refl answers rfl
  have asks : Course s peer (start leader session) [.own s.transport, .own s.transport]
      ⟨leader, ⟨asked, .fetching leader.head.height (.begin session.ledger.head.height) []⟩,
        some leader.head.height, false⟩ :=
    starts.step answers (by simp only [Encounter.next, askedStep])
  have fetches : Course s peer (start leader session)
      [.own s.transport, .own s.transport, .own s.transport]
      ⟨leader, ⟨fetched, .fetching leader.head.height (.begin session.ledger.head.height)
        (block :: rest)⟩, some leader.head.height, false⟩ :=
    asks.step answers (by simp only [Encounter.next, fetchedStep])
  have pushes : Course s peer (start leader session)
      [.own s.transport, .own s.transport, .own s.transport, .push block]
      ⟨leader, ⟨overtaken, .fetching leader.head.height (.begin session.ledger.head.height)
        (block :: rest)⟩, some leader.head.height, true⟩ := by
    refine fetches.step member ?_
    simp only [Encounter.next, follower, Pursuit.ledger, Pursuit.record, overtaken,
      Ledger.accept_of_ok accepted]
    rfl
  have ends := pushes.next (.own s.transport) answers
  simp only [Encounter.next, afterStep] at ends
  exact ⟨block, member, _, ends, rfl, _, rfl⟩

/-- What comes of pushes while a follower catches up with its leader, wherever the pushes fall and
whatever the leader seals meanwhile. The chain of the follower is at every point a beginning of the
chain of the leader. After so many steps of its own the follower is at the end, and there is a
report. It is one of success exactly if no push was accepted when the follower still meant to accept
blocks; then the follower is at least as high as the leader was when it asked. Otherwise the block
that was refused is one that the follower has. A follower whose batches hold no blocks means to
accept none, and its report is always one of success.

All requests are answered in time. -/
theorem synced_iff_not_overtaken {leader : Ledger} {session : Session} {moves : List Move}
    (whole : s.cutoffMs = none) (genesis : leader.chain[0]? = some s.judge.crypto.genesis)
    (valid : s.judge.isValid leader.chain = true) (room : leader.chain.length < UInt64.size)
    (behind : session.ledger.chain <+: leader.chain)
    (course : Course s peer (start leader session) moves e) :
    e.follower.chain <+: e.leader.chain ∧
      (e.leader.chain.length * (s.config.batchSize.toNat + 1) + 3 ≤ moves.countP Move.isOwn →
        ∃ outcome, e.pursuit.phase = .ended outcome) ∧
      ∀ outcome, e.pursuit.phase = .ended outcome → ∃ report, outcome = some report ∧
        (s.config.batchSize = 0 → report.synced = true) ∧
        (0 < s.config.batchSize →
          (report.synced = true ↔ e.overtaken = false) ∧
          (report.synced = true →
            ∃ height, e.read = some height ∧ height ≤ e.follower.head.height) ∧
          (report.synced = false → ∃ block ∈ e.follower.chain, ∃ expected,
            block.height < expected ∧ report.reason = some ("Sync failed: " ++
              (ChainViolation.heightMismatch expected block.height).message))) := by
  have begins : (start leader session).Sound s :=
    ⟨genesis, valid, room, behind, .starting rfl⟩
  have sound := course.sound whole begins
  refine ⟨sound.behind, fun enough => ?_, fun outcome ended => ?_⟩
  · obtain ended | left := course.left_add_countP_le whole begins (Nat.le_refl _)
    · exact ended
    · have none : e.pursuit.phase.left s e.leader.chain.length = 0 := by
        have begin : (start leader session).pursuit.phase.left s e.leader.chain.length =
          e.leader.chain.length * (s.config.batchSize.toNat + 1) + 3 := rfl
        omega
      cases phase : e.pursuit.phase with
      | ended outcome => exact ⟨outcome, rfl⟩
      | starting => simp [phase, Phase.left] at none
      | asking height => simp [phase, Phase.left] at none
      | fetching remote progress blocks => simp [phase, Phase.left] at none
  · have fits := sound.phase
    rw [ended] at fits
    cases fits with
    | @ended report empty h =>
      refine ⟨report, rfl, empty, fun positive => ?_⟩
      have h := h positive
      refine ⟨h.synced, fun synced => ?_, h.refused⟩
      obtain ⟨height, isRead, reached⟩ := h.reached synced
      have counts := sound.counts
      exact ⟨height, isRead, UInt64.le_iff_toNat_le.mpr (by omega)⟩

end Encounter

/-! The follower is about to get the block of the leader, and the leader pushes it. -/

namespace Sample

theorem sound_sealedLedger :
    (Encounter.start sealedLedger (.start (.fresh .standard))).Sound (clientOf sealedLedger) :=
  ⟨rfl, isValid_sealedLedger, (by decide : sealedLedger.chain.length < UInt64.size),
    List.prefix_append _ _, .starting rfl⟩

end Sample

/-- The follower has fetched the block when the push of the same block is accepted. The
synchronisation fails, although the leader is honest and every request was answered. -/
theorem Encounter.failed_of_push :
    let leader := Sample.sealedLedger
    let s := Sample.clientOf leader
    let session : Session := .start (.fresh .standard)
    Ledger.Reachable Sample.judge leader ∧ s.judge.isValid leader.chain = true ∧
      session.ledger.chain <+: leader.chain ∧
      ∃ block ∈ leader.chain, ∃ e report, Course s "node-1" (start leader session)
          [.own s.transport, .own s.transport, .own s.transport, .push block, .own s.transport] e ∧
        e.pursuit.phase = .ended (some report) ∧ report.synced = false := by
  intro leader s session
  have positive : 0 < s.config.batchSize := by decide
  have lower : session.ledger.head.height < leader.head.height := by decide
  obtain ⟨block, member, e, course, overtaken, outcome, ended⟩ :=
    exists_course_overtaken rfl positive (Sample.answers_clientOf leader)
      Sample.sound_sealedLedger lower
  have fits := (course.sound rfl Sample.sound_sealedLedger).phase
  rw [ended] at fits
  cases fits with
  | @ended report _ h =>
    have failed : report.synced = false := by
      rw [← Bool.not_eq_true, (h positive).synced, overtaken]
      decide
    exact ⟨Sample.reachable_sealed, Sample.isValid_sealedLedger, List.prefix_append _ _, block,
      member, e, report, course, ended, failed⟩

/-- The follower that is overtaken ends with the chain of the leader, and with a report of failure
about a block that it has. -/
theorem Encounter.synced_iff_not_overtaken_of_push :
    let leader := Sample.sealedLedger
    let s := Sample.clientOf leader
    let session : Session := .start (.fresh .standard)
    s.cutoffMs = none ∧ leader.chain[0]? = some s.judge.crypto.genesis ∧
      s.judge.isValid leader.chain = true ∧ leader.chain.length < UInt64.size ∧
      session.ledger.chain <+: leader.chain ∧
      ∃ moves e report, Course s "node-1" (start leader session) moves e ∧
        e.follower.chain <+: e.leader.chain ∧ e.pursuit.phase = .ended (some report) ∧
        report.synced = false ∧ ∃ block ∈ e.follower.chain, ∃ expected,
          block.height < expected ∧ report.reason = some ("Sync failed: " ++
            (ChainViolation.heightMismatch expected block.height).message) := by
  intro leader s session
  have positive : 0 < s.config.batchSize := by decide
  have lower : session.ledger.head.height < leader.head.height := by decide
  have whole : s.cutoffMs = none := rfl
  have genesis : leader.chain[0]? = some s.judge.crypto.genesis := rfl
  have valid : s.judge.isValid leader.chain = true := Sample.isValid_sealedLedger
  have room : leader.chain.length < UInt64.size := by decide
  have behind : session.ledger.chain <+: leader.chain := List.prefix_append _ _
  obtain ⟨_, _, e, course, overtaken, outcome, ended⟩ :=
    exists_course_overtaken rfl positive (Sample.answers_clientOf leader)
      Sample.sound_sealedLedger lower
  obtain ⟨behindStill, _, reports⟩ :=
    synced_iff_not_overtaken whole genesis valid room behind course
  obtain ⟨report, rfl, _, reports⟩ := reports outcome ended
  obtain ⟨synced, _, refused⟩ := reports positive
  have failed : report.synced = false := by
    rw [← Bool.not_eq_true, synced, overtaken]
    decide
  exact ⟨whole, genesis, valid, room, behind, _, e, report, course, behindStill, ended, failed,
    refused failed⟩

end EvidenceLedger
