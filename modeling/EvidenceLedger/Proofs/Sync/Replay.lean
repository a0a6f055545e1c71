import EvidenceLedger.Proofs.Chain.Binding
import EvidenceLedger.Proofs.Ledger.Run
import EvidenceLedger.Proofs.Sync.Acceptance

/-!
# Synchronising is replaying

What a synchronisation makes of a ledger is settled by the blocks that the peer serves, in the
order in which it serves them: they are accepted one after the other up to the first that is
refused. How they are split into batches, how long the peer takes and what else it says play no
part. The report of the session is true of this replay.

The peer may be hostile. It may serve blocks that nobody asked for, too many of them, or the same
ones again, and it may fail at any request. The loop ends all the same, since every batch that is
accepted as a whole and is not empty raises the chain.
-/

namespace EvidenceLedger

namespace Ledger

/-- The ledger after accepting blocks one after the other. -/
def acceptAll (judge : Judge) (l : Ledger) (blocks : List Block) : Ledger :=
  blocks.foldl (fun l block => (l.accept judge block).ledger) l

/-- The blocks before the first one that is refused when they are accepted one after the other. -/
def takeAccepted (judge : Judge) (l : Ledger) : List Block → List Block
  | [] => []
  | block :: rest =>
    let outcome := l.accept judge block
    match outcome.answer with
    | .ok () => block :: takeAccepted judge outcome.ledger rest
    | .error _ => []

variable {judge : Judge} {l : Ledger} {block : Block} {blocks rest : List Block}

@[simp] theorem acceptAll_nil (judge : Judge) (l : Ledger) : l.acceptAll judge [] = l := rfl

@[simp] theorem acceptAll_cons (judge : Judge) (l : Ledger) (block : Block) (rest : List Block) :
    l.acceptAll judge (block :: rest) = (l.accept judge block).ledger.acceptAll judge rest := rfl

theorem acceptAll_append (judge : Judge) (l : Ledger) (blocks rest : List Block) :
    l.acceptAll judge (blocks ++ rest) = (l.acceptAll judge blocks).acceptAll judge rest :=
  List.foldl_append

@[simp] theorem takeAccepted_nil (judge : Judge) (l : Ledger) : l.takeAccepted judge [] = [] := rfl

theorem takeAccepted_cons_of_ok (accepted : judge.follows l.head block = .ok ()) :
    l.takeAccepted judge (block :: rest) =
      block :: (l.accept judge block).ledger.takeAccepted judge rest := by
  simp [takeAccepted, accept_of_ok accepted]

theorem takeAccepted_cons_of_error {reason : ChainViolation}
    (refused : judge.follows l.head block = .error reason) :
    l.takeAccepted judge (block :: rest) = [] := by
  simp [takeAccepted, accept_of_error refused]

/-- If all of some blocks are accepted, it goes on with the blocks after them. -/
theorem takeAccepted_append (whole : l.takeAccepted judge blocks = blocks) :
    l.takeAccepted judge (blocks ++ rest) =
      blocks ++ (l.acceptAll judge blocks).takeAccepted judge rest := by
  induction blocks generalizing l with
  | nil => rfl
  | cons block blocks ih =>
    cases judged : judge.follows l.head block with
    | error reason => exact nomatch (takeAccepted_cons_of_error judged).symm.trans whole
    | ok _ =>
      rw [takeAccepted_cons_of_ok judged] at whole
      rw [List.cons_append, takeAccepted_cons_of_ok judged, ih (List.cons.inj whole).2]
      rfl

/-- If not all blocks are accepted, it ends in front of one that is refused. -/
theorem takeAccepted_ne_iff : l.takeAccepted judge blocks ≠ blocks ↔
    ∃ block rest reason, blocks = l.takeAccepted judge blocks ++ block :: rest ∧
      ((l.acceptAll judge (l.takeAccepted judge blocks)).accept judge block).answer =
        .error reason := by
  constructor
  · intro cut
    induction blocks generalizing l with
    | nil => exact absurd rfl cut
    | cons block rest ih =>
      cases judged : judge.follows l.head block with
      | error reason =>
        rw [takeAccepted_cons_of_error judged]
        have answer : (l.accept judge block).answer = .error (.violation reason) := by
          rw [accept_of_error judged]
        exact ⟨block, rest, .violation reason, rfl, answer⟩
      | ok _ =>
        rw [takeAccepted_cons_of_ok judged] at cut ⊢
        obtain ⟨refused, others, reason, split, answer⟩ :=
          ih fun whole => cut (congrArg (block :: ·) whole)
        exact ⟨refused, others, reason, congrArg (block :: ·) split, answer⟩
  · rintro ⟨block, rest, reason, split, _⟩ whole
    rw [whole] at split
    simp at split

/-- Whatever is accepted stays in the chain. -/
theorem chain_acceptAll_takeAccepted (judge : Judge) (l : Ledger) (blocks : List Block) :
    (l.acceptAll judge (l.takeAccepted judge blocks)).chain =
      l.chain ++ l.takeAccepted judge blocks := by
  induction blocks generalizing l with
  | nil => simp
  | cons block rest ih =>
    cases judged : judge.follows l.head block with
    | error reason => simp [takeAccepted_cons_of_error judged]
    | ok _ =>
      rw [takeAccepted_cons_of_ok judged, acceptAll_cons, ih]
      simp [accept_of_ok judged]

/-- Each block that is accepted raises the head by one, up to the greatest height. -/
theorem toNat_height_acceptAll (judge : Judge) (l : Ledger) (blocks : List Block) :
    (l.acceptAll judge (l.takeAccepted judge blocks)).head.height.toNat =
      min (l.head.height.toNat + (l.takeAccepted judge blocks).length) (UInt64.size - 1) := by
  induction blocks generalizing l with
  | nil =>
    have bound : l.head.height.toNat < UInt64.size := l.head.height.toNat_lt
    rw [takeAccepted_nil, acceptAll_nil, List.length_nil]
    omega
  | cons block rest ih =>
    cases judged : judge.follows l.head block with
    | error reason =>
      have bound : l.head.height.toNat < UInt64.size := l.head.height.toNat_lt
      rw [takeAccepted_cons_of_error judged, acceptAll_nil, List.length_nil]
      omega
    | ok _ =>
      have raised : (l.accept judge block).ledger.head.height = successorHeight l.head.height := by
        rw [accept_of_ok judged]
        exact (Judge.follows_eq_ok_iff.mp judged).1
      rw [takeAccepted_cons_of_ok judged, acceptAll_cons, ih, raised, toNat_successorHeight,
        List.length_cons]
      omega

end Ledger

section Batch

open Ledger

/-- A batch is accepted up to the first block that is refused, the progress says how far that is,
and there is a refusal exactly if the batch goes on after that. -/
theorem applyBatch_spec (judge : Judge) (l : Ledger) (progress : Progress) (blocks : List Block)
    (current : progress.current = l.head.height) :
    let taken := l.takeAccepted judge blocks
    let batch := applyBatch judge l progress blocks
    batch.ledger = l.acceptAll judge taken ∧
      batch.progress =
        ⟨progress.start, batch.ledger.head.height, progress.applied + .ofNat taken.length⟩ ∧
      (batch.refusal = none ↔ taken = blocks) := by
  induction blocks generalizing l progress with
  | nil =>
    refine ⟨rfl, ?_, iff_of_true rfl rfl⟩
    simp [applyBatch, ← current]
  | cons block rest ih =>
    cases judged : judge.follows l.head block with
    | error reason =>
      simp [applyBatch, takeAccepted_cons_of_error judged, accept_of_error judged, ← current]
    | ok _ =>
      have reached :
          (progress.advance block).current = (l.accept judge block).ledger.head.height := by
        rw [accept_of_ok judged]
        rfl
      obtain ⟨ledger, counted, refusal⟩ := ih (l.accept judge block).ledger _ reached
      have first : (l.accept judge block).answer = .ok () := by rw [accept_of_ok judged]
      simp only [applyBatch, first, takeAccepted_cons_of_ok judged, acceptAll_cons, List.cons.injEq,
        true_and, List.length_cons]
      refine ⟨ledger, ?_, refusal⟩
      rw [counted]
      simp [Progress.advance, UInt64.ofNat_add, UInt64.add_assoc, UInt64.add_comm 1]

/-- A batch that is not empty and accepted as a whole brings the head closer to a height above. -/
theorem applyBatch_closer {judge : Judge} {l : Ledger} {progress : Progress} {blocks : List Block}
    {remote : UInt64} (current : progress.current = l.head.height) (nonempty : blocks ≠ [])
    (accepted : (applyBatch judge l progress blocks).refusal = none)
    (behind : progress.current < remote) :
    remote.toNat - (applyBatch judge l progress blocks).progress.current.toNat <
      remote.toNat - progress.current.toNat := by
  obtain ⟨ledger, counted, refusal⟩ := applyBatch_spec judge l progress blocks current
  have raised := toNat_height_acceptAll judge l blocks
  rw [← ledger, refusal.mp accepted, ← current] at raised
  have bound : remote.toNat < UInt64.size := remote.toNat_lt
  have below := UInt64.lt_iff_toNat_lt.mp behind
  have positive := List.length_pos_iff.mpr nonempty
  rw [counted, raised]
  omega

end Batch

namespace Session

@[simp] theorem ledger_start (l : Ledger) : (start l).ledger = l := rfl

@[simp] theorem calls_start (l : Ledger) : (start l).calls = [] := rfl

end Session

namespace Synchronizer

variable {s : Synchronizer} {peer : String}

/-- An answer as it is received: one that takes too long is not. -/
def received {α : Type} (s : Synchronizer) (peer : String) (answer : Timed (Except SyncError α)) :
    Except SyncError α :=
  let limit := s.config.requestTimeoutMs.toNat
  if limit < answer.afterMs then .error (.timeout peer limit)
  else answer.value

/-- The blocks that are received in reply to a call, given the calls before it. A head comes
without any. -/
def reply (s : Synchronizer) (before : List Call) : Call → Except SyncError (List Block)
  | .head peer => (s.received peer (s.transport.head before peer)).map fun _ => []
  | .blocks peer start limit => s.received peer (s.transport.blocks before peer start limit)

/-- The replies to calls, given the calls before them. -/
def replies (s : Synchronizer) (before : List Call) : List Call →
    List (Except SyncError (List Block))
  | [] => []
  | call :: calls => s.reply before call :: s.replies (before ++ [call]) calls

/-- The blocks that are received in reply to calls, in the order in which they arrive. -/
def served (s : Synchronizer) (before calls : List Call) : List Block :=
  (s.replies before calls).flatMap fun reply => reply.toOption.getD []

@[simp] theorem replies_nil (s : Synchronizer) (before : List Call) : s.replies before [] = [] :=
  rfl

@[simp] theorem replies_cons (s : Synchronizer) (before : List Call) (call : Call)
    (calls : List Call) :
    s.replies before (call :: calls) = s.reply before call :: s.replies (before ++ [call]) calls :=
  rfl

@[simp] theorem served_nil (s : Synchronizer) (before : List Call) : s.served before [] = [] := rfl

@[simp] theorem served_cons (s : Synchronizer) (before : List Call) (call : Call)
    (calls : List Call) :
    s.served before (call :: calls) =
      (s.reply before call).toOption.getD [] ++ s.served (before ++ [call]) calls := by
  simp [served]

/-- A session that is not abandoned goes on with what it receives. -/
theorem await_of_whole {α : Type} (whole : s.cutoffMs = none) (call : Call)
    (answer : Timed (Except SyncError α)) (session : Session) :
    s.await peer call answer session =
      ({ session with
          calls := session.calls ++ [call]
          elapsedMs := session.elapsedMs + min answer.afterMs s.config.requestTimeoutMs.toNat },
        some (s.received peer answer)) := by
  simp only [await, whole, received, Option.any_none, Bool.false_eq_true, if_false]
  split
  · rfl
  · rfl

theorem askHead_of_whole (whole : s.cutoffMs = none) (session : Session) :
    ∃ elapsedMs, s.askHead peer session =
      ({ session with calls := session.calls ++ [.head peer], elapsedMs },
        some (s.received peer (s.transport.head session.calls peer))) :=
  ⟨_, await_of_whole whole _ _ session⟩

theorem askBlocks_of_whole (whole : s.cutoffMs = none) (current : UInt64) (session : Session) :
    let call : Call := .blocks peer (current + 1) s.config.batchSize
    ∃ elapsedMs, s.askBlocks peer current session =
      ({ session with calls := session.calls ++ [call], elapsedMs },
        some (s.reply session.calls call)) :=
  ⟨_, await_of_whole whole _ _ session⟩

/-- Synchronising from the ledger `l` on, after the calls in `before`, comes to `result`, and this
is a replay: the session makes the calls in `after`, its ledger accepts what is served in reply up
to the first refusal, and the report is true, where `progress` is what was applied before. -/
structure Replays (s : Synchronizer) (l : Ledger) (before after : List Call) (progress : Progress)
    (result : Session × Option SyncOutcome) (outcome : SyncOutcome) : Prop where
  ends : result.2 = some outcome
  calls : result.1.calls = before ++ after
  ledger : result.1.ledger = l.acceptAll s.judge (l.takeAccepted s.judge (s.served before after))
  fromHeight : outcome.fromHeight = progress.start
  toHeight : outcome.toHeight = result.1.ledger.head.height
  applied : outcome.applied =
    progress.applied + .ofNat (l.takeAccepted s.judge (s.served before after)).length
  synced : outcome.synced = false ↔
    (∃ reason, .error reason ∈ s.replies before after) ∨
      l.takeAccepted s.judge (s.served before after) ≠ s.served before after

namespace Replays

variable {l middle : Ledger} {before after : List Call} {call : Call} {progress later : Progress}
  {session : Session} {result : Session × Option SyncOutcome} {outcome : SyncOutcome}
  {blocks : List Block}

/-- There is nothing left to do. -/
theorem done (calls : session.calls = before) (ledger : session.ledger = l)
    (fromHeight : outcome.fromHeight = progress.start) (toHeight : outcome.toHeight = l.head.height)
    (applied : outcome.applied = progress.applied) (synced : outcome.synced = true) :
    s.Replays l before [] progress (session, some outcome) outcome where
  ends := rfl
  calls := by rw [calls, List.append_nil]
  ledger := ledger
  fromHeight := fromHeight
  toHeight := by rw [toHeight, ledger]
  applied := by simp [applied]
  synced := by simp [synced]

/-- It goes on after a reply whose blocks were all accepted. -/
theorem step (rest : s.Replays middle (before ++ [call]) after later result outcome)
    (replied : s.reply before call = .ok blocks)
    (whole : l.takeAccepted s.judge blocks = blocks) (ledger : middle = l.acceptAll s.judge blocks)
    (start : later.start = progress.start)
    (counted : later.applied = progress.applied + .ofNat blocks.length) :
    s.Replays l before (call :: after) progress result outcome := by
  have served : s.served before (call :: after) = blocks ++ s.served (before ++ [call]) after := by
    rw [served_cons, replied]
    rfl
  have taken : l.takeAccepted s.judge (s.served before (call :: after)) =
      blocks ++ middle.takeAccepted s.judge (s.served (before ++ [call]) after) := by
    rw [served, Ledger.takeAccepted_append whole, ledger]
  refine ⟨rest.ends, ?_, ?_, rest.fromHeight.trans start, rest.toHeight, ?_, ?_⟩
  · rw [rest.calls, List.append_assoc, List.singleton_append]
  · rw [taken, Ledger.acceptAll_append, ← ledger, rest.ledger]
  · rw [rest.applied, counted, taken, List.length_append, UInt64.ofNat_add, UInt64.add_assoc]
  · rw [rest.synced, taken, served, replies_cons, replied]
    simp

/-- A call fails, and that is the end. -/
theorem fail_of_error {reason : SyncError} (replied : s.reply before call = .error reason)
    (calls : session.calls = before ++ [call]) (ledger : session.ledger = l)
    (current : progress.current = l.head.height) :
    s.Replays l before [call] progress (fail peer progress reason session)
      (.failed progress.applied progress.start progress.current reason.message) where
  ends := rfl
  calls := calls
  ledger := by simp [replied, ledger, Except.toOption]
  fromHeight := rfl
  toHeight := by rw [ledger_fail, ledger, ← current]; rfl
  applied := by simp [replied, SyncOutcome.failed, Except.toOption]
  synced := by simp [replied, SyncOutcome.failed]

/-- A block in a reply is refused, and that is the end. -/
theorem fail_of_refused {reason : SyncError} (replied : s.reply before call = .ok blocks)
    (refused : l.takeAccepted s.judge blocks ≠ blocks)
    (calls : session.calls = before ++ [call])
    (ledger : session.ledger = l.acceptAll s.judge (l.takeAccepted s.judge blocks))
    (counted : later = ⟨progress.start, session.ledger.head.height,
      progress.applied + .ofNat (l.takeAccepted s.judge blocks).length⟩) :
    s.Replays l before [call] progress (fail peer later reason session)
      (.failed later.applied later.start later.current reason.message) where
  ends := rfl
  calls := calls
  ledger := by simp [replied, ledger, Except.toOption]
  fromHeight := by rw [counted]; rfl
  toHeight := by rw [counted]; rfl
  applied := by simp [replied, SyncOutcome.failed, counted, Except.toOption]
  synced := by simp [replied, refused, SyncOutcome.failed, Except.toOption]

end Replays

/-- Fetching batches is a replay if there are rounds enough to reach the height of the peer. -/
theorem fetch_replays (whole : s.cutoffMs = none) (peer : String) (remote : UInt64) (rounds : Nat)
    (progress : Progress) (session : Session)
    (current : progress.current = session.ledger.head.height)
    (enough : remote.toNat - progress.current.toNat ≤ rounds) :
    ∃ after outcome, s.Replays session.ledger session.calls after progress
      (s.fetch peer remote rounds progress session) outcome := by
  -- The progress and the ledger agree on where the chain ends, and a round is only used up where
  -- the chain grows.
  induction rounds generalizing progress session with
  | zero =>
    have reached : ¬progress.current < remote := by
      rw [UInt64.lt_iff_toNat_lt]
      omega
    rw [fetch, if_neg reached]
    exact ⟨[], _, .done rfl rfl rfl current rfl rfl⟩
  | succ rounds ih =>
    by_cases behind : progress.current < remote
    · let call : Call := .blocks peer (progress.current + 1) s.config.batchSize
      obtain ⟨elapsedMs, asked⟩ := @askBlocks_of_whole s peer whole progress.current session
      simp only [fetch, if_pos behind, asked]
      cases replied : s.reply session.calls call with
      | error reason => exact ⟨[call], _, .fail_of_error replied rfl rfl current⟩
      | ok blocks =>
        let batch := applyBatch s.judge session.ledger progress blocks
        obtain ⟨ledger, counted, refusal⟩ :=
          applyBatch_spec s.judge session.ledger progress blocks current
        cases blocks with
        | nil =>
          exact ⟨[call], _,
            .step (.done rfl rfl rfl current rfl rfl) replied rfl rfl rfl (by simp)⟩
        | cons block rest =>
          dsimp only
          split
          · next reason refused =>
            have cut := mt refusal.mpr (by simp [refused])
            exact ⟨[call], _, .fail_of_refused replied cut rfl ledger counted⟩
          · next accepted =>
            have taken := refusal.mp accepted
            have closer :=
              applyBatch_closer current (List.cons_ne_nil block rest) accepted behind
            let next : Session :=
              ⟨batch.ledger, session.calls ++ [call], session.effects ++ batch.effects, elapsedMs⟩
            obtain ⟨after, outcome, replays⟩ := ih batch.progress next
              (congrArg Progress.current counted)
              (Nat.le_of_lt_succ (Nat.lt_of_lt_of_le closer enough))
            rw [taken] at ledger counted
            exact ⟨call :: after, outcome,
              replays.step replied taken ledger (by rw [counted]) (by rw [counted])⟩
    · rw [fetch, if_neg behind]
      exact ⟨[], _, .done rfl rfl rfl current rfl rfl⟩

/-- Whatever height the peer reports, the rounds that are set for it are enough. -/
theorem catchUp_replays (whole : s.cutoffMs = none) (peer : String) (session : Session) :
    ∃ after outcome, s.Replays session.ledger session.calls after
      (.begin session.ledger.head.height) (s.catchUp peer session) outcome := by
  let call : Call := .head peer
  obtain ⟨elapsedMs, asked⟩ := @askHead_of_whole s peer whole session
  simp only [catchUp, asked]
  cases received : s.received peer (s.transport.head session.calls peer) with
  | error reason =>
    have replied : s.reply session.calls call = .error reason := by
      rw [reply, received]
      rfl
    exact ⟨[call], _, .fail_of_error replied rfl rfl rfl⟩
  | ok head =>
    have replied : s.reply session.calls call = .ok [] := by
      rw [reply, received]
      rfl
    dsimp only
    split
    · exact ⟨[call], _, .step (.done rfl rfl rfl rfl rfl rfl) replied rfl rfl rfl rfl⟩
    · let asked : Session := { session with calls := session.calls ++ [call], elapsedMs }
      obtain ⟨after, outcome, replays⟩ := fetch_replays whole peer head.height _ (.begin _)
        (asked.tell (.syncStarted peer session.ledger.head.height head.height)) rfl (Nat.le_refl _)
      exact ⟨call :: after, outcome, replays.step replied rfl rfl rfl rfl⟩

/-- A synchronisation that is not abandoned is a replay of what the peer serves, and its report is
true, whatever the ledger is and whatever the peer does.

It comes to a report. The ledger accepts the blocks that are served in reply to the calls, one after
the other up to the first that is refused, and all of these stay in its chain. The report says where
the chain ended before and where it ends now, and, as long as heights can be counted, how many
blocks were appended, by which the two heights differ. It says that the node is not in step exactly
if some call failed or the block after those that were appended is refused. -/
theorem synchronize_replays {hint : Option String} (whole : s.cutoffMs = none)
    (chosen : choosePeer s.judge.identity hint = some peer) (session : Session) :
    ∃ calls report,
      let after := (s.synchronize hint session).1
      let served := s.served session.calls calls
      let taken := session.ledger.takeAccepted s.judge served
      (s.synchronize hint session).2 = some report ∧
        after.calls = session.calls ++ calls ∧
        after.ledger = session.ledger.acceptAll s.judge taken ∧
        after.ledger.chain = session.ledger.chain ++ taken ∧
        report.fromHeight = session.ledger.head.height ∧
        report.toHeight = after.ledger.head.height ∧
        (session.ledger.head.height.toNat + taken.length < UInt64.size →
          report.applied.toNat = taken.length ∧
            report.toHeight.toNat = report.fromHeight.toNat + report.applied.toNat) ∧
        (report.synced = false ↔
          (∃ reason, .error reason ∈ s.replies session.calls calls) ∨
            ∃ block rest reason, served = taken ++ block :: rest ∧
              (after.ledger.accept s.judge block).answer = .error reason) := by
  have caught : ∃ calls report, s.Replays session.ledger session.calls calls
      (.begin session.ledger.head.height) (s.synchronize hint session) report := by
    simp only [synchronize, chosen]
    split
    · exact catchUp_replays whole peer (session.tell (.unlistedPeer peer))
    · exact catchUp_replays whole peer session
  obtain ⟨calls, report, replays⟩ := caught
  have ledger := replays.ledger
  refine ⟨calls, report, replays.ends, replays.calls, ledger, ?_, replays.fromHeight,
    replays.toHeight, ?_, ?_⟩
  · rw [ledger, Ledger.chain_acceptAll_takeAccepted]
  · intro room
    have counted : report.applied.toNat =
        (session.ledger.takeAccepted s.judge (s.served session.calls calls)).length := by
      rw [replays.applied, Progress.begin, UInt64.zero_add, UInt64.toNat_ofNat_of_lt']
      omega
    refine ⟨counted, ?_⟩
    rw [replays.toHeight, ledger, Ledger.toNat_height_acceptAll, replays.fromHeight, counted]
    show min _ _ = session.ledger.head.height.toNat + _
    omega
  · rw [replays.synced, Ledger.takeAccepted_ne_iff, ledger]

end Synchronizer

namespace Sample

/-- A peer that pretends to be two blocks high, and serves a block twice whatever it is asked. -/
def stutterer (block : Block) : Transport where
  head _ _ := ⟨0, .ok { block.header with height := 2 }⟩
  blocks _ _ _ _ := ⟨0, .ok [block, block]⟩

/-- Somebody who catches up with it. -/
def credulous (judge : Judge) (block : Block) : Synchronizer :=
  ⟨judge, .standard, stutterer block, none⟩

section Stutter

variable {judge : Judge} {l : Ledger} {block : Block} {session : Session}

/-- The second time the block does not stand one higher than the head. -/
theorem follows_again (low : l.head.height = 0) (accepted : judge.follows l.head block = .ok ()) :
    judge.follows (l.accept judge block).ledger.head block = .error (.heightMismatch 2 1) := by
  have height : block.height = 1 := by
    rw [(Judge.follows_eq_ok_iff.mp accepted).1, low]
    decide
  rw [Ledger.accept_of_ok accepted, Ledger.append, Judge.follows, height]
  rfl

theorem takeAccepted_stutterer (low : l.head.height = 0)
    (accepted : judge.follows l.head block = .ok ()) :
    l.takeAccepted judge [block, block] = [block] := by
  rw [Ledger.takeAccepted_cons_of_ok accepted,
    Ledger.takeAccepted_cons_of_error (follows_again low accepted)]

theorem calls_fetch_credulous {progress : Progress} (low : session.ledger.head.height = 0)
    (accepted : judge.follows session.ledger.head block = .ok ()) (rounds : Nat)
    (current : progress.current = 0) :
    ((credulous judge block).fetch "peer" 2 (rounds + 1) progress session).1.calls =
      session.calls ++ [.blocks "peer" 1 100] := by
  obtain ⟨elapsedMs, asked⟩ :=
    @Synchronizer.askBlocks_of_whole (credulous judge block) "peer" rfl progress.current session
  have replied : (credulous judge block).reply session.calls
      (.blocks "peer" (0 + 1) (credulous judge block).config.batchSize) = .ok [block, block] := rfl
  have behind : (0 : UInt64) < 2 := by decide
  obtain ⟨_, _, refusal⟩ :=
    applyBatch_spec judge session.ledger progress [block, block] (current.trans low.symm)
  rw [takeAccepted_stutterer low accepted] at refusal
  cases refused : (applyBatch judge session.ledger progress [block, block]).refusal with
  | none => simp [refused] at refusal
  | some reason =>
    rw [Synchronizer.fetch, current, if_pos behind, ← current, asked, current, replied]
    simp only [show (credulous judge block).judge = judge from rfl, refused]
    rfl

theorem calls_credulous (low : session.ledger.head.height = 0)
    (accepted : judge.follows session.ledger.head block = .ok ()) :
    ((credulous judge block).catchUp "peer" session).1.calls =
      session.calls ++ [.head "peer", .blocks "peer" 1 100] := by
  obtain ⟨elapsedMs, asked⟩ :=
    @Synchronizer.askHead_of_whole (credulous judge block) "peer" rfl session
  have received : (credulous judge block).received "peer"
      ((credulous judge block).transport.head session.calls "peer") =
        .ok { block.header with height := 2 } := rfl
  let reached : Session := { session with calls := session.calls ++ [.head "peer"], elapsedMs }
  rw [Synchronizer.catchUp, asked, received, low]
  refine Eq.trans ?_ (List.append_assoc session.calls [.head "peer"] [.blocks "peer" 1 100])
  exact @calls_fetch_credulous judge block (reached.tell (.syncStarted "peer" 0 2)) (.begin 0) low
    accepted 1 rfl

end Stutter

end Sample

/-- The peer serves a good block twice. The first one is applied and stays, the second one is
refused, and the report says so. -/
theorem Synchronizer.synchronize_replays_of_stutterer :
    let s := Sample.credulous ⟨Sample.lenient, Sample.leader⟩ (Sample.unsigned [])
    let result := s.synchronize (some "peer") (.start (.fresh Sample.lenient))
    result.1.ledger.chain = (Ledger.fresh Sample.lenient).chain ++ [Sample.unsigned []] ∧
      ∃ report, result.2 = some report ∧ report.synced = false ∧ report.fromHeight = 0 ∧
        report.applied.toNat = 1 ∧ report.toHeight.toNat = 1 := by
  have accepted : (Judge.mk Sample.lenient Sample.leader).follows
      (Ledger.fresh Sample.lenient).head (Sample.unsigned []) = .ok () := Sample.follows_unsigned []
  have low : (Ledger.fresh Sample.lenient).head.height = 0 := rfl
  have chosen : choosePeer Sample.leader (some "peer") = some "peer" := by decide +kernel
  -- All that counts about the block is that it is accepted. It would take long to compute its hash.
  generalize Sample.unsigned [] = block at accepted ⊢
  generalize Ledger.fresh Sample.lenient = l at accepted low ⊢
  intro s result
  have asks : result.1.calls = [.head "peer", .blocks "peer" 1 100] := by
    simp only [result, synchronize, show s.judge.identity = Sample.leader from rfl, chosen]
    split
    · exact Sample.calls_credulous low accepted
    · exact Sample.calls_credulous low accepted
  obtain ⟨calls, report, ends, asked, ledger, chain, fromHeight, _, counted, synced⟩ :=
    @synchronize_replays s "peer" (some "peer") rfl chosen (.start l)
  obtain rfl : calls = [.head "peer", .blocks "peer" 1 100] := asked.symm.trans asks
  have taken : l.takeAccepted s.judge (s.served [] [.head "peer", .blocks "peer" 1 100]) =
      [block] := Sample.takeAccepted_stutterer low accepted
  have fromZero : report.fromHeight = 0 := fromHeight.trans low
  simp only [Session.ledger_start, Session.calls_start, taken] at ledger chain counted synced
  have refused : (result.1.ledger.accept s.judge block).answer =
      .error (.violation (.heightMismatch 2 1)) := by
    have again := Ledger.accept_of_error (Sample.follows_again low accepted)
    rw [ledger, Ledger.acceptAll_cons, Ledger.acceptAll_nil]
    exact congrArg Outcome.answer again
  rw [low, fromZero] at counted
  obtain ⟨one, toHeight⟩ := counted (show 0 + 1 < UInt64.size by decide)
  rw [one] at toHeight
  exact ⟨chain, report, ends, synced.mpr (.inr ⟨block, [], _, rfl, refused⟩), fromZero, one,
    toHeight⟩

end EvidenceLedger
