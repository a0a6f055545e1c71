import EvidenceLedger.Proofs.Ledger.Validity
import EvidenceLedger.Proofs.Sync.Rounds

/-!
# Leaving a synchronisation

A node that stops while it synchronises on its own does not wait for the end. It leaves where it
waits for an answer, and nowhere else: between two answers nothing else has its turn. Which of the
two comes first if both are due at the same time is open.

So what is left behind is what the whole session has at that point. Each answer that was there in
time is processed, a batch of blocks to its end or to the first block that is refused, and of those
that come later nothing is. The argument compares the steps of the whole session with those of one
that is left: they are the same up to the first request whose answer comes too late.
-/

namespace EvidenceLedger

structure Standing where
  calls : List Call
  ledger : Ledger
  elapsedMs : Nat

def Session.standing (session : Session) : Standing :=
  ⟨session.calls, session.ledger, session.elapsedMs⟩

namespace Pursuit

/-- Where a node stands as soon as it is through with the last batch. -/
def standing (judge : Judge) (p : Pursuit) : Standing :=
  match p.phase with
  | .fetching _ _ blocks =>
    { p.session.standing with
      ledger := p.ledger.acceptAll judge (p.ledger.takeAccepted judge blocks) }
  | _ => p.session.standing

/-- The node leaves, and its request is never answered. -/
def drop (p : Pursuit) (call : Call) : Session :=
  { p.session with calls := p.session.calls ++ [call] }

end Pursuit

namespace Synchronizer

/-- The same synchronizer, but left at some time. -/
def leavingAt (s : Synchronizer) (atMs : Nat) : Synchronizer :=
  { s with cutoffMs := some atMs }

/-- The request that the next step makes, if it makes one. -/
def request? (s : Synchronizer) (peer : String) (p : Pursuit) : Option Call :=
  match p.phase with
  | .asking _ => some (.head peer)
  | .fetching remote progress [] =>
    if progress.current < remote then
      some (.blocks peer (progress.current + 1) s.config.batchSize)
    else none
  | _ => none

/-- How long a node waits for the answer to a call, given the calls before it. -/
def waitMs (s : Synchronizer) (before : List Call) (call : Call) : Nat :=
  let afterMs := match call with
    | .head peer => (s.transport.head before peer).afterMs
    | .blocks peer start limit => (s.transport.blocks before peer start limit).afterMs
  min afterMs s.config.requestTimeoutMs.toNat

/-- A call is made, its answer arrives or fails to, and the blocks in it, if there are any, are
accepted up to the first that is refused. -/
def answer (s : Synchronizer) (standing : Standing) (call : Call) : Standing where
  calls := standing.calls ++ [call]
  ledger :=
    let blocks := (s.reply standing.calls call).toOption.getD []
    standing.ledger.acceptAll s.judge (standing.ledger.takeAccepted s.judge blocks)
  elapsedMs := standing.elapsedMs + s.waitMs standing.calls call

/-- Where the session of a node that synchronises on its own stands after so many answers. -/
def standingAfter (s : Synchronizer) (l : Ledger) (answers : Nat) : Standing :=
  ((s.autoSync (.start l)).1.calls.take answers).foldl s.answer (Session.start l).standing

/-- On its way through the entries of its configuration, from the session on, the node has come to
a step of catching up with a peer. -/
inductive Underway (s : Synchronizer) : List String → Session → String → Pursuit → Prop where
  | visit {entry peer : String} {rest : List String} {session : Session} {p : Pursuit}
      (chosen : choosePeer s.judge.identity (some entry) = some peer)
      (leads : s.Leads peer
        ⟨session.tellAll (warnings s.judge.identity (some entry)), .starting⟩ p) :
      Underway s (entry :: rest) session peer p
  | later {entry peer : String} {rest : List String} {session after : Session}
      {outcome : SyncOutcome} {p : Pursuit}
      (run : s.synchronize (some entry) session = (after, some outcome))
      (underway : Underway s rest (after.tellAll (report entry outcome).toList) peer p) :
      Underway s (entry :: rest) session peer p

/-- The node waits for the answer to a call at this time. -/
structure Waits (s : Synchronizer) (atMs : Nat) (peer : String) (p : Pursuit) (call : Call) :
    Prop where
  asks : s.request? peer p = some call
  since : p.session.elapsedMs ≤ atMs
  late : atMs ≤ p.session.elapsedMs + s.waitMs p.session.calls call

/-- What is left behind if the node stops at this time. -/
inductive Leaves (s : Synchronizer) (l : Ledger) (atMs : Nat) : Session → Prop where
  /-- It stops before it has begun. -/
  | unbegun (atOnce : atMs = 0) : Leaves s l atMs (.start l)
  | waiting {peer : String} {p : Pursuit} {call : Call}
      (follows : s.judge.identity.isLeader = false)
      (underway : s.Underway s.judge.identity.peers
        ((Session.start l).tell (.autoSyncStarted s.judge.identity.peers.length)) peer p)
      (waits : s.Waits atMs peer p call) : Leaves s l atMs (p.drop call)
  | finished (inTime : (s.autoSync (.start l)).1.elapsedMs ≤ atMs) :
      Leaves s l atMs (s.autoSync (.start l)).1

/-- What is left behind at a time is what the whole session has after so many answers. These are
the answers that are there in time. -/
structure LeftAfter (s : Synchronizer) (l : Ledger) (atMs : Nat) (left : Session) (answers : Nat) :
    Prop where
  within : answers ≤ (s.autoSync (.start l)).1.calls.length
  ledger : left.ledger = (s.standingAfter l answers).ledger
  inTime : ∀ earlier ≤ answers, (s.standingAfter l earlier).elapsedMs ≤ atMs
  late : ∀ later, answers < later → later ≤ (s.autoSync (.start l)).1.calls.length →
    atMs ≤ (s.standingAfter l later).elapsedMs
  calls : left.calls <+: (s.autoSync (.start l)).1.calls
  pending : left.calls.length ≤ answers + 1

variable {s : Synchronizer} {peer : String} {p q : Pursuit} {call : Call} {atMs : Nat}
  {session : Session}

/-- An answer without blocks leaves the ledger as it is. -/
theorem answer_of_no_blocks {standing : Standing}
    (none : (s.reply standing.calls call).toOption.getD [] = []) :
    s.answer standing call =
      { standing with
        calls := standing.calls ++ [call]
        elapsedMs := standing.elapsedMs + s.waitMs standing.calls call } := by
  rw [answer, none]
  rfl

/-- The head of a peer comes without blocks. -/
theorem answer_head (standing : Standing) :
    s.answer standing (.head peer) =
      { standing with
        calls := standing.calls ++ [.head peer]
        elapsedMs := standing.elapsedMs + s.waitMs standing.calls (.head peer) } := by
  refine answer_of_no_blocks ?_
  rw [reply]
  cases s.received peer (s.transport.head standing.calls peer) with
  | error reason => rfl
  | ok head => rfl

section Standing

variable {height remote : UInt64} {progress : Progress} {block : Block} {rest : List Block}

theorem standing_step_asking (whole : s.cutoffMs = none) (session : Session) (height : UInt64) :
    (s.step peer ⟨session, .asking height⟩).standing s.judge =
      s.answer session.standing (.head peer) := by
  have asked := @await_of_whole s peer BlockHeader whole (.head peer)
    (s.transport.head session.calls peer) session
  rw [answer_head]
  simp only [step, askHead, asked]
  cases s.received peer (s.transport.head session.calls peer) with
  | error reason => rfl
  | ok head =>
    dsimp only
    split
    · rfl
    · rfl

theorem standing_step_fetching (whole : s.cutoffMs = none) (session : Session)
    (behind : progress.current < remote) :
    (s.step peer ⟨session, .fetching remote progress []⟩).standing s.judge =
      s.answer session.standing
        (.blocks peer (progress.current + 1) s.config.batchSize) := by
  let call : Call := .blocks peer (progress.current + 1) s.config.batchSize
  let next : Session :=
    { session with
      calls := session.calls ++ [call]
      elapsedMs := session.elapsedMs + s.waitMs session.calls call }
  have asked : s.askBlocks peer progress.current session =
      (next, some (s.reply session.calls call)) := await_of_whole whole _ _ session
  have noBlocks := @answer_of_no_blocks s call session.standing
  simp only [step, if_pos behind, asked]
  cases replied : s.reply session.calls call with
  | error reason => exact (noBlocks (by rw [Session.standing, replied]; rfl)).symm
  | ok blocks =>
    cases blocks with
    | nil => exact (noBlocks (by rw [Session.standing, replied]; rfl)).symm
    | cons block rest =>
      have answered : s.answer session.standing call =
          { next.standing with
            ledger := session.ledger.acceptAll s.judge
              (session.ledger.takeAccepted s.judge (block :: rest)) } := by
        rw [answer, Session.standing, replied]
        rfl
      exact answered.symm

theorem standing_step_accept (session : Session) :
    (s.step peer ⟨session, .fetching remote progress (block :: rest)⟩).standing s.judge =
      Pursuit.standing s.judge ⟨session, .fetching remote progress (block :: rest)⟩ := by
  cases judged : s.judge.follows session.ledger.head block with
  | error reason =>
    simp only [step, Pursuit.standing, Pursuit.ledger, Ledger.takeAccepted_cons_of_error judged,
      Ledger.accept_of_error judged]
    rfl
  | ok _ =>
    simp only [step, Pursuit.standing, Pursuit.ledger, Ledger.takeAccepted_cons_of_ok judged,
      Ledger.acceptAll_cons, Ledger.accept_of_ok judged]
    rfl

end Standing

/-- A request leads to its answer, and all other steps leave everything where it stands. -/
theorem standing_step (whole : s.cutoffMs = none) (p : Pursuit) :
    (s.step peer p).standing s.judge =
      (s.request? peer p).toList.foldl s.answer (p.standing s.judge) := by
  obtain ⟨session, phase⟩ := p
  cases phase with
  | starting => rfl
  | ended outcome => rfl
  | asking height => exact standing_step_asking whole session height
  | fetching remote progress blocks =>
    cases blocks with
    | nil =>
      by_cases behind : progress.current < remote
      · simp only [request?, if_pos behind]
        exact standing_step_fetching whole session behind
      · simp only [request?, if_neg behind, step]
        rfl
    | cons block rest => exact standing_step_accept session

theorem Leads.standing (leads : s.Leads peer p q) (whole : s.cutoffMs = none) :
    ∃ calls : List Call, q.standing s.judge = calls.foldl s.answer (p.standing s.judge) := by
  induction leads with
  | refl => exact ⟨[], rfl⟩
  | @step p q rest ih =>
    obtain ⟨calls, later⟩ := ih
    refine ⟨(s.request? peer p).toList ++ calls, ?_⟩
    rw [later, standing_step whole, List.foldl_append]

/-- A node that has ended does nothing more. -/
theorem eq_of_leads_ended {result : Session × Option SyncOutcome}
    (leads : s.Leads peer (.ended result) q) : q = .ended result := by
  generalize ended : Pursuit.ended result = p at leads
  induction leads with
  | refl => rfl
  | step _ ih =>
    subst ended
    exact ih rfl

/-- There is one way to the end only, and whoever is on it comes to it. -/
theorem Leads.ended {result : Session × Option SyncOutcome} (leads : s.Leads peer p q)
    (ends : s.Leads peer p (.ended result)) : s.Leads peer q (.ended result) := by
  induction leads with
  | refl => exact ends
  | step rest ih =>
    cases ends with
    | refl => exact eq_of_leads_ended rest ▸ .refl _
    | step others => exact ih others

/-- The answer to a request that is made ends up where the session ends. -/
theorem Leads.standing_ended {result : Session × Option SyncOutcome}
    (leads : s.Leads peer p (.ended result)) (whole : s.cutoffMs = none)
    (asks : s.request? peer p = some call) :
    ∃ calls, result.1.standing = (call :: calls).foldl s.answer (p.standing s.judge) := by
  cases leads with
  | refl => cases asks
  | step rest =>
    obtain ⟨calls, later⟩ := rest.standing whole
    refine ⟨calls, ?_⟩
    rw [standing_step whole, asks] at later
    exact later

/-! The steps of a session that is left at some time. -/

/-- An answer that is there in time is received as ever. -/
theorem await_leavingAt_of_in_time {α : Type} (whole : s.cutoffMs = none)
    (answer : Timed (Except SyncError α))
    (inTime : session.elapsedMs + min answer.afterMs s.config.requestTimeoutMs.toNat ≤ atMs) :
    (s.leavingAt atMs).await peer call answer session = s.await peer call answer session := by
  have goesOn : ¬ (s.leavingAt atMs).cutoffMs.any (· < session.elapsedMs +
      min answer.afterMs (s.leavingAt atMs).config.requestTimeoutMs.toNat) = true :=
    Bool.eq_false_iff.mp (decide_eq_false (Nat.not_lt.mpr inTime))
  have stays : ¬ s.cutoffMs.any (· < session.elapsedMs +
      min answer.afterMs s.config.requestTimeoutMs.toNat) = true := by
    rw [whole]
    exact Bool.false_ne_true
  rw [await, if_neg goesOn, await, if_neg stays]
  rfl

/-- Nobody waits for an answer that comes too late. -/
theorem await_leavingAt_of_late {α : Type} (answer : Timed (Except SyncError α))
    (late : atMs < session.elapsedMs + min answer.afterMs s.config.requestTimeoutMs.toNat) :
    (s.leavingAt atMs).await peer call answer session =
      ({ session with calls := session.calls ++ [call] }, none) := by
  have gone : (s.leavingAt atMs).cutoffMs.any (· < session.elapsedMs +
      min answer.afterMs (s.leavingAt atMs).config.requestTimeoutMs.toNat) = true :=
    decide_eq_true late
  rw [await, if_pos gone]

/-- A request is made in one of two phases. -/
theorem request?_eq_some (asks : s.request? peer p = some call) :
    (∃ height, p.phase = .asking height ∧ call = .head peer) ∨
      ∃ remote progress, p.phase = .fetching remote progress [] ∧ progress.current < remote ∧
        call = .blocks peer (progress.current + 1) s.config.batchSize := by
  obtain ⟨session, phase⟩ := p
  cases phase with
  | starting => cases asks
  | ended outcome => cases asks
  | asking height => exact .inl ⟨height, rfl, (Option.some.inj asks).symm⟩
  | fetching remote progress blocks =>
    cases blocks with
    | cons block rest => cases asks
    | nil =>
      simp only [request?] at asks
      split at asks
      · next behind =>
        exact .inr ⟨remote, progress, rfl, behind, (Option.some.inj asks).symm⟩
      · cases asks

/-- Who makes a request is through with the last batch. -/
theorem standing_of_asks (asks : s.request? peer p = some call) (judge : Judge) :
    p.standing judge = p.session.standing := by
  obtain ⟨session, phase⟩ := p
  obtain ⟨height, rfl, _⟩ | ⟨remote, progress, rfl, _, _⟩ := request?_eq_some asks
  · rfl
  · rfl

theorem step_leavingAt_of_in_time (whole : s.cutoffMs = none)
    (asks : s.request? peer p = some call)
    (inTime : p.session.elapsedMs + s.waitMs p.session.calls call ≤ atMs) :
    (s.leavingAt atMs).step peer p = s.step peer p := by
  obtain ⟨session, phase⟩ := p
  obtain ⟨height, rfl, rfl⟩ | ⟨remote, progress, rfl, behind, rfl⟩ := request?_eq_some asks
  · have same : (s.leavingAt atMs).askHead peer session = s.askHead peer session :=
      await_leavingAt_of_in_time whole _ inTime
    simp only [step, same]
  · have same : (s.leavingAt atMs).askBlocks peer progress.current session =
        s.askBlocks peer progress.current session := await_leavingAt_of_in_time whole _ inTime
    simp only [step, if_pos behind, same]

theorem step_leavingAt_of_late (asks : s.request? peer p = some call)
    (late : atMs < p.session.elapsedMs + s.waitMs p.session.calls call) :
    (s.leavingAt atMs).step peer p = .ended (p.drop call, none) := by
  obtain ⟨session, phase⟩ := p
  obtain ⟨height, rfl, rfl⟩ | ⟨remote, progress, rfl, behind, rfl⟩ := request?_eq_some asks
  · have dropped : (s.leavingAt atMs).askHead peer session =
        (Pursuit.drop ⟨session, .asking height⟩ (.head peer), none) :=
      await_leavingAt_of_late _ late
    simp only [step, dropped]
  · have dropped : (s.leavingAt atMs).askBlocks peer progress.current session =
        (Pursuit.drop ⟨session, .fetching remote progress []⟩
          (.blocks peer (progress.current + 1) s.config.batchSize), none) :=
      await_leavingAt_of_late _ late
    simp only [step, if_pos behind, dropped]

/-- What is not a request takes no time, so nobody leaves there. -/
theorem step_leavingAt_of_no_request (asks : s.request? peer p = none) (atMs : Nat) :
    (s.leavingAt atMs).step peer p = s.step peer p := by
  obtain ⟨session, phase⟩ := p
  cases phase with
  | starting => rfl
  | ended outcome => rfl
  | asking height => cases asks
  | fetching remote progress blocks =>
    cases blocks with
    | cons block rest => rfl
    | nil =>
      by_cases behind : progress.current < remote
      · simp only [request?, if_pos behind] at asks
        cases asks
      · simp only [step, if_neg behind]

/-- The clock stands where the session stands. -/
theorem elapsedMs_standing (judge : Judge) (p : Pursuit) :
    (p.standing judge).elapsedMs = p.session.elapsedMs := by
  obtain ⟨session, phase⟩ := p
  cases phase with
  | starting | asking | fetching | ended => rfl

/-- The steps of a session that is left are those of the whole session, up to a request whose answer
comes too late. -/
theorem Leads.of_leavingAt (leads : (s.leavingAt atMs).Leads peer p q) (whole : s.cutoffMs = none)
    (inTime : p.session.elapsedMs ≤ atMs) :
    (s.Leads peer p q ∧ q.session.elapsedMs ≤ atMs) ∨
      ∃ m call, s.Leads peer p m ∧ s.Waits atMs peer m call ∧ q = .ended (m.drop call, none) := by
  induction leads with
  | refl => exact .inl ⟨.refl _, inTime⟩
  | @step p q rest ih =>
    have clock := congrArg Standing.elapsedMs (@standing_step s peer whole p)
    rw [elapsedMs_standing] at clock
    have goesOn (same : (s.leavingAt atMs).step peer p = s.step peer p)
        (stillInTime : (s.step peer p).session.elapsedMs ≤ atMs) :
        (s.Leads peer p q ∧ q.session.elapsedMs ≤ atMs) ∨
          ∃ m call, s.Leads peer p m ∧ s.Waits atMs peer m call ∧
            q = .ended (m.drop call, none) := by
      obtain ⟨later, bound⟩ | ⟨m, call, later, waits, dropped⟩ := ih (same ▸ stillInTime)
      · exact .inl ⟨.step (same ▸ later), bound⟩
      · exact .inr ⟨m, call, .step (same ▸ later), waits, dropped⟩
    cases asks : s.request? peer p with
    | none =>
      rw [asks] at clock
      refine goesOn (step_leavingAt_of_no_request asks atMs) ?_
      rw [clock]
      exact Nat.le_trans (Nat.le_of_eq (elapsedMs_standing s.judge p)) inTime
    | some call =>
      rw [asks, standing_of_asks asks] at clock
      have arrival : (s.step peer p).session.elapsedMs =
          p.session.elapsedMs + s.waitMs p.session.calls call := clock
      by_cases late : atMs < p.session.elapsedMs + s.waitMs p.session.calls call
      · rw [step_leavingAt_of_late asks late] at rest
        exact .inr ⟨p, call, .refl p, ⟨asks, inTime, Nat.le_of_lt late⟩, eq_of_leads_ended rest⟩
      · have inTime := Nat.not_lt.mp late
        exact goesOn (step_leavingAt_of_in_time whole asks inTime) (arrival ▸ inTime)

theorem ended_inj {result other : Session × Option SyncOutcome}
    (same : Pursuit.ended result = Pursuit.ended other) : result = other := by
  obtain ⟨session, phase⟩ := Pursuit.mk.inj same
  exact Prod.ext session (Phase.ended.inj phase)

/-- Catching up is left where it waits for an answer, or comes to its end. -/
theorem catchUp_leavingAt (whole : s.cutoffMs = none) (peer : String)
    (inTime : session.elapsedMs ≤ atMs) :
    ((s.leavingAt atMs).catchUp peer session = s.catchUp peer session ∧
        (s.catchUp peer session).1.elapsedMs ≤ atMs) ∨
      ∃ p call, s.Leads peer ⟨session, .starting⟩ p ∧ s.Waits atMs peer p call ∧
        (s.leavingAt atMs).catchUp peer session = (p.drop call, none) := by
  have ends := leads_catchUp s peer session
  have left := leads_catchUp (s.leavingAt atMs) peer session
  obtain ⟨same, bound⟩ | ⟨p, call, leads, waits, dropped⟩ := left.of_leavingAt whole inTime
  · have result := ended_inj (eq_of_leads_ended (same.ended ends))
    exact .inl ⟨result.symm, result ▸ bound⟩
  · exact .inr ⟨p, call, leads, waits, ended_inj dropped⟩

/-- A wish for an entry comes to a result, and the answers in between make up where the session
stands. -/
theorem exists_synchronize (whole : s.cutoffMs = none)
    (configured : s.judge.identity.peers ≠ []) (entry : String) (session : Session) :
    ∃ after outcome, s.synchronize (some entry) session = (after, some outcome) ∧
      ∃ calls : List Call, after.standing = calls.foldl s.answer session.standing := by
  obtain ⟨peer, chosen⟩ := exists_choosePeer_of_ne_nil configured (some entry)
  obtain ⟨after, outcome, _, _, run, _⟩ := synchronize_told whole chosen session
  refine ⟨after, outcome, run, ?_⟩
  obtain ⟨calls, stands⟩ := (leads_catchUp s peer
    (session.tellAll (warnings s.judge.identity (some entry)))).standing whole
  rw [← synchronize_eq chosen, run] at stands
  exact ⟨calls, stands⟩

/-- What is left of the entries is gone through after the first one, from where that ended. -/
theorem synchronizeAll_cons {entry : String} {rest : List String} {after : Session}
    {outcome : SyncOutcome} (run : s.synchronize (some entry) session = (after, some outcome)) :
    s.synchronizeAll (entry :: rest) session =
      let others := s.synchronizeAll rest (after.tellAll (report entry outcome).toList)
      (others.1, others.2.map ((entry, outcome) :: ·)) := by
  have reported : ((report entry outcome).map after.tell).getD after =
      after.tellAll (report entry outcome).toList := by
    cases report entry outcome with
    | none => simp [Session.tellAll]
    | some event => rfl
  simp only [synchronizeAll, run, reported]

theorem standing_synchronizeAll (whole : s.cutoffMs = none)
    (configured : s.judge.identity.peers ≠ []) (entries : List String) (session : Session) :
    ∃ calls : List Call, (s.synchronizeAll entries session).1.standing =
      calls.foldl s.answer session.standing := by
  induction entries generalizing session with
  | nil => exact ⟨[], rfl⟩
  | cons entry rest ih =>
    obtain ⟨after, outcome, run, calls, stands⟩ :=
      exists_synchronize whole configured entry session
    obtain ⟨others, later⟩ := ih (after.tellAll (report entry outcome).toList)
    refine ⟨calls ++ others, ?_⟩
    rw [synchronizeAll_cons run, List.foldl_append, ← stands]
    exact later

/-- Going through the entries is left where it waits for an answer, or comes to its end. -/
theorem synchronizeAll_leavingAt (whole : s.cutoffMs = none)
    (configured : s.judge.identity.peers ≠ []) (entries : List String)
    (inTime : session.elapsedMs ≤ atMs) :
    ((s.leavingAt atMs).synchronizeAll entries session = s.synchronizeAll entries session ∧
        (s.synchronizeAll entries session).1.elapsedMs ≤ atMs) ∨
      ∃ peer p call, s.Underway entries session peer p ∧ s.Waits atMs peer p call ∧
        (s.leavingAt atMs).synchronizeAll entries session = (p.drop call, none) := by
  induction entries generalizing session with
  | nil => exact .inl ⟨rfl, inTime⟩
  | cons entry rest ih =>
    obtain ⟨peer, chosen⟩ := exists_choosePeer_of_ne_nil configured (some entry)
    obtain ⟨after, outcome, run, _⟩ := exists_synchronize whole configured entry session
    have ends := synchronize_eq chosen session
    have left := @synchronize_eq (s.leavingAt atMs) peer (some entry) chosen session
    obtain ⟨same, bound⟩ | ⟨p, call, leads, waits, dropped⟩ :=
      @catchUp_leavingAt s atMs (session.tellAll (warnings s.judge.identity (some entry))) whole
        peer inTime
    · have runLeft := left.trans (same.trans (ends.symm.trans run))
      rw [← ends, run] at bound
      rw [synchronizeAll_cons run, synchronizeAll_cons runLeft]
      obtain ⟨same, bound⟩ | ⟨peer, p, call, underway, waits, dropped⟩ :=
        @ih (after.tellAll (report entry outcome).toList) bound
      · exact .inl ⟨by rw [same], bound⟩
      · exact .inr ⟨peer, p, call, .later run underway, waits, by rw [dropped]; rfl⟩
    · refine .inr ⟨peer, p, call, .visit chosen leads, waits, ?_⟩
      have runLeft := left.trans dropped
      simp only [synchronizeAll, runLeft]

/-- When a node has gone through all of its entries, it says so. -/
def conclude (nodeId : String) (all : Session × Option (List (String × SyncOutcome))) :
    Session × Option (List (String × SyncOutcome)) :=
  (all.2.elim all.1 fun _ => all.1.tell (.autoSyncFinished nodeId), all.2)

@[simp] theorem standing_conclude (nodeId : String)
    (all : Session × Option (List (String × SyncOutcome))) :
    (conclude nodeId all).1.standing = all.1.standing := by
  obtain ⟨session, results⟩ := all
  cases results with
  | none => rfl
  | some results => rfl

/-- A node that is no leader and has peers goes through all of its entries. -/
theorem autoSync_of_peers (follows : s.judge.identity.isLeader = false)
    (configured : s.judge.identity.peers ≠ []) (session : Session) :
    s.autoSync session = conclude s.judge.identity.nodeId
      (s.synchronizeAll s.judge.identity.peers
        (session.tell (.autoSyncStarted s.judge.identity.peers.length))) := by
  have notEmpty : ¬ s.judge.identity.peers.isEmpty = true := by
    rw [List.isEmpty_iff]
    exact configured
  simp only [autoSync]
  rw [if_neg (Bool.eq_false_iff.mp follows), if_neg notEmpty]
  split
  · next ended =>
    rw [ended]
    rfl
  · next ended =>
    rw [ended]
    rfl

/-- All other nodes are done as soon as they have begun. -/
theorem autoSync_of_not_peers
    (nobody : s.judge.identity.isLeader = true ∨ s.judge.identity.peers = [])
    (session : Session) :
    s.autoSync session =
      (session.tell (.autoSyncSkipped (if s.judge.identity.isLeader then .leader else .noPeers)),
        some []) := by
  simp only [autoSync]
  split
  · rfl
  · next follows =>
    rw [nobody.resolve_left follows]
    rfl

/-- The whole session comes to an end, and the answers on the way make up where it stands then. -/
theorem exists_standing_autoSync (whole : s.cutoffMs = none) (session : Session) :
    (s.autoSync session).2.isSome ∧ ∃ calls : List Call,
      (s.autoSync session).1.standing = calls.foldl s.answer session.standing := by
  by_cases nobody : s.judge.identity.isLeader = true ∨ s.judge.identity.peers = []
  · rw [autoSync_of_not_peers nobody]
    exact ⟨rfl, [], rfl⟩
  · rw [not_or, Bool.not_eq_true] at nobody
    obtain ⟨follows, configured⟩ := nobody
    let begun := session.tell (.autoSyncStarted s.judge.identity.peers.length)
    obtain ⟨_, _, results, _, _⟩ :=
      synchronizeAll_rounds whole configured s.judge.identity.peers begun
    rw [autoSync_of_peers follows configured, standing_conclude]
    exact ⟨by rw [results]; rfl, standing_synchronizeAll whole configured _ begun⟩

/-- A node leaves one of the things behind that it may leave behind. -/
theorem leaves_autoSync (whole : s.cutoffMs = none) (l : Ledger) (atMs : Nat) :
    s.Leaves l atMs ((s.leavingAt atMs).autoSync (.start l)).1 := by
  by_cases nobody : s.judge.identity.isLeader = true ∨ s.judge.identity.peers = []
  · have ends := autoSync_of_not_peers nobody (.start l)
    have left := @autoSync_of_not_peers (s.leavingAt atMs) nobody (.start l)
    have same : (s.leavingAt atMs).autoSync (.start l) = s.autoSync (.start l) :=
      left.trans ends.symm
    rw [same]
    refine .finished ?_
    rw [ends]
    exact Nat.zero_le _
  · rw [not_or, Bool.not_eq_true] at nobody
    obtain ⟨follows, configured⟩ := nobody
    let begun := (Session.start l).tell (.autoSyncStarted s.judge.identity.peers.length)
    have ends := autoSync_of_peers follows configured (.start l)
    have left : (s.leavingAt atMs).autoSync (.start l) = conclude s.judge.identity.nodeId
        ((s.leavingAt atMs).synchronizeAll s.judge.identity.peers begun) :=
      @autoSync_of_peers (s.leavingAt atMs) follows configured (.start l)
    obtain ⟨same, bound⟩ | ⟨peer, p, call, underway, waits, dropped⟩ :=
      @synchronizeAll_leavingAt s atMs begun whole configured s.judge.identity.peers
        (Nat.zero_le _)
    · rw [left, same, ← ends]
      refine .finished ?_
      have clock := congrArg Standing.elapsedMs
        (standing_conclude s.judge.identity.nodeId (s.synchronizeAll s.judge.identity.peers begun))
      rw [ends]
      exact Nat.le_trans (Nat.le_of_eq clock) bound
    · rw [left, dropped]
      exact .waiting follows underway waits

/-- What was answered on the way is the beginning of what is answered in the whole session, and the
request that is made next is the next one of it. -/
theorem Underway.standing {entries : List String} (underway : s.Underway entries session peer p)
    (whole : s.cutoffMs = none) (configured : s.judge.identity.peers ≠ [])
    (asks : s.request? peer p = some call) :
    ∃ calls more : List Call, p.session.standing = calls.foldl s.answer session.standing ∧
      (s.synchronizeAll entries session).1.standing =
        (call :: more).foldl s.answer p.session.standing := by
  induction underway with
  | @visit entry peer rest session p chosen leads =>
    obtain ⟨calls, onTheWay⟩ := leads.standing whole
    obtain ⟨after, outcome, run, _⟩ := exists_synchronize whole configured entry session
    obtain ⟨more, atTheEnd⟩ := (leads.ended (leads_catchUp s peer _)).standing_ended whole asks
    obtain ⟨others, later⟩ := standing_synchronizeAll whole configured rest
      (after.tellAll (report entry outcome).toList)
    rw [standing_of_asks asks] at onTheWay atTheEnd
    rw [← synchronize_eq chosen, run] at atTheEnd
    refine ⟨calls, more ++ others, onTheWay, ?_⟩
    rw [synchronizeAll_cons run, ← List.cons_append, List.foldl_append, ← atTheEnd]
    exact later
  | @later entry peer rest session after outcome p run underway ih =>
    obtain ⟨calls, more, onTheWay, atTheEnd⟩ := ih asks
    obtain ⟨_, _, again, first, stands⟩ := exists_synchronize whole configured entry session
    obtain ⟨rfl, _⟩ := Prod.mk.inj (again.symm.trans run)
    refine ⟨first ++ calls, more, ?_, ?_⟩
    · rw [List.foldl_append, ← stands]
      exact onTheWay
    · rw [synchronizeAll_cons run]
      exact atTheEnd

/-! What answers add up to. -/

theorem calls_foldl_answer (calls : List Call) (standing : Standing) :
    (calls.foldl s.answer standing).calls = standing.calls ++ calls := by
  induction calls generalizing standing with
  | nil => exact (List.append_nil _).symm
  | cons call calls ih =>
    rw [List.foldl_cons, ih]
    exact List.append_assoc _ _ _

theorem elapsedMs_foldl_answer (calls : List Call) (standing : Standing) :
    standing.elapsedMs ≤ (calls.foldl s.answer standing).elapsedMs := by
  induction calls generalizing standing with
  | nil => exact Nat.le_refl _
  | cons call calls ih =>
    have first : standing.elapsedMs ≤ (s.answer standing call).elapsedMs := Nat.le_add_right _ _
    exact Nat.le_trans first (ih _)

/-- Whatever each acceptance preserves, all answers preserve. -/
theorem foldl_answer_preserves {P : Ledger → Prop}
    (accepts : ∀ l block, P l → P (l.accept s.judge block).ledger) (calls : List Call)
    {standing : Standing} (h : P standing.ledger) :
    P (calls.foldl s.answer standing).ledger := by
  have acceptsAll : ∀ (blocks : List Block) (l : Ledger), P l → P (l.acceptAll s.judge blocks) := by
    intro blocks
    induction blocks with
    | nil => exact fun l h => h
    | cons block rest ih => exact fun l h => ih _ (accepts l block h)
  induction calls generalizing standing with
  | nil => exact h
  | cons call calls ih => exact ih (acceptsAll _ _ h)

/-- Sooner or later: of two points in the same session the one with fewer answers comes first. -/
theorem standingAfter_le (l : Ledger) {fewer more : Nat} (inOrder : fewer ≤ more) :
    ∃ calls : List Call,
      s.standingAfter l more = calls.foldl s.answer (s.standingAfter l fewer) := by
  refine ⟨((s.autoSync (.start l)).1.calls.take more).drop fewer, ?_⟩
  have first : (s.autoSync (.start l)).1.calls.take fewer =
      ((s.autoSync (.start l)).1.calls.take more).take fewer := by
    rw [List.take_take, Nat.min_eq_left inOrder]
  rw [standingAfter, standingAfter, ← List.foldl_append, first, List.take_append_drop]

/-- In the end everything is answered. -/
theorem standing_autoSync (whole : s.cutoffMs = none) (l : Ledger) :
    (s.autoSync (.start l)).1.standing =
      s.standingAfter l (s.autoSync (.start l)).1.calls.length := by
  obtain ⟨_, calls, stands⟩ := exists_standing_autoSync whole (.start l)
  have all : (s.autoSync (.start l)).1.calls = calls :=
    (congrArg Standing.calls stands).trans (calls_foldl_answer calls _)
  rw [standingAfter, List.take_length, all, stands]

theorem elapsedMs_standingAfter_le (l : Ledger) {fewer more : Nat} (inOrder : fewer ≤ more) :
    (s.standingAfter l fewer).elapsedMs ≤ (s.standingAfter l more).elapsedMs := by
  obtain ⟨calls, later⟩ := @standingAfter_le s l fewer more inOrder
  rw [later]
  exact elapsedMs_foldl_answer calls _

/-- A node that is on its way from the start stands where the whole session stands after the answers
to the requests so far, and makes the next request of it. -/
theorem Underway.standingAfter {l : Ledger}
    (underway : s.Underway s.judge.identity.peers
      ((Session.start l).tell (.autoSyncStarted s.judge.identity.peers.length)) peer p)
    (whole : s.cutoffMs = none) (follows : s.judge.identity.isLeader = false)
    (asks : s.request? peer p = some call) :
    p.session.calls ++ [call] <+: (s.autoSync (.start l)).1.calls ∧
      s.standingAfter l p.session.calls.length = p.session.standing ∧
      s.standingAfter l (p.session.calls.length + 1) = s.answer p.session.standing call := by
  have configured : s.judge.identity.peers ≠ [] := by
    intro none
    rw [none] at underway
    cases underway
  obtain ⟨calls, more, onTheWay, atTheEnd⟩ := underway.standing whole configured asks
  obtain rfl : p.session.calls = calls :=
    (congrArg Standing.calls onTheWay).trans (calls_foldl_answer calls _)
  have all : (s.autoSync (.start l)).1.calls = p.session.calls ++ [call] ++ more := by
    have ends := congrArg Standing.calls
      (standing_conclude s.judge.identity.nodeId (s.synchronizeAll s.judge.identity.peers
        ((Session.start l).tell (.autoSyncStarted s.judge.identity.peers.length))))
    rw [← autoSync_of_peers follows configured, atTheEnd, calls_foldl_answer] at ends
    rw [List.append_assoc]
    exact ends
  have before : (s.autoSync (.start l)).1.calls.take p.session.calls.length = p.session.calls := by
    rw [all, List.append_assoc, List.take_left]
  have after : (s.autoSync (.start l)).1.calls.take (p.session.calls.length + 1) =
      p.session.calls ++ [call] := by
    rw [all]
    exact List.take_left' (List.length_append.trans rfl)
  have here : p.session.calls.foldl s.answer (Session.start l).standing = p.session.standing :=
    onTheWay.symm
  refine ⟨⟨more, all.symm⟩, ?_, ?_⟩
  · rw [Synchronizer.standingAfter, before, here]
  · rw [Synchronizer.standingAfter, after, List.foldl_append, here]
    rfl

namespace Leaves

variable {l : Ledger} {left : Session}

/-- Wherever a node leaves, all answers that are there in time are processed, and no others. -/
theorem exists_leftAfter (leaves : s.Leaves l atMs left) (whole : s.cutoffMs = none) :
    ∃ answers, s.LeftAfter l atMs left answers := by
  cases leaves with
  | unbegun atOnce =>
    refine ⟨0, Nat.zero_le _, rfl, ?_, ?_, List.nil_prefix, Nat.zero_le _⟩
    · intro earlier none
      obtain rfl := Nat.le_zero.mp none
      exact Nat.zero_le _
    · intro later _ _
      rw [atOnce]
      exact Nat.zero_le _
  | finished finishes =>
    have ends := standing_autoSync whole l
    refine ⟨_, Nat.le_refl _, congrArg Standing.ledger ends, ?_, ?_, List.prefix_rfl,
      Nat.le_succ _⟩
    · intro earlier bound
      refine Nat.le_trans (elapsedMs_standingAfter_le l bound) ?_
      rw [← ends]
      exact finishes
    · intro later beyond within
      exact absurd within (Nat.not_le.mpr beyond)
  | @waiting peer p call follows underway waits =>
    obtain ⟨calls, here, next⟩ := underway.standingAfter whole follows waits.asks
    have count := calls.length_le
    rw [List.length_append] at count
    refine ⟨p.session.calls.length, Nat.le_trans (Nat.le_add_right _ _) count,
      congrArg Standing.ledger here.symm, ?_, ?_, calls, ?_⟩
    · intro earlier bound
      refine Nat.le_trans (elapsedMs_standingAfter_le l bound) ?_
      rw [here]
      exact waits.since
    · intro later beyond _
      refine Nat.le_trans ?_ (elapsedMs_standingAfter_le l beyond)
      rw [next]
      exact waits.late
    · exact Nat.le_of_eq List.length_append

end Leaves

/-- Whatever each acceptance preserves is true of what is left behind. -/
theorem LeftAfter.preserves {l : Ledger} {left : Session} {answers : Nat}
    (after : s.LeftAfter l atMs left answers) {P : Ledger → Prop}
    (accepts : ∀ l block, P l → P (l.accept s.judge block).ledger) (h : P l) : P left.ledger := by
  rw [after.ledger]
  exact foldl_answer_preserves accepts _ h

/-- What is left behind goes on in what there would have been. -/
theorem LeftAfter.chain_prefix {l : Ledger} {left : Session} {answers : Nat}
    (after : s.LeftAfter l atMs left answers) (whole : s.cutoffMs = none) :
    left.ledger.chain <+: (s.autoSync (.start l)).1.ledger.chain := by
  obtain ⟨calls, later⟩ := @standingAfter_le s l _ _ after.within
  have ends := congrArg Standing.ledger (standing_autoSync whole l)
  have grows : (s.standingAfter l answers).ledger.chain <+:
      (calls.foldl s.answer (s.standingAfter l answers)).ledger.chain := by
    refine foldl_answer_preserves
      (P := fun reached => (s.standingAfter l answers).ledger.chain <+: reached.chain) ?_ calls
      List.prefix_rfl
    intro reached block grown
    exact grown.trans (Ledger.chain_prefix_perform s.judge reached (.accept block))
  rw [after.ledger]
  rw [← later, ← ends] at grows
  exact grows

/-- What is accepted leaves a chain valid. -/
theorem isValid_accept {judge : Judge} {l : Ledger} (valid : judge.isValid l.chain = true)
    (block : Block) : judge.isValid (l.accept judge block).ledger.chain = true := by
  cases judged : judge.follows l.head block with
  | error reason =>
    rw [Ledger.accept_of_error judged]
    exact valid
  | ok _ =>
    rw [Ledger.accept_of_ok judged]
    exact Judge.isValid_append_of_follows valid judged

/-- A node that stops may leave a synchronisation at any time.

The synchronisation by itself comes to an end, and its ledger is then what all its answers add up
to. A node that stops at some time leaves the ledger behind that the synchronisation by itself has
after some number of answers, the chain and what waits alike. The answers that are there before that
time are all among these, and none that comes later is. The requests are those that the
synchronisation makes first, and of them at most the last one goes unanswered. So the chain begins
as it was and goes on in the chain that there would have been. It is linked, numbered, valid in the
eyes of the node and one that a node can come to have, if it was before.

Whatever is left behind when the program is told to stop at that time is meant here. -/
theorem startUp_leaves (whole : s.cutoffMs = none) (l : Ledger) (atMs : Nat) :
    let full := s.autoSync (.start l)
    full.2.isSome ∧
      full.1.standing = s.standingAfter l full.1.calls.length ∧
      (∃ left, s.Leaves l atMs left ∧
        (s.leavingAt atMs).startUp (.start l) = { left with elapsedMs := atMs }) ∧
      ∀ left, s.Leaves l atMs left →
        (∃ answers, s.LeftAfter l atMs left answers) ∧
        l.chain <+: left.ledger.chain ∧ left.ledger.chain <+: full.1.ledger.chain ∧
        (Ledger.Reachable s.judge l → Ledger.Reachable s.judge left.ledger) ∧
        (Linked s.judge.crypto l.chain → Linked s.judge.crypto left.ledger.chain) ∧
        (Numbered l.chain → left.ledger.chain.length ≤ UInt64.size →
          Numbered left.ledger.chain) ∧
        (s.judge.isValid l.chain = true → s.judge.isValid left.ledger.chain = true) := by
  intro full
  refine ⟨(exists_standing_autoSync whole _).1, standing_autoSync whole l,
    ⟨_, leaves_autoSync whole l atMs, rfl⟩, ?_⟩
  intro left leaves
  obtain ⟨answers, after⟩ := leaves.exists_leftAfter whole
  refine ⟨⟨answers, after⟩, ?_, after.chain_prefix whole, ?_, ?_, ?_, ?_⟩
  · refine after.preserves (P := fun reached => l.chain <+: reached.chain) ?_ List.prefix_rfl
    intro reached block grown
    exact grown.trans (Ledger.chain_prefix_perform s.judge reached (.accept block))
  · exact after.preserves fun reached block reachable => reachable.perform (.accept block)
  · refine after.preserves (P := fun reached => Linked s.judge.crypto reached.chain) ?_
    intro reached block linked
    exact Ledger.linked_perform linked (.accept block)
  · intro numbered
    refine after.preserves
      (P := fun reached => reached.chain.length ≤ UInt64.size → Numbered reached.chain) ?_
      fun _ => numbered
    intro reached block numbered room
    have grown := Ledger.chain_prefix_perform s.judge reached (.accept block)
    have before := numbered (Nat.le_trans grown.length_le room)
    exact @Ledger.numbered_perform s.judge reached before (.accept block) room
  · refine after.preserves (P := fun reached => s.judge.isValid reached.chain = true) ?_
    intro reached block valid
    exact isValid_accept valid block

end Synchronizer

/-! A follower whose leader has a block for it, and takes ten milliseconds for each answer. -/

namespace Sample

/-- The leader, as it answers. -/
def slowLeader : ScriptedPeer := { ScriptedPeer.empty with blocks := [sealedBlock], delayMs := 10 }

/-- The follower, that synchronises on its own. -/
def patient : Synchronizer :=
  ⟨⟨.standard, follower.withPeers ["node-1"]⟩, .standard,
    ScriptedPeer.transport fun _ => slowLeader, none⟩

end Sample

/-- After fifteen milliseconds the follower knows the head of the leader and waits for the block. -/
theorem Synchronizer.startUp_leaves_of_slowLeader :
    let s := Sample.patient
    let l := Ledger.fresh .standard
    let left := (s.leavingAt 15).startUp (.start l)
    s.cutoffMs = none ∧ left.calls = [.head "node-1", .blocks "node-1" 1 100] ∧
      left.ledger = (s.standingAfter l 1).ledger ∧
      left.ledger.chain <+: (s.autoSync (.start l)).1.ledger.chain := by
  intro s l left
  have calls : left.calls = [.head "node-1", .blocks "node-1" 1 100] := by decide +kernel
  obtain ⟨_, _, ⟨session, leaves, isLeft⟩, all⟩ :=
    Synchronizer.startUp_leaves (s := s) rfl l 15
  obtain ⟨⟨answers, after⟩, _, grown, _⟩ := all session leaves
  have same : session.calls = left.calls := (congrArg Session.calls isLeft).symm
  have ledger : left.ledger = session.ledger := (congrArg Session.ledger isLeft).trans rfl
  have pending := after.pending
  have asked := after.calls
  rw [same, calls] at pending asked
  obtain ⟨rest, whole⟩ := asked
  have second : (s.standingAfter l 2).elapsedMs = 20 := by
    rw [Synchronizer.standingAfter, ← whole]
    rfl
  have atMost : answers ≤ 1 := by
    refine Nat.le_of_not_lt fun more => ?_
    have inTime := after.inTime 2 more
    rw [second] at inTime
    exact absurd inTime (by decide)
  obtain rfl : answers = 1 := Nat.le_antisymm atMost (Nat.le_of_succ_le_succ pending)
  refine ⟨rfl, calls, ledger.trans after.ledger, ?_⟩
  rw [ledger]
  exact grown

end EvidenceLedger
