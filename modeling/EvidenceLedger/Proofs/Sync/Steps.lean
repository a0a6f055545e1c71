import EvidenceLedger.Proofs.Sync.Convergence

/-!
# Catching up in steps

Nobody holds on to the ledger while a node waits for a peer, nor between two blocks of a batch. So
catching up is a row of steps, and other things may happen to the ledger between them: the node
looks how high its head is, it asks for the head of the peer, it asks for a batch, or it accepts one
block. What it has learnt on the way it carries with it and does not look at again.

If nothing happens in between, the steps come to what the session comes to. What a step comes to is
said for a peer that answers from a ledger.
-/

namespace EvidenceLedger

/-- Where catching up with a peer stands between two steps. -/
inductive Phase where
  | starting
  /-- The head of the node had this height, and that of the peer is not known yet. -/
  | asking (height : UInt64)
  /-- The head of the peer had this height. The blocks are what is left of the last batch. -/
  | fetching (remote : UInt64) (progress : Progress) (blocks : List Block)
  | ended (outcome : Option SyncOutcome)

structure Pursuit where
  session : Session
  phase : Phase

namespace Pursuit

def ended (result : Session × Option SyncOutcome) : Pursuit :=
  ⟨result.1, .ended result.2⟩

def ledger (p : Pursuit) : Ledger := p.session.ledger

/-- What an operation of the ledger comes to while the node is on its way. -/
def record {α : Type} (p : Pursuit) (outcome : Outcome α) : Pursuit :=
  { p with
    session := { p.session with
      ledger := outcome.ledger
      effects := p.session.effects ++ outcome.effects } }

end Pursuit

namespace Synchronizer

def step (s : Synchronizer) (peer : String) (p : Pursuit) : Pursuit :=
  match p.phase with
  | .starting => { p with phase := .asking p.ledger.head.height }
  | .asking height =>
    match s.askHead peer p.session with
    | (session, none) => .ended (session, none)
    | (session, some (.error reason)) => .ended (fail peer (.begin height) reason session)
    | (session, some (.ok head)) =>
      if head.height ≤ height then .ended (session, some (.upToDate height))
      else
        ⟨session.tell (.syncStarted peer height head.height),
          .fetching head.height (.begin height) []⟩
  | .fetching remote progress [] =>
    if progress.current < remote then
      match s.askBlocks peer progress.current p.session with
      | (session, none) => .ended (session, none)
      | (session, some (.error reason)) => .ended (fail peer progress reason session)
      | (session, some (.ok [])) => .ended (complete progress session)
      | (session, some (.ok blocks)) => ⟨session, .fetching remote progress blocks⟩
    else .ended (complete progress p.session)
  | .fetching remote progress (block :: rest) =>
    let outcome := p.ledger.accept s.judge block
    let p := p.record outcome
    match outcome.answer with
    | .error reason => .ended (fail peer progress (.ledger reason) p.session)
    | .ok () => { p with phase := .fetching remote (progress.advance block) rest }
  | .ended _ => p

/-- Steps with nothing in between lead from one point to another. -/
inductive Leads (s : Synchronizer) (peer : String) : Pursuit → Pursuit → Prop where
  | refl (p : Pursuit) : Leads s peer p p
  | step {p q : Pursuit} (rest : Leads s peer (s.step peer p) q) : Leads s peer p q

variable {s : Synchronizer} {peer : String}

theorem Leads.trans {p q r : Pursuit} (first : s.Leads peer p q) (second : s.Leads peer q r) :
    s.Leads peer p r := by
  induction first with
  | refl => exact second
  | step _ ih => exact .step (ih second)

/-- The blocks of a batch, one after the other, come to the batch. -/
theorem leads_applyBatch (remote : UInt64) (progress : Progress) (session : Session)
    (blocks : List Block) :
    let batch := applyBatch s.judge session.ledger progress blocks
    let after : Session :=
      { session with ledger := batch.ledger, effects := session.effects ++ batch.effects }
    s.Leads peer ⟨session, .fetching remote progress blocks⟩
      (match batch.refusal with
        | some reason => .ended (fail peer batch.progress (.ledger reason) after)
        | none => ⟨after, .fetching remote batch.progress []⟩) := by
  induction blocks generalizing progress session with
  | nil =>
    simp only [applyBatch, List.append_nil]
    exact .refl _
  | cons block rest ih =>
    refine .step ?_
    cases judged : s.judge.follows session.ledger.head block with
    | error reason =>
      simp only [step, Pursuit.ledger, Pursuit.record, applyBatch, Ledger.accept_of_error judged]
      exact .refl _
    | ok _ =>
      have later := ih (progress.advance block)
        { session with
          ledger := (session.ledger.accept s.judge block).ledger
          effects := session.effects ++ (session.ledger.accept s.judge block).effects }
      simp only [step, Pursuit.ledger, Pursuit.record, applyBatch, Ledger.accept_of_ok judged,
        List.append_assoc] at later ⊢
      exact later

theorem leads_fetch (remote : UInt64) (rounds : Nat) (progress : Progress) (session : Session)
    (current : progress.current = session.ledger.head.height)
    (enough : remote.toNat - progress.current.toNat ≤ rounds) :
    s.Leads peer ⟨session, .fetching remote progress []⟩
      (.ended (s.fetch peer remote rounds progress session)) := by
  -- As in the session itself, a round is only used up where the chain grows.
  induction rounds generalizing progress session with
  | zero =>
    have reached : ¬progress.current < remote := by
      rw [UInt64.lt_iff_toNat_lt]
      omega
    refine .step ?_
    simp only [step, fetch, if_neg reached]
    exact .refl _
  | succ rounds ih =>
    by_cases behind : progress.current < remote
    · refine .step ?_
      have sameLedger := (@askBlocks_spec s peer progress.current session).1
      rcases asked : s.askBlocks peer progress.current session with
        ⟨session', _ | reason | _ | ⟨block, rest⟩⟩
      · simp only [step, fetch, if_pos behind, asked]
        exact .refl _
      · simp only [step, fetch, if_pos behind, asked]
        exact .refl _
      · simp only [step, fetch, if_pos behind, asked]
        exact .refl _
      · rw [asked] at sameLedger
        have current' : progress.current = session'.ledger.head.height := by
          rw [current, sameLedger]
        obtain ⟨_, counted, _⟩ :=
          applyBatch_spec s.judge session'.ledger progress (block :: rest) current'
        have batch := @leads_applyBatch s peer remote progress session' (block :: rest)
        simp only [step, fetch, if_pos behind, asked]
        refine batch.trans ?_
        cases refusal : (applyBatch s.judge session'.ledger progress (block :: rest)).refusal with
        | some reason => exact .refl _
        | none =>
          have closer := applyBatch_closer current' (List.cons_ne_nil block rest) refusal behind
          exact ih _ _ (congrArg Progress.current counted)
            (Nat.le_of_lt_succ (Nat.lt_of_lt_of_le closer enough))
    · refine .step ?_
      simp only [step, fetch, if_neg behind]
      exact .refl _

/-- Catching up is what its steps come to, if nothing happens in between. -/
theorem leads_catchUp (s : Synchronizer) (peer : String) (session : Session) :
    s.Leads peer ⟨session, .starting⟩ (.ended (s.catchUp peer session)) := by
  have sameLedger :=
    (await_spec s peer (.head peer) (s.transport.head session.calls peer) session).1
  refine .step (.step ?_)
  rcases asked : s.askHead peer session with ⟨session', _ | reason | head⟩
  · simp only [step, catchUp, asked]
    exact .refl _
  · simp only [step, catchUp, asked, Pursuit.ledger]
    exact .refl _
  · have ledger : session'.ledger = session.ledger := by
      rw [← sameLedger]
      exact congrArg (·.1.ledger) asked.symm
    simp only [step, catchUp, asked, Pursuit.ledger]
    split
    · exact .refl _
    · refine leads_fetch head.height _ (.begin session.ledger.head.height) _ ?_ (Nat.le_refl _)
      rw [ledger_tell, ledger]
      rfl

/-! What a step comes to, by the phase that it begins in. -/

variable {remote : Ledger} {p : Pursuit} {height : UInt64} {progress : Progress} {block : Block}
  {rest : List Block}

section Answered

variable (whole : s.cutoffMs = none) (answers : s.Answers peer remote)
include whole answers

theorem step_asking_of_upToDate (phase : p.phase = .asking height)
    (level : remote.head.height ≤ height) :
    ∃ after, s.step peer p = ⟨after, .ended (some (.upToDate height))⟩ ∧
      after.ledger = p.ledger := by
  obtain ⟨elapsedMs, asked⟩ := @askHead_of_whole s peer whole p.session
  rw [answers.head] at asked
  simp only [step, phase, asked]
  rw [if_pos (show remote.head.header.height ≤ _ from level)]
  exact ⟨_, rfl, rfl⟩

theorem step_asking_of_behind (phase : p.phase = .asking height)
    (behind : height < remote.head.height) :
    ∃ after, s.step peer p = ⟨after, .fetching remote.head.height (.begin height) []⟩ ∧
      after.ledger = p.ledger := by
  obtain ⟨elapsedMs, asked⟩ := @askHead_of_whole s peer whole p.session
  rw [answers.head] at asked
  simp only [step, phase, asked]
  rw [if_neg (show ¬remote.head.header.height ≤ _ from UInt64.not_le.mpr behind)]
  exact ⟨_, rfl, rfl⟩

theorem step_fetching_of_behind (phase : p.phase = .fetching height progress [])
    (behind : progress.current < height)
    (served : remote.blocksFrom (progress.current + 1) s.config.batchSize = block :: rest) :
    ∃ after, s.step peer p = ⟨after, .fetching height progress (block :: rest)⟩ ∧
      after.ledger = p.ledger := by
  obtain ⟨elapsedMs, asked⟩ := @askBlocks_of_whole s peer whole progress.current p.session
  rw [reply, answers.blocks, served] at asked
  simp only [step, phase, asked, if_pos behind]
  exact ⟨_, rfl, rfl⟩

/-- A batch of no blocks is the end. -/
theorem step_fetching_of_empty (phase : p.phase = .fetching height progress [])
    (empty : s.config.batchSize = 0) (behind : progress.current < height) :
    ∃ after report, s.step peer p = ⟨after, .ended (some report)⟩ ∧ report.synced = true ∧
      after.ledger = p.ledger := by
  obtain ⟨elapsedMs, asked⟩ := @askBlocks_of_whole s peer whole progress.current p.session
  rw [reply, answers.blocks, Ledger.blocksFrom, if_pos (.inl empty)] at asked
  simp only [step, phase, asked, if_pos behind]
  exact ⟨_, _, rfl, rfl, rfl⟩

end Answered

theorem step_fetching_of_reached (phase : p.phase = .fetching height progress [])
    (reached : ¬progress.current < height) :
    ∃ after report, s.step peer p = ⟨after, .ended (some report)⟩ ∧ report.synced = true ∧
      after.ledger = p.ledger := by
  simp only [step, phase, if_neg reached]
  exact ⟨_, _, rfl, rfl, rfl⟩

theorem step_accept_of_ok (phase : p.phase = .fetching height progress (block :: rest))
    (judged : s.judge.follows p.ledger.head block = .ok ()) :
    ∃ after, s.step peer p = ⟨after, .fetching height (progress.advance block) rest⟩ ∧
      after.ledger.chain = p.ledger.chain ++ [block] := by
  simp only [step, phase, Ledger.accept_of_ok judged]
  exact ⟨_, rfl, rfl⟩

theorem step_accept_of_error {reason : ChainViolation}
    (phase : p.phase = .fetching height progress (block :: rest))
    (judged : s.judge.follows p.ledger.head block = .error reason) :
    ∃ after, s.step peer p = ⟨after, .ended (some
        (.failed progress.applied progress.start progress.current reason.message))⟩ ∧
      after.ledger = p.ledger := by
  simp only [step, phase, Ledger.accept_of_error judged]
  exact ⟨_, rfl, rfl⟩

end Synchronizer

end EvidenceLedger
