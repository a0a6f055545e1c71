import EvidenceLedger.Proofs.Ledger.Replication

/-!
# Refused operations

An operation can be refused at many points, some of which come after the ledger was looked at and
the next block was put together. Wherever that is, a refusal comes to the ledger as it was, and to
nothing that the rest of the world is told, but for the one event that a refused block leaves.
`respond_of_error` says so of all operations at once.

So a refused operation is missed by nobody: the operations after it are answered as if it had not
been there, and a run comes to the same with its successful operations alone.
-/

namespace EvidenceLedger

/-- What an operation gives back where it is not refused. -/
inductive Answer where
  | submitted (record : EvidenceRecord)
  | committed (block : Block)
  | accepted
deriving DecidableEq

def Outcome.map {α β : Type} (f : α → β) (o : Outcome α) : Outcome β where
  ledger := o.ledger
  answer := o.answer.map f
  effects := o.effects

theorem Outcome.answer_of_map {α β : Type} {f : α → β} {o : Outcome α} {reason : LedgerError}
    (failed : (o.map f).answer = .error reason) : o.answer = .error reason := by
  simp only [map] at failed
  cases answered : o.answer with
  | ok a =>
    rw [answered] at failed
    cases failed
  | error cause =>
    rw [answered] at failed
    exact congrArg Except.error (Except.error.inj failed)

/-- What a refused operation tells the rest of the world. -/
def Operation.notices : Operation → LedgerError → List Effect
  | .accept block, .violation violation => [.tell (.blockRejected violation block)]
  | _, _ => []

/-- No refusal hands a block on. -/
theorem Operation.notMem_notices {op : Operation} {reason : LedgerError} {block : Block}
    {peers : List String} : Effect.push block peers ∉ op.notices reason := by
  unfold notices
  split
  · intro told
    cases List.mem_singleton.mp told
  · exact List.not_mem_nil

/-- The reasons for which an operation can be refused. -/
def Operation.MayFail : Operation → LedgerError → Prop
  | .submit _ _ _, reason =>
    (∃ algorithm, reason = .unsupportedAlgorithm algorithm) ∨
      ∃ length, reason = .malformedHash length
  | .commit _, reason =>
    (∃ nodeId, reason = .notLeader nodeId) ∨ reason = .missingPrivateKey ∨
      reason = .mempoolEmpty ∨ ∃ cause, reason = .signing cause
  | .accept _, reason => ∃ violation, reason = .violation violation

namespace Ledger

/-- What an operation comes to. -/
def respond (judge : Judge) (l : Ledger) : Operation → Outcome Answer
  | .submit draft newId now => (l.submit draft newId now).map .submitted
  | .commit now => (l.commit judge now).map .committed
  | .accept block => (l.accept judge block).map fun _ => .accepted

/-- What the operations of a run come to, one after the other. -/
def trace (judge : Judge) (l : Ledger) : List Operation → List (Outcome Answer)
  | [] => []
  | op :: operations => l.respond judge op :: trace judge (l.perform judge op) operations

/-- The operations of a run that are not refused. -/
def successes (judge : Judge) (l : Ledger) : List Operation → List Operation
  | [] => []
  | op :: operations =>
    let later := successes judge (l.perform judge op) operations
    if (l.respond judge op).answer.isOk then op :: later else later

variable {judge : Judge} {l : Ledger} {op : Operation} {reason : LedgerError}

@[simp] theorem ledger_respond (judge : Judge) (l : Ledger) (op : Operation) :
    (l.respond judge op).ledger = l.perform judge op := by
  cases op with
  | submit draft newId now => rw [respond, Outcome.map, perform]
  | commit now => rw [respond, Outcome.map, perform]
  | accept block => rw [respond, Outcome.map, perform]

@[simp] theorem trace_nil (judge : Judge) (l : Ledger) : l.trace judge [] = [] := rfl

@[simp] theorem trace_cons (judge : Judge) (l : Ledger) (op : Operation)
    (operations : List Operation) :
    l.trace judge (op :: operations) =
      l.respond judge op :: (l.perform judge op).trace judge operations := rfl

theorem run_append (judge : Judge) (l : Ledger) (before after : List Operation) :
    run judge l (before ++ after) = run judge (run judge l before) after :=
  List.foldl_append

theorem trace_append (judge : Judge) (l : Ledger) (before after : List Operation) :
    l.trace judge (before ++ after) =
      l.trace judge before ++ (run judge l before).trace judge after := by
  induction before generalizing l with
  | nil => rfl
  | cons op before ih =>
    rw [List.cons_append, trace_cons, ih, trace_cons, run_cons, List.cons_append]

@[simp] theorem length_trace (judge : Judge) (l : Ledger) (operations : List Operation) :
    (l.trace judge operations).length = operations.length := by
  induction operations generalizing l with
  | nil => rfl
  | cons op operations ih => rw [trace_cons, List.length_cons, ih, List.length_cons]

theorem toRecord_mayFail {draft : EvidenceDraft} {newId : String} {now : Timestamp}
    (failed : draft.toRecord newId now = .error reason) :
    (Operation.submit draft newId now).MayFail reason := by
  simp only [EvidenceDraft.toRecord, checkAlgorithm, checkHash] at failed
  split at failed
  · split at failed
    · cases failed
    · obtain rfl := Except.error.inj failed
      exact .inr ⟨_, rfl⟩
  · obtain rfl := Except.error.inj failed
    exact .inl ⟨_, rfl⟩

/-- Evidence that is refused has not made a record. -/
theorem submit_eq_refuse {draft : EvidenceDraft} {newId : String} {now : Timestamp}
    (failed : (l.submit draft newId now).answer = .error reason) :
    l.submit draft newId now = l.refuse reason ∧ draft.toRecord newId now = .error reason := by
  cases made : draft.toRecord newId now with
  | ok record =>
    rw [submit_of_ok made] at failed
    cases failed
  | error cause =>
    rw [submit_of_error made] at failed ⊢
    obtain rfl := Except.error.inj failed
    exact ⟨rfl, rfl⟩

theorem commit_mayFail {now : Timestamp} (failed : (l.commit judge now).answer = .error reason) :
    (Operation.commit now).MayFail reason := by
  unfold commit at failed
  split at failed
  · obtain rfl := Except.error.inj failed
    exact .inl ⟨_, rfl⟩
  · split at failed
    · obtain rfl := Except.error.inj failed
      exact .inr (.inl rfl)
    · split at failed
      · obtain rfl := Except.error.inj failed
        exact .inr (.inr (.inl rfl))
      · split at failed
        · obtain rfl := Except.error.inj failed
          exact .inr (.inr (.inr ⟨_, rfl⟩))
        · cases failed

/-- A commit that fails is refused, also where its block was put together already. -/
theorem commit_eq_refuse {now : Timestamp} (failed : (l.commit judge now).answer = .error reason) :
    l.commit judge now = l.refuse reason := by
  obtain ⟨cause, refused⟩ | ⟨_, block, _, _, _, _, committed⟩ := commit_cases judge l now
  · rw [refused] at failed
    obtain rfl := Except.error.inj failed
    exact refused
  · rw [committed] at failed
    cases failed

/-- All that a refusal comes to: the ledger as it was, the reason, and at most a notice. -/
theorem respond_of_error (failed : (l.respond judge op).answer = .error reason) :
    l.respond judge op = ⟨l, .error reason, op.notices reason⟩ ∧ op.MayFail reason := by
  cases op with
  | submit draft newId now =>
    have refused : (l.submit draft newId now).answer = .error reason := Outcome.answer_of_map failed
    obtain ⟨same, made⟩ := submit_eq_refuse refused
    rw [respond, same]
    exact ⟨rfl, toRecord_mayFail made⟩
  | commit now =>
    have refused : (l.commit judge now).answer = .error reason := Outcome.answer_of_map failed
    rw [respond, commit_eq_refuse refused]
    exact ⟨rfl, commit_mayFail refused⟩
  | accept block =>
    cases judged : judge.follows l.head block with
    | ok _ =>
      rw [respond, accept_of_ok judged] at failed
      cases failed
    | error violation =>
      rw [respond, accept_of_error judged] at failed ⊢
      obtain rfl := Except.error.inj failed
      exact ⟨rfl, violation, rfl⟩

theorem perform_of_error (failed : (l.respond judge op).answer = .error reason) :
    l.perform judge op = l := by
  rw [← ledger_respond, (respond_of_error failed).1]

/-- Refused operations can be left out of a run, wherever they stand. -/
theorem run_successes (judge : Judge) (l : Ledger) (operations : List Operation) :
    run judge l (l.successes judge operations) = run judge l operations := by
  induction operations generalizing l with
  | nil => rfl
  | cons op operations ih =>
    rw [successes, run_cons, ← ih]
    cases answered : (l.respond judge op).answer with
    | ok answer => rfl
    | error reason => rw [perform_of_error answered]; rfl

/-- Without the refused operations the others are answered as they were. -/
theorem trace_successes (judge : Judge) (l : Ledger) (operations : List Operation) :
    l.trace judge (l.successes judge operations) =
      (l.trace judge operations).filter (·.answer.isOk) := by
  induction operations generalizing l with
  | nil => rfl
  | cons op operations ih =>
    rw [successes, trace_cons, List.filter_cons, ← ih]
    cases answered : (l.respond judge op).answer with
    | ok answer => rfl
    | error reason => rw [perform_of_error answered]; rfl

/-- A refused operation is atomic, whatever happened before it, whichever operation it is and for
whichever of the reasons it is refused. Chain and waiting evidence are as before, and no block is
handed to anybody. A refused submission or commit leaves no event. A refused block leaves one, which
has the name and the message of the reason, says which block it was and counts as an error. And
the operations after it are answered, and come to the same, as without it. -/
theorem atomic_of_error (judge : Judge) (before : List Operation) (op : Operation)
    (reason : LedgerError) :
    let l := run judge (fresh judge.crypto) before
    let outcome := l.respond judge op
    outcome.answer = .error reason →
      outcome.ledger.chain = l.chain ∧ outcome.ledger.mempool = l.mempool ∧
      (∀ block peers, Effect.push block peers ∉ outcome.effects) ∧
      op.MayFail reason ∧
      (match op with
        | .submit _ _ _ => outcome.effects = []
        | .commit _ => outcome.effects = []
        | .accept block => ∃ violation event, reason = .violation violation ∧
          outcome.effects = [.tell event] ∧ event.name = violation.eventName ∧
          event.message? = some reason.message ∧ event.logLine.isError = true ∧
          event.details =
            [("height", Event.number block.height), ("proposer", block.proposer)]) ∧
      ∀ after,
        run judge (fresh judge.crypto) (before ++ op :: after) =
          run judge (fresh judge.crypto) (before ++ after) ∧
        trace judge (fresh judge.crypto) (before ++ op :: after) =
          trace judge (fresh judge.crypto) before ++ outcome :: trace judge l after ∧
        trace judge (fresh judge.crypto) (before ++ after) =
          trace judge (fresh judge.crypto) before ++ trace judge l after := by
  intro l outcome failed
  obtain ⟨same, mayFail⟩ := respond_of_error failed
  have ledger : outcome.ledger = l := congrArg Outcome.ledger same
  have effects : outcome.effects = op.notices reason := congrArg Outcome.effects same
  refine ⟨congrArg chain ledger, congrArg mempool ledger, ?_, mayFail, ?_, ?_⟩
  · intro block peers told
    rw [effects] at told
    exact Operation.notMem_notices told
  · cases op with
    | submit draft newId now => exact effects
    | commit now => exact effects
    | accept block =>
      obtain ⟨violation, rfl⟩ := mayFail
      exact ⟨violation, _, rfl, effects, rfl, rfl, rfl, rfl⟩
  · intro after
    refine ⟨?_, ?_, trace_append judge _ before after⟩
    · rw [run_append, run_cons, perform_of_error failed, ← run_append]
    · rw [trace_append, trace_cons, perform_of_error failed]

/-- A node in which evidence waits refuses a block that its own ledger begins with. It goes on as if
it had not got the block. -/
theorem atomic_of_stale_block :
    let before : List Operation := [.submit Sample.draft "ev-1" .genesis]
    let block := Sample.judge.crypto.genesis
    let l := run Sample.judge (fresh Sample.judge.crypto) before
    let outcome := l.respond Sample.judge (.accept block)
    outcome.answer = .error (.violation (.heightMismatch 1 0)) ∧
      outcome.ledger.mempool = [Sample.record] ∧
      (∃ event, outcome.effects = [.tell event] ∧ event.name = "INVALID_BLOCK_HEIGHT" ∧
        event.message? = some "Invalid height: expected 1, received 0") ∧
      run Sample.judge (fresh Sample.judge.crypto) (before ++ [.accept block, .commit .genesis]) =
        Sample.waiting.append Sample.sealedBlock [] := by
  intro before block l outcome
  have isRun : l = Sample.waiting := Sample.perform_submit
  have judged : Sample.judge.follows l.head block = .error (.heightMismatch 1 0) := by
    rw [isRun]
    rfl
  have refused : l.accept Sample.judge block =
      ⟨l, .error (.violation (.heightMismatch 1 0)), [.tell (.blockRejected _ block)]⟩ :=
    accept_of_error judged
  have failed : outcome.answer = .error (.violation (.heightMismatch 1 0)) :=
    congrArg (fun o => (o.map fun _ => Answer.accepted).answer) refused
  obtain ⟨_, mempool, _, _, ⟨violation, event, same, told, name, message, _⟩, goesOn⟩ :=
    atomic_of_error Sample.judge before (.accept block) _ failed
  obtain rfl := LedgerError.violation.inj same
  refine ⟨failed, mempool.trans (congrArg Ledger.mempool isRun),
    ⟨event, told, name, message.trans (by decide)⟩, ?_⟩
  · rw [(goesOn [.commit .genesis]).1, run_append, run_cons, run_nil]
    show (l.perform Sample.judge (.commit .genesis)) = _
    rw [isRun]
    exact Sample.perform_commit

end Ledger

end EvidenceLedger
