import EvidenceLedger.Proofs.Ledger.Atomicity
import EvidenceLedger.Proofs.Ledger.Conservation
import EvidenceLedger.Proofs.Sync.Acceptance

/-!
# The audit trail replays the chain

What a node tells the rest of the world leaves it after the ledger was changed, and on another path
for each of the ways in which a block comes into the chain. Yet nothing is told that did not happen,
and nothing happens that is not told. The events of new blocks are those of the chain from the
second block on, in its order. Each submission that succeeds leaves one event, and the blocks that
are handed on are those that the node committed itself.

A journal puts the two sides next to each other: what was told, and what the callers were answered.
Three things can happen to it. A record is submitted, a block is added, or something is told that
is about neither. Each of them keeps a journal faithful, and whatever a node does is made of them.
-/

namespace EvidenceLedger

def Effect.event? : Effect → Option Event
  | .tell event => some event
  | .push _ _ => none

def Effect.push? : Effect → Option (Block × List String)
  | .tell _ => none
  | .push block peers => some (block, peers)

/-- The events under one of the names, in the order in which they were told. -/
def eventsNamed (names : List String) (effects : List Effect) : List Event :=
  (effects.filterMap Effect.event?).filter fun event => event.name ∈ names

/-- The blocks that were handed on, each with those that got it. -/
def pushes (effects : List Effect) : List (Block × List String) :=
  effects.filterMap Effect.push?

@[simp] theorem eventsNamed_append (names : List String) (before after : List Effect) :
    eventsNamed names (before ++ after) = eventsNamed names before ++ eventsNamed names after := by
  simp [eventsNamed]

@[simp] theorem pushes_append (before after : List Effect) :
    pushes (before ++ after) = pushes before ++ pushes after :=
  List.filterMap_append

/-- Height, hash and proposer, as far as the event has details of these names. -/
def Event.place (event : Event) : List (Option String) :=
  ["height", "hash", "proposer"].map fun name => event.details.lookup name

/-- Height, hash and proposer of the block, as they are written in events. -/
def Block.place (block : Block) : List (Option String) :=
  [some (Event.number block.height), some block.hash, some block.proposer]

/-- How a block came into the chain. -/
inductive Addition where
  | committed (block : Block)
  | accepted (block : Block)

namespace Addition

def block : Addition → Block
  | committed block => block
  | accepted block => block

/-- The block, if the node committed it itself. -/
def committed? : Addition → Option Block
  | committed block => some block
  | accepted _ => none

def event : Addition → Event
  | committed block => .blockCommitted block
  | accepted block => .blockAccepted block

/-- All that the block is told to the world with. -/
def effects (peers : List String) : Addition → List Effect
  | committed block => [.tell (.blockCommitted block), .push block peers]
  | accepted block => [.tell (.blockAccepted block)]

/-- The event says where the block stands. -/
theorem place_comp_event : Event.place ∘ event = Block.place ∘ block := by
  funext addition
  cases addition with
  | committed block => rfl
  | accepted block => rfl

end Addition

/-- The block that an operation gives back or takes, if it adds one. -/
def Ledger.addition? (judge : Judge) (l : Ledger) : Operation → Option Addition
  | .submit _ _ _ => none
  | .commit now => (l.commit judge now).answer.toOption.map .committed
  | .accept block => (l.accepted? judge (.accept block)).map .accepted

/-- All that an operation can come to, and what it tells then: it is refused, or it takes a record
in, or it adds a block. -/
theorem Ledger.respond_cases (judge : Judge) (l : Ledger) (op : Operation) :
    (∃ reason, l.respond judge op = ⟨l, .error reason, op.notices reason⟩ ∧
      l.submitted? op = none ∧ l.addition? judge op = none) ∨
    (∃ record mempool, l.respond judge op =
        ⟨{ l with mempool }, .ok (.submitted record), [.tell (.evidenceSubmitted record)]⟩ ∧
      l.submitted? op = some record ∧ l.addition? judge op = none) ∨
    (∃ addition mempool answer, l.respond judge op =
        ⟨l.append addition.block mempool, .ok answer, addition.effects judge.identity.peers⟩ ∧
      l.submitted? op = none ∧ l.addition? judge op = some addition) := by
  cases op with
  | submit draft newId now =>
    cases read : draft.toRecord newId now with
    | error reason =>
      have refused := submit_of_error (l := l) read
      refine .inl ⟨reason, ?_, ?_, rfl⟩
      · rw [respond, refused]
        rfl
      · rw [submitted?, refused]
        rfl
    | ok record =>
      have taken := submit_of_ok (l := l) read
      refine .inr (.inl ⟨record, l.mempool ++ [record], ?_, ?_, rfl⟩)
      · rw [respond, taken]
        rfl
      · rw [submitted?, taken]
        rfl
  | commit now =>
    obtain ⟨reason, refused⟩ | ⟨_, block, _, _, _, _, committed⟩ := commit_cases judge l now
    · refine .inl ⟨reason, ?_, rfl, ?_⟩
      · rw [respond, refused]
        rfl
      · rw [addition?, refused]
        rfl
    · refine .inr (.inr ⟨.committed block, [], .committed block, ?_, rfl, ?_⟩)
      · rw [respond, committed]
        rfl
      · rw [addition?, committed]
        rfl
  | accept block =>
    cases judged : judge.follows l.head block with
    | error reason =>
      have refused := accept_of_error judged
      refine .inl ⟨.violation reason, ?_, rfl, ?_⟩
      · rw [respond, refused]
        rfl
      · rw [addition?, accepted?, refused]
        rfl
    | ok _ =>
      have accepted := accept_of_ok judged
      refine .inr (.inr ⟨.accepted block, l.mempool.filter fun r => !block.evidences.contains r,
        .accepted, ?_, rfl, ?_⟩)
      · rw [respond, accepted]
        rfl
      · rw [addition?, accepted?, accepted]
        rfl

/-- What a node does: an operation that somebody asks for, a synchronisation with one peer, or one
with all peers on its own. Peers, clock and patience may be different each time. -/
inductive Activity where
  | operate (op : Operation)
  | synchronize (config : SyncConfig) (transport : Transport) (cutoffMs : Option Nat)
      (hint : Option String)
  | autoSync (config : SyncConfig) (transport : Transport) (cutoffMs : Option Nat)

/-- A ledger with all that was told since it was started, the records that submissions gave back,
and the blocks that were added. -/
structure Journal where
  ledger : Ledger
  effects : List Effect
  submitted : List EvidenceRecord
  additions : List Addition

namespace Journal

def start (judge : Judge) : Journal := ⟨.fresh judge.crypto, [], [], []⟩

/-- A synchronisation came to `session`. The blocks that it added were accepted. -/
def synced (j : Journal) (session : Session) : Journal where
  ledger := session.ledger
  effects := j.effects ++ session.effects
  submitted := j.submitted
  additions :=
    j.additions ++ (session.ledger.chain.drop j.ledger.chain.length).map Addition.accepted

/-- The journal after one more activity. -/
def next (judge : Judge) (j : Journal) : Activity → Journal
  | .operate op =>
    ⟨(j.ledger.respond judge op).ledger, j.effects ++ (j.ledger.respond judge op).effects,
      j.submitted ++ (j.ledger.submitted? op).toList,
      j.additions ++ (j.ledger.addition? judge op).toList⟩
  | .synchronize config transport cutoffMs hint =>
    j.synced ((Synchronizer.mk judge config transport cutoffMs).synchronize hint
      (.start j.ledger)).1
  | .autoSync config transport cutoffMs =>
    j.synced ((Synchronizer.mk judge config transport cutoffMs).autoSync (.start j.ledger)).1

def run (judge : Judge) (j : Journal) (activities : List Activity) : Journal :=
  activities.foldl (next judge) j

/-- The names of the events that new blocks leave. -/
def blockNames : List String := ["BLOCK_COMMITTED", "BLOCK_ACCEPTED"]

/-- What was told is what happened. -/
structure Faithful (judge : Judge) (j : Journal) : Prop where
  chain : j.ledger.chain = judge.crypto.genesis :: j.additions.map Addition.block
  blocks : eventsNamed blockNames j.effects = j.additions.map Addition.event
  records : eventsNamed ["EVIDENCE_SUBMITTED"] j.effects = j.submitted.map Event.evidenceSubmitted
  pushes : pushes j.effects =
    (j.additions.filterMap Addition.committed?).map fun block => (block, judge.identity.peers)

namespace Faithful

variable {judge : Judge} {j : Journal}

theorem start (judge : Judge) : Faithful judge (.start judge) := ⟨rfl, rfl, rfl, rfl⟩

/-- A record is submitted. -/
theorem submit (faithful : j.Faithful judge) (record : EvidenceRecord)
    (mempool : List EvidenceRecord) :
    Faithful judge ⟨{ j.ledger with mempool }, j.effects ++ [.tell (.evidenceSubmitted record)],
      j.submitted ++ [record], j.additions⟩ where
  chain := faithful.chain
  blocks := by
    rw [eventsNamed_append, faithful.blocks]
    exact List.append_nil _
  records := by
    rw [eventsNamed_append, faithful.records, List.map_append]
    rfl
  pushes := by
    rw [pushes_append, faithful.pushes]
    exact List.append_nil _

/-- A block is added. -/
theorem add (faithful : j.Faithful judge) (addition : Addition)
    (mempool : List EvidenceRecord) :
    Faithful judge ⟨j.ledger.append addition.block mempool,
      j.effects ++ addition.effects judge.identity.peers, j.submitted,
      j.additions ++ [addition]⟩ where
  chain := by
    rw [Ledger.chain_append, faithful.chain, List.map_append]
    rfl
  blocks := by
    rw [eventsNamed_append, faithful.blocks, List.map_append]
    cases addition with
    | committed block => rfl
    | accepted block => rfl
  records := by
    rw [eventsNamed_append, faithful.records]
    cases addition with
    | committed block => exact List.append_nil _
    | accepted block => exact List.append_nil _
  pushes := by
    rw [pushes_append, faithful.pushes, List.filterMap_append, List.map_append]
    cases addition with
    | committed block => rfl
    | accepted block => rfl

/-- Something else is told. -/
theorem tell (faithful : j.Faithful judge) {event : Event}
    (other : event.name ∉ blockNames ∧ event.name ≠ "EVIDENCE_SUBMITTED") :
    Faithful judge { j with effects := j.effects ++ [.tell event] } where
  chain := faithful.chain
  blocks := by
    rw [eventsNamed_append, faithful.blocks]
    simp [eventsNamed, Effect.event?, other.1]
  records := by
    rw [eventsNamed_append, faithful.records]
    simp [eventsNamed, Effect.event?, other.2]
  pushes := by
    rw [pushes_append, faithful.pushes]
    exact List.append_nil _

end Faithful

/-- The events that tell how a synchronisation goes have names of their own. -/
theorem name_of_isSync {event : Event} (isSync : event.IsSync) :
    event.name ∉ blockNames ∧ event.name ≠ "EVIDENCE_SUBMITTED" := by
  cases event <;> simp_all [Event.IsSync, Event.name, blockNames]

/-- So have the events of refused blocks. -/
theorem name_blockRejected (reason : ChainViolation) (block : Block) :
    (Event.blockRejected reason block).name ∉ blockNames ∧
      (Event.blockRejected reason block).name ≠ "EVIDENCE_SUBMITTED" := by
  cases reason <;> simp [Event.name, ChainViolation.eventName, blockNames]

namespace Faithful

variable {judge : Judge} {j : Journal}

/-- A refused operation tells of no record and of no block that is added. -/
theorem refuse (faithful : j.Faithful judge) (op : Operation) (reason : LedgerError) :
    Faithful judge { j with effects := j.effects ++ op.notices reason } := by
  unfold Operation.notices
  split
  · exact faithful.tell (name_blockRejected _ _)
  · rw [List.append_nil]
    exact faithful

theorem operate (faithful : j.Faithful judge) (op : Operation) :
    Faithful judge (j.next judge (.operate op)) := by
  rw [next]
  obtain ⟨reason, refused, noRecord, noBlock⟩ | ⟨record, mempool, taken, isRecord, noBlock⟩ |
    ⟨addition, mempool, answer, added, noRecord, isBlock⟩ := j.ledger.respond_cases judge op
  · simp only [refused, noRecord, noBlock, Option.toList_none, List.append_nil]
    exact faithful.refuse op reason
  · simp only [taken, isRecord, noBlock, Option.toList_none, List.append_nil]
    exact faithful.submit record mempool
  · simp only [added, noRecord, isBlock, Option.toList_none, List.append_nil]
    exact faithful.add addition mempool

/-- Whatever a synchronisation does, block by block, it keeps the journal faithful. -/
theorem keeps (j : Journal) (s : Synchronizer) :
    s.Keeps fun l effects => j.ledger.chain <+: l.chain ∧
      Faithful s.judge (j.synced ⟨l, [], effects, 0⟩) where
  tell := by
    rintro l effects event isSync ⟨grown, faithful⟩
    refine ⟨grown, ?_⟩
    have told := faithful.tell (name_of_isSync isSync)
    simp only [synced, List.append_assoc] at told ⊢
    exact told
  accept := by
    rintro l effects block - ⟨grown, faithful⟩
    cases judged : s.judge.follows l.head block with
    | error reason =>
      rw [Ledger.accept_of_error judged]
      have told := faithful.tell (name_blockRejected reason block)
      simp only [synced, List.append_assoc] at told ⊢
      exact ⟨grown, told⟩
    | ok _ =>
      rw [Ledger.accept_of_ok judged]
      refine ⟨grown.trans (List.prefix_append _ _), ?_⟩
      have added := faithful.add (.accepted block)
        (l.mempool.filter fun r => !block.evidences.contains r)
      have longer : (l.chain ++ [block]).drop j.ledger.chain.length =
          l.chain.drop j.ledger.chain.length ++ [block] :=
        List.drop_append_of_le_length grown.length_le
      simp only [synced, Ledger.chain_append, longer, List.map_append, List.append_assoc]
        at added ⊢
      exact added

/-- A journal starts faithful with a session that has not begun. -/
theorem synced_start (faithful : j.Faithful judge) :
    Faithful judge (j.synced ⟨j.ledger, [], [], 0⟩) := by
  simpa [synced] using faithful

theorem next (faithful : j.Faithful judge) (activity : Activity) :
    Faithful judge (j.next judge activity) := by
  cases activity with
  | operate op => exact faithful.operate op
  | synchronize config transport cutoffMs hint =>
    exact (Synchronizer.synchronize_keeps (keeps j ⟨judge, config, transport, cutoffMs⟩) hint
      ⟨List.prefix_rfl, faithful.synced_start⟩).2
  | autoSync config transport cutoffMs =>
    exact (Synchronizer.autoSync_keeps (keeps j ⟨judge, config, transport, cutoffMs⟩)
      ⟨List.prefix_rfl, faithful.synced_start⟩).2

theorem run (faithful : j.Faithful judge) (activities : List Activity) :
    Faithful judge (j.run judge activities) := by
  induction activities generalizing j with
  | nil => exact faithful
  | cons activity activities ih => exact ih (faithful.next activity)

end Faithful

/-- Trail and feed replay the chain, over all runs of a node that was started afresh, whatever it
does and whatever comes of that.

The chain is the first block and after it the blocks that were added, each as it was answered or
synchronised. The events of committed and accepted blocks give height, hash and proposer of all
blocks of the chain but the first, in its order. The events of submissions are those of the records
that were given back. And handed on are the blocks that the node committed itself, once each, in the
order of the chain and to all its peers. -/
theorem trail_of_run (judge : Judge) (activities : List Activity) :
    let j := run judge (.start judge) activities
    j.ledger.chain = judge.crypto.genesis :: j.additions.map Addition.block ∧
      (eventsNamed ["BLOCK_COMMITTED", "BLOCK_ACCEPTED"] j.effects).map Event.place =
        j.ledger.chain.tail.map Block.place ∧
      (eventsNamed ["EVIDENCE_SUBMITTED"] j.effects).map Event.details =
        j.submitted.map (fun record => [("evidenceId", record.evidenceId),
          ("hash", record.artifact.hash), ("createdBy", record.artifact.createdBy)]) ∧
      pushes j.effects = (j.additions.filterMap Addition.committed?).map fun block =>
        (block, judge.identity.peers) := by
  intro j
  have faithful : j.Faithful judge := (Faithful.start judge).run activities
  refine ⟨faithful.chain, ?_, ?_, faithful.pushes⟩
  · have replayed := congrArg (List.map Event.place) faithful.blocks
    rw [List.map_map, Addition.place_comp_event, ← List.map_map] at replayed
    rw [faithful.chain, List.tail_cons]
    exact replayed
  · rw [faithful.records, List.map_map]
    rfl

end Journal

end EvidenceLedger
