import EvidenceLedger.Sync.Outcome
import EvidenceLedger.Sync.Transport

/-!
# Synchronising with peers

To catch up with a peer a node asks for the peer's head and, as long as its own chain is lower
than that, for the next batch of blocks. Each block goes through the same acceptance as one
that was pushed, and the first refusal ends the synchronisation; so does a request that fails
or is not answered in time. A peer that serves nothing more ends it too, but in peace. What
was applied stays.

The height that the peer reports bounds the number of batches, whatever it serves: a batch is
empty, holds a refused block, or raises the chain.

A session is the course of it all: the ledger, the calls, what was told to the world, and how
much time has gone by. A session may be abandoned at some time. Then the request that is under
way is never answered, and nothing comes of the session but what it has done.
-/

namespace EvidenceLedger

/-- The course of a synchronisation. -/
structure Session where
  ledger : Ledger
  calls : List Call
  effects : List Effect
  elapsedMs : Nat

namespace Session

def start (ledger : Ledger) : Session := ⟨ledger, [], [], 0⟩

def tell (s : Session) (event : Event) : Session :=
  { s with effects := s.effects ++ [.tell event] }

end Session

/-- Who synchronises, how, and until when. -/
structure Synchronizer where
  judge : Judge
  config : SyncConfig
  transport : Transport
  /-- When the session is abandoned. -/
  cutoffMs : Option Nat

/-- How far catching up with a peer has come. -/
structure Progress where
  start : UInt64
  current : UInt64
  applied : UInt64
deriving DecidableEq

namespace Progress

def begin (height : UInt64) : Progress := ⟨height, height, 0⟩

def advance (p : Progress) (block : Block) : Progress :=
  { p with current := block.height, applied := p.applied + 1 }

@[simp] theorem advance_start (p : Progress) (block : Block) : (p.advance block).start = p.start :=
  rfl

end Progress

/-- What comes of a batch of blocks. -/
structure Batch where
  ledger : Ledger
  effects : List Effect
  progress : Progress
  /-- Why the rest of the batch was left aside. -/
  refusal : Option LedgerError

/-- Accept the blocks of a batch up to the first that is refused. -/
def applyBatch (judge : Judge) (ledger : Ledger) (progress : Progress) : List Block → Batch
  | [] => ⟨ledger, [], progress, none⟩
  | block :: rest =>
    let outcome := ledger.accept judge block
    match outcome.answer with
    | .error reason => ⟨outcome.ledger, outcome.effects, progress, some reason⟩
    | .ok () =>
      let batch := applyBatch judge outcome.ledger (progress.advance block) rest
      { batch with effects := outcome.effects ++ batch.effects }

namespace Synchronizer

/-- Wait for the answer to a call, no longer than a request may take. What arrives in time is
handed on as it is. There is no answer at all if the session is abandoned before. -/
def await {α : Type} (s : Synchronizer) (peer : String) (call : Call)
    (answer : Timed (Except SyncError α)) (session : Session) :
    Session × Option (Except SyncError α) :=
  let limit := s.config.requestTimeoutMs.toNat
  let session := { session with calls := session.calls ++ [call] }
  let done := session.elapsedMs + min answer.afterMs limit
  if s.cutoffMs.any (· < done) then (session, none)
  else
    let session := { session with elapsedMs := done }
    if limit < answer.afterMs then (session, some (.error (.timeout peer limit)))
    else (session, some answer.value)

def askHead (s : Synchronizer) (peer : String) (session : Session) :
    Session × Option (Except SyncError BlockHeader) :=
  s.await peer (.head peer) (s.transport.head session.calls peer) session

/-- Ask a peer for the blocks after the given height. -/
def askBlocks (s : Synchronizer) (peer : String) (current : UInt64) (session : Session) :
    Session × Option (Except SyncError (List Block)) :=
  let start := current + 1
  let limit := s.config.batchSize
  s.await peer (.blocks peer start limit) (s.transport.blocks session.calls peer start limit) session

def fail (peer : String) (progress : Progress) (reason : SyncError) (session : Session) :
    Session × Option SyncOutcome :=
  (session.tell (.syncFailed reason peer progress.applied progress.current),
    some (.failed progress.applied progress.start progress.current reason.message))

def complete (progress : Progress) (session : Session) : Session × Option SyncOutcome :=
  (session.tell (.syncCompleted progress.applied progress.current),
    some (.completed progress.applied progress.start progress.current))

/-- Ask for batches until the height of the peer is reached, `rounds` times at most. -/
def fetch (s : Synchronizer) (peer : String) (remote : UInt64) (rounds : Nat) (progress : Progress)
    (session : Session) : Session × Option SyncOutcome :=
  if progress.current < remote then
    match rounds with
    | 0 => (session, none)
    | rounds + 1 =>
      match s.askBlocks peer progress.current session with
      | (session, none) => (session, none)
      | (session, some (.error reason)) => fail peer progress reason session
      | (session, some (.ok [])) => complete progress session
      | (session, some (.ok blocks)) =>
        let batch := applyBatch s.judge session.ledger progress blocks
        let session :=
          { session with ledger := batch.ledger, effects := session.effects ++ batch.effects }
        match batch.refusal with
        | some reason => fail peer batch.progress (.ledger reason) session
        | none => s.fetch peer remote rounds batch.progress session
  else complete progress session

def catchUp (s : Synchronizer) (peer : String) (session : Session) :
    Session × Option SyncOutcome :=
  let height := session.ledger.head.height
  match s.askHead peer session with
  | (session, none) => (session, none)
  | (session, some (.error reason)) => fail peer (.begin height) reason session
  | (session, some (.ok head)) =>
    if head.height ≤ height then (session, some (.upToDate height))
    else
      s.fetch peer head.height (head.height.toNat - height.toNat) (.begin height)
        (session.tell (.syncStarted peer height head.height))

/-- The peer that somebody wants, if the wish is not blank, or else the first one that is
configured. -/
def choosePeer (identity : NodeIdentity) (hint : Option String) : Option String :=
  match (hint.map Text.trim).filter (!·.isEmpty) with
  | some peer => some peer
  | none => identity.peers.head?

/-- Is the peer one that somebody wants but nobody configured? -/
def isUnlisted (identity : NodeIdentity) (hint : Option String) (peer : String) : Bool :=
  hint.any (fun h => !Text.isBlank h) && !identity.peers.contains peer

/-- Synchronise with the peer that somebody wants, or with the first one that is configured. -/
def synchronize (s : Synchronizer) (hint : Option String) (session : Session) :
    Session × Option SyncOutcome :=
  match choosePeer s.judge.identity hint with
  | none => (session, some .noPeers)
  | some peer =>
    s.catchUp peer <|
      if isUnlisted s.judge.identity hint peer then session.tell (.unlistedPeer peer) else session

/-- The event that an outcome leaves when a node synchronises on its own. -/
def report (peer : String) (outcome : SyncOutcome) : Option Event :=
  if !outcome.synced then some (.autoSyncPeerFailed peer (outcome.reason.getD ""))
  else if 0 < outcome.applied then some (.autoSyncSucceeded peer outcome.applied outcome.toHeight)
  else none

/-- Synchronise with peers one after the other, whatever comes of each. -/
def synchronizeAll (s : Synchronizer) : List String → Session →
    Session × Option (List (String × SyncOutcome))
  | [], session => (session, some [])
  | peer :: rest, session =>
    match s.synchronize (some peer) session with
    | (session, none) => (session, none)
    | (session, some outcome) =>
      let session := ((report peer outcome).map session.tell).getD session
      let (session, results) := s.synchronizeAll rest session
      (session, results.map ((peer, outcome) :: ·))

/-- What a node does on its own: synchronise with all of its peers, unless it is a leader. -/
def autoSync (s : Synchronizer) (session : Session) :
    Session × Option (List (String × SyncOutcome)) :=
  let identity := s.judge.identity
  if identity.isLeader then (session.tell (.autoSyncSkipped .leader), some [])
  else if identity.peers.isEmpty then (session.tell (.autoSyncSkipped .noPeers), some [])
  else
    match s.synchronizeAll identity.peers (session.tell (.autoSyncStarted identity.peers.length)) with
    | (session, none) => (session, none)
    | (session, some results) =>
      (session.tell (.autoSyncFinished identity.nodeId), some results)

/-- A node synchronises on its own when it starts. Whoever may abandon the session waits until
then, even if there is nothing left to abandon. -/
def startUp (s : Synchronizer) (session : Session) : Session :=
  let (session, _) := s.autoSync session
  { session with elapsedMs := s.cutoffMs.getD session.elapsedMs }

end Synchronizer

end EvidenceLedger
