import EvidenceLedger.Api.Reply
import EvidenceLedger.Api.Route
import EvidenceLedger.Sync.Session

/-!
# Serving requests

A service answers requests to one node, one after the other. Reading changes nothing; evidence
is submitted, blocks are committed and received, and the node is synchronised, each by the
operation of that name. What a request leaves behind is the session in which it was served.

Every request is logged with the node, the method and the address, but for those in which a
browser asks what it may ask: they are answered before anybody looks at the address.
-/

namespace EvidenceLedger.Api

/-- A node that serves requests. -/
structure Service where
  synchronizer : Synchronizer
  now : Timestamp
  /-- The identifier for evidence that comes without one. -/
  newId : String

/-- What the log says of a request. -/
structure Span where
  nodeId : String
  method : String
  uri : String
deriving DecidableEq

namespace Service

def judge (s : Service) : Judge :=
  s.synchronizer.judge

/-- A failure, at the time of the service. -/
def failure (s : Service) (reason : Failure) : Reply :=
  .failed reason s.now

/-- What an operation of the ledger leaves behind, and the reply to it. -/
def conclude {α : Type} (s : Service) (session : Session) (outcome : Outcome α)
    (reply : α → Reply) : Session × Reply :=
  ({ session with ledger := outcome.ledger, effects := session.effects ++ outcome.effects },
    match outcome.answer with
    | .ok a => reply a
    | .error reason => s.failure (.ledger reason))

/-- Go on with what was read from a request, or reply with the failure to read it. -/
def reading {α : Type} (s : Service) (session : Session) (read : Except Failure α)
    (go : α → Session × Reply) : Session × Reply :=
  match read with
  | .ok a => go a
  | .error reason => (session, s.failure reason)

def lookup (s : Service) (ledger : Ledger) (hash : String) : Finding :=
  match ledger.find? hash with
  | some proof => ⟨true, some proof.evidence, some (s.judge.details proof)⟩
  | none => ⟨false, none, none⟩

/-- How the node is doing. A node that answers is up. -/
def health (s : Service) (ledger : Ledger) : Health :=
  ⟨"UP", s.judge.identity.nodeId, s.judge.identity.isLeader, ledger.head.height⟩

def serve (s : Service) (route : Route) (r : Request) (session : Session) : Session × Reply :=
  let ledger := session.ledger
  match route with
  | .chain => (session, .chain ledger.chain)
  | .latest => (session, .latest ledger.head.header)
  | .blocks =>
    s.reading session (blockRange r.query) fun (start, limit) =>
      (session, .blocks (ledger.blocksFrom start limit))
  | .mempool => (session, .mempool ledger.mempool)
  | .validate => (session, .validity (s.judge.isValid ledger.chain))
  | .health => (session, .health (s.health ledger))
  | .lookup segment =>
    match Bytes.toString? (Percent.decode (Bytes.ofString (String.ofList segment))) with
    | some hash => (session, .finding (s.lookup ledger hash))
    | none => (session, .unreadablePath)
  | .verify =>
    s.reading session (readBody readHash r) fun hash =>
      if Text.isBlank hash then (session, s.failure (.blankFields ["hash"]))
      else (session, .report (ledger.verify s.judge hash))
  | .submit =>
    s.reading session (readBody readArtifact r >>= toDraft) fun draft =>
      s.conclude session (ledger.submit draft s.newId s.now) .submitted
  | .commit => s.conclude session (ledger.commit s.judge s.now) .committed
  | .receive =>
    s.reading session (readBody Json.decode r) fun block =>
      s.conclude session (ledger.accept s.judge block) fun _ => .received block.height
  | .sync =>
    s.reading session (syncWish r.body) fun hint =>
      let (session, outcome) := s.synchronizer.synchronize hint session
      (session, .synced (outcome.getD .noPeers))

def handle (s : Service) (r : Request) (session : Session) : Session × Reply :=
  if r.method = "OPTIONS" then (session, .preflight)
  else
    match Route.ofPath? r.path with
    | none => (session, .notFound)
    | some route =>
      if route.allows r.method then s.serve route r session else (session, .methodNotAllowed)

def span (s : Service) (r : Request) : Option Span :=
  if r.method = "OPTIONS" then none
  else some ⟨s.judge.identity.nodeId, r.method, r.address.toText⟩

/-- The body that goes with a reply. Nothing does if only the head was asked for. -/
def visibleBody (r : Request) (reply : Reply) : Option Json :=
  if r.method = "HEAD" then none else reply.body

end Service

end EvidenceLedger.Api
