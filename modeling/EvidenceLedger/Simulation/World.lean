import EvidenceLedger.Api.Service
import EvidenceLedger.Ledger.Timer
import EvidenceLedger.Replication.FanOut

/-!
# Several nodes under one clock

To see how nodes work together they are put into one world, which has a calendar time that
stands still unless somebody sets it, a count of milliseconds that goes on while nodes wait,
and one supply of identifiers. A member of the world is a node with a place for its events
and a way for its pushes.

Events are either kept as they are or written to the log. Blocks to push are kept, thrown away
or sent out; what is sent out reaches a peer some time later, or never.
-/

namespace EvidenceLedger

/-- Where the events of a member go. -/
inductive EventSink where
  | kept
  | logged
deriving DecidableEq

/-- Where the blocks go that a member pushes. -/
inductive PushSink where
  | kept
  | dropped
  | sent (way : FanOut)

/-- A block that was pushed, with its peers and the time of it. -/
structure Push where
  block : Block
  peers : List String
  atMs : Nat

structure Member where
  judge : Judge
  ledger : Ledger
  eventSink : EventSink
  pushSink : PushSink
  pushes : List Push

/-- What was told while something happened. -/
structure Told where
  events : List Event
  log : List Event.LogLine

/-- Several nodes under one clock. -/
structure World where
  members : List (String × Member)
  ids : IdSupply
  now : Timestamp
  clockMs : Nat

/-- What comes of a request to a member. -/
structure Exchange where
  world : World
  told : Told
  calls : List Call
  span : Option Api.Span
  reply : Api.Reply

namespace Member

def start (judge : Judge) (eventSink : EventSink) (pushSink : PushSink) : Member :=
  ⟨judge, .fresh judge.crypto, eventSink, pushSink, []⟩

def eventsOf (effects : List (Nat × Effect)) : List Event :=
  effects.filterMap fun
    | (_, .tell event) => some event
    | _ => none

def pushesOf (effects : List (Nat × Effect)) : List Push :=
  effects.filterMap fun
    | (atMs, .push block peers) => some ⟨block, peers, atMs⟩
    | _ => none

def told (m : Member) (effects : List (Nat × Effect)) : Told :=
  match m.eventSink with
  | .kept => ⟨eventsOf effects, []⟩
  | .logged => ⟨[], (eventsOf effects).map Event.logLine⟩

/-- The member after something happened to its ledger. -/
def after (m : Member) (ledger : Ledger) (effects : List (Nat × Effect)) : Member :=
  { m with ledger, pushes := m.pushes ++ pushesOf effects }

/-- The blocks that the member sent out and that have arrived by now, as peers and heights. -/
def delivered (m : Member) (nowMs : Nat) : List (String × UInt64) :=
  match m.pushSink with
  | .sent way =>
    m.pushes.flatMap fun p =>
      (way.delivered p.block p.peers (nowMs - p.atMs)).map fun peer => (peer, p.block.height)
  | _ => []

end Member

namespace World

def member? (w : World) (name : String) : Option Member :=
  (w.members.find? fun entry => entry.1 == name).map (·.2)

/-- Put a member in the place of the one with its name. -/
def update (w : World) (name : String) (m : Member) : World :=
  { w with members := w.members.map fun entry => if entry.1 == name then (name, m) else entry }

def wait (w : World) (durationMs : Nat) : World :=
  { w with clockMs := w.clockMs + durationMs }

/-- Something happened to the ledger of a member. The times of effects are counted from when it
began. -/
def record (w : World) (name : String) (m : Member) (ledger : Ledger)
    (effects : List (Nat × Effect)) : World × Told :=
  let effects := effects.map fun (atMs, e) => (w.clockMs + atMs, e)
  (w.update name (m.after ledger effects), m.told effects)

/-- An operation of a ledger was carried out. -/
def recordOutcome {α : Type} (w : World) (name : String) (m : Member) (outcome : Outcome α) :
    World × Told :=
  w.record name m outcome.ledger (outcome.effects.map fun e => (0, e))

/-- A member was in a session. -/
def recordSession (w : World) (name : String) (m : Member) (session : Session) : World × Told :=
  let (w, told) := w.record name m session.ledger (session.effects.map fun e => (0, e))
  (w.wait session.elapsedMs, told)

/-- A member answers a request. Evidence that is taken uses up the identifier that was ready
for it. -/
def serve (w : World) (name : String) (m : Member) (synchronizer : Synchronizer)
    (r : Api.Request) : Exchange :=
  let service : Api.Service := ⟨synchronizer, w.now, w.ids.next⟩
  let (session, reply) := service.handle r (.start m.ledger)
  let ids := match reply with
    | .submitted _ => w.ids.issue
    | _ => w.ids
  let (world, told) := { w with ids }.recordSession name m session
  ⟨world, told, session.calls, service.span r, reply⟩

end World

end EvidenceLedger
