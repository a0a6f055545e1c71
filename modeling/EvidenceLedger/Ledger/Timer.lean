import EvidenceLedger.Ledger.IdSupply

/-!
# Committing by the clock

A leader may commit at regular intervals. The first period begins when the timer starts, and
the timer ticks at the end of each. A tick on which nothing waits, or on which the node cannot
commit, passes without consequence.

The course of a timer is followed through a row of actions: time goes by, or somebody submits
evidence. While time goes by all ticks in it take place. Whoever waits until the very moment of
a tick wakes before it, so that the tick belongs to the time that goes by next.

A period has to be longer than nothing. A timer without one breaks down at its start: it never
ticks, and it is not there any more to be stopped.
-/

namespace EvidenceLedger

/-- The outcome of one tick: a block, if one was sealed. -/
def Ledger.commitOnce (judge : Judge) (l : Ledger) (now : Timestamp) : Outcome (Option Block) :=
  let outcome := l.commit judge now
  match outcome.answer with
  | .ok block => ⟨outcome.ledger, .ok (some block), outcome.effects⟩
  | .error _ => ⟨outcome.ledger, .ok none, outcome.effects⟩

structure Timer where
  ledger : Ledger
  ids : IdSupply
  elapsedMs : Nat
  /-- What the world was told, each with the time of it. -/
  effects : List (Nat × Effect)

namespace Timer

def start (ledger : Ledger) (ids : IdSupply) : Timer := ⟨ledger, ids, 0, []⟩

def tick (judge : Judge) (now : Timestamp) (t : Timer) (atMs : Nat) : Timer :=
  let outcome := t.ledger.commitOnce judge now
  { t with
    ledger := outcome.ledger
    effects := t.effects ++ outcome.effects.map fun e => (atMs, e) }

/-- Does a timer with this period go on until it is stopped? -/
def endures (periodMs : Nat) : Bool :=
  periodMs != 0

/-- The number of the first tick that is not before a time. There is none at the start. -/
def firstTick (periodMs atMs : Nat) : Nat :=
  max 1 ((atMs + periodMs - 1) / periodMs)

/-- The times of the ticks that are not before one time but before another one. -/
def ticksBetween (periodMs since upTo : Nat) : List Nat :=
  let first := firstTick periodMs since
  (List.range' first (firstTick periodMs upTo - first)).map (· * periodMs)

/-- A timer that breaks down does not tick. -/
theorem ticksBetween_of_not_endures {periodMs : Nat} (broken : endures periodMs = false)
    (since upTo : Nat) : ticksBetween periodMs since upTo = [] := by
  have none : periodMs = 0 := by simpa [endures] using broken
  simp [ticksBetween, firstTick, none]

def wait (judge : Judge) (now : Timestamp) (periodMs durationMs : Nat) (t : Timer) : Timer :=
  let upTo := t.elapsedMs + durationMs
  let t := (ticksBetween periodMs t.elapsedMs upTo).foldl (tick judge now) t
  { t with elapsedMs := upTo }

def submit (now : Timestamp) (draft : EvidenceDraft) (t : Timer) : Timer :=
  let (outcome, ids) := t.ledger.submitNew draft t.ids now
  { t with
    ledger := outcome.ledger
    ids
    effects := t.effects ++ outcome.effects.map fun e => (t.elapsedMs, e) }

/-- What happens next: some time goes by, if any does, and then somebody submits evidence, if
anybody does. -/
structure Action where
  sleepMs : Option Nat
  draft : Option EvidenceDraft

def act (judge : Judge) (now : Timestamp) (periodMs : Nat) (t : Timer) (a : Action) : Timer :=
  let t := (a.sleepMs.map fun ms => wait judge now periodMs ms t).getD t
  (a.draft.map fun draft => submit now draft t).getD t

/-- Actions take place one after the other. Gives the timer after each. -/
def run (judge : Judge) (now : Timestamp) (periodMs : Nat) (t : Timer) : List Action → List Timer
  | [] => []
  | a :: rest =>
    let next := act judge now periodMs t a
    next :: run judge now periodMs next rest

end Timer

end EvidenceLedger
