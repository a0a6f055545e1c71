import EvidenceLedger.Chain.Block
import EvidenceLedger.Sync.Transport

/-!
# Pushing blocks to peers

A leader hands each block that it seals to all of its peers, to each on its own: what becomes
of one delivery has no bearing on another, and the leader does not wait for any of them. A
delivery fails if the peer cannot be reached, does not answer in time, or refuses the block.

Deliveries need a place to run in. Where there is none, nothing is sent.
-/

namespace EvidenceLedger

inductive PushError where
  | transport (peer reason : String)
  | timeout (peer : String) (afterMs : Nat)
  | rejected (peer : String) (status : Nat)
deriving DecidableEq

namespace PushError

def peer : PushError → String
  | .transport peer _ | .timeout peer _ | .rejected peer _ => peer

def message : PushError → String
  | .transport peer reason => "Push to " ++ peer ++ " failed: " ++ reason
  | .timeout peer afterMs => "Push to " ++ peer ++ " timed out after " ++ Text.decimal afterMs ++ "ms"
  | .rejected peer status =>
    "Peer " ++ peer ++ " rejected block with status " ++ Text.decimal status

end PushError

/-- What comes of offering a block to a peer, and when. -/
abbrev Publisher := String → Block → Timed (Except PushError Unit)

/-- A publisher that takes its time, fails for some peers and reaches all others. -/
def Publisher.scripted (failing : List String) (delayMs : Nat) : Publisher := fun peer _ =>
  ⟨delayMs, if failing.contains peer then .error (.transport peer "Mock failure") else .ok ()⟩

/-- A way of pushing blocks, with the time that one push may take. -/
structure FanOut where
  publisher : Publisher
  timeoutMs : Nat

namespace FanOut

/-- What comes of the push to one peer, and when that is known. -/
def push (f : FanOut) (block : Block) (peer : String) : Timed (Except PushError Unit) :=
  let offer := f.publisher peer block
  if f.timeoutMs < offer.afterMs then ⟨f.timeoutMs, .error (.timeout peer f.timeoutMs)⟩ else offer

def dispatch (f : FanOut) (block : Block) (peers : List String) :
    List (Timed (Except PushError Unit)) :=
  peers.map (f.push block)

/-- The peers that get the block in the end. -/
def reached (f : FanOut) (block : Block) (peers : List String) : List String :=
  peers.filter fun peer => (f.push block peer).value.isOk

/-- The peers that have the block when some milliseconds are over since the push. A delivery that
is due at that very moment is still to come. -/
def delivered (f : FanOut) (block : Block) (peers : List String) (afterMs : Nat) : List String :=
  peers.filter fun peer =>
    let result := f.push block peer
    result.value.isOk && result.afterMs < afterMs

end FanOut

end EvidenceLedger
