import EvidenceLedger.Sync.Error

/-!
# Asking peers

A node asks a peer for the head of its chain, or for a batch of blocks from some height on. The
answer, or the error with which the request ends, arrives after a while. What a peer answers may
depend on everything that it was asked before, so a transport is a function of the calls so far. An
error is handed on as it is: nothing keeps a transport from naming another peer in it, from telling
of a time that has run out, or from answering what only a ledger has reason to say.

A scripted peer answers from a row of blocks that is given to it. It may pretend another
height, fail from some height on or altogether, and take its time.
-/

namespace EvidenceLedger

inductive Call where
  | head (peer : String)
  | blocks (peer : String) (start limit : UInt64)
deriving DecidableEq

/-- Something that is there after so many milliseconds. -/
structure Timed (α : Type) where
  afterMs : Nat
  value : α

/-- What peers answer, given the calls so far. -/
structure Transport where
  head : List Call → String → Timed (Except SyncError BlockHeader)
  blocks : List Call → String → UInt64 → UInt64 → Timed (Except SyncError (List Block))

/-- A peer that answers as it is told to. -/
structure ScriptedPeer where
  blocks : List Block
  /-- The height to pretend. -/
  headHeight : Option UInt64
  failHead : Bool
  failFromHeight : Option UInt64
  delayMs : Nat

namespace ScriptedPeer

def empty : ScriptedPeer := ⟨[], none, false, none, 0⟩

/-- The answer to a request for the head, where the peer goes by the given name. -/
def answerHead (p : ScriptedPeer) (peer : String) : Except SyncError BlockHeader :=
  if p.failHead then .error (.transport peer "Mock failure")
  else
    match p.blocks.getLast? with
    | none => .error (.transport peer "Mock peer has no blocks")
    | some b => .ok { b.header with height := p.headHeight.getD b.height }

/-- The answer to a request for blocks, where the peer goes by the given name. -/
def answerBlocks (p : ScriptedPeer) (peer : String) (start limit : UInt64) :
    Except SyncError (List Block) :=
  if p.failFromHeight.any (· ≤ start) then .error (.transport peer "Mock failure")
  else .ok ((p.blocks.filter fun b => start ≤ b.height).take limit.toNat)

/-- The way to peers that are found by their names. -/
def transport (peerAt : String → ScriptedPeer) : Transport where
  head _ peer := ⟨(peerAt peer).delayMs, (peerAt peer).answerHead peer⟩
  blocks _ peer start limit :=
    ⟨(peerAt peer).delayMs, (peerAt peer).answerBlocks peer start limit⟩

end ScriptedPeer

end EvidenceLedger
