import EvidenceLedger.Chain.Cryptography
import EvidenceLedger.Node.Identity

/-!
# What makes a block follow another

A block may follow the head of a chain if it stands at the next height, names the head's hash,
comes from a trusted proposer, carries the hash of what it says, and is signed with the key
that the proposer is trusted under. The five are looked at in this order, and the first that
fails is the reason for the refusal.

A chain is valid if it is not empty and each of its blocks may follow the one before it. The
first block is taken as it is.
-/

namespace EvidenceLedger

/-- Why a block may not follow the head of a chain. -/
inductive ChainViolation where
  | heightMismatch (expected received : UInt64)
  | previousHashMismatch (expected received : String)
  | unauthorizedProposer (proposer : String)
  | hashMismatch (declared computed : String)
  | invalidSignature (proposer : String)
deriving DecidableEq

def ChainViolation.message : ChainViolation → String
  | .heightMismatch expected received =>
    "Invalid height: expected " ++ Text.decimal expected.toNat ++ ", received " ++
      Text.decimal received.toNat
  | .previousHashMismatch expected received =>
    "Invalid previous hash: expected " ++ expected ++ ", received " ++ received
  | .unauthorizedProposer proposer => "Unauthorized proposer: " ++ proposer
  | .hashMismatch declared computed =>
    "Invalid hash: declared " ++ declared ++ ", computed " ++ computed
  | .invalidSignature proposer => "Invalid signature for proposer " ++ proposer

/-- What a chain is judged by: the cryptography, and the identity of the node that judges. -/
structure Judge where
  crypto : Cryptography
  identity : NodeIdentity

namespace Judge

/-- May `block` follow `head`? -/
def follows (judge : Judge) (head block : Block) : Except ChainViolation Unit :=
  let expected := successorHeight head.height
  if block.height ≠ expected then .error (.heightMismatch expected block.height)
  else if block.previousHash ≠ head.hash then
    .error (.previousHashMismatch head.hash block.previousHash)
  else
    match judge.identity.trustedKey? block.proposer with
    | none => .error (.unauthorizedProposer block.proposer)
    | some key =>
      let computed := judge.crypto.hashOf block.content
      if computed ≠ block.hash then .error (.hashMismatch block.hash computed)
      else if judge.crypto.isSigned block key then .ok ()
      else .error (.invalidSignature block.proposer)

/-- The five conditions under which a block may follow the head of a chain. -/
theorem follows_eq_ok_iff {judge : Judge} {head block : Block} :
    judge.follows head block = .ok () ↔
      block.height = successorHeight head.height ∧ block.previousHash = head.hash ∧
        ∃ key, judge.identity.trustedKey? block.proposer = some key ∧
          judge.crypto.hashOf block.content = block.hash ∧ judge.crypto.isSigned block key := by
  unfold follows
  by_cases height : block.height = successorHeight head.height
  · by_cases previous : block.previousHash = head.hash
    · cases trusted : judge.identity.trustedKey? block.proposer with
      | none => simp [height, previous]
      | some key =>
        by_cases hash : judge.crypto.hashOf block.content = block.hash <;>
          simp [height, previous, hash]
    · simp [height, previous]
  · simp [height]

/-- The judgement on each block but the first. -/
def links (judge : Judge) : List Block → List (Except ChainViolation Unit)
  | head :: next :: rest => judge.follows head next :: links judge (next :: rest)
  | _ => []

def isValid (judge : Judge) (chain : List Block) : Bool :=
  !chain.isEmpty && (judge.links chain).all (·.isOk)

@[simp] theorem links_nil (judge : Judge) : judge.links [] = [] := rfl

@[simp] theorem links_singleton (judge : Judge) (b : Block) : judge.links [b] = [] := rfl

@[simp] theorem links_cons_cons (judge : Judge) (a b : Block) (rest : List Block) :
    judge.links (a :: b :: rest) = judge.follows a b :: judge.links (b :: rest) := rfl

end Judge

end EvidenceLedger
