import EvidenceLedger.Ledger.Basic

/-!
# Finding sealed evidence

Evidence is looked for by its hash, in any case and with white space around it. What is found
is the first record with that hash, in the order of the chain and inside a block in the order
of the block, together with its block. The report on it says who signed the block and whether
the signature is good under the key that the node trusts.
-/

namespace EvidenceLedger

/-- A record with the block that it is sealed in. -/
structure EvidenceProof where
  evidence : EvidenceRecord
  block : Block
deriving DecidableEq

/-- What an auditor wants to know of the block that a record is sealed in. -/
structure ProofDetails where
  blockHeight : UInt64
  blockTimestamp : Timestamp
  blockHash : String
  previousHash : String
  signedBy : String
  signatureValid : Bool
deriving DecidableEq

structure VerificationReport where
  verified : Bool
  hash : String
  reason : Option String
  evidence : Option EvidenceRecord
  proof : Option ProofDetails
deriving DecidableEq

/-- The reason in a report on a hash that no sealed record has. -/
def notFoundReason : String := "NOT_FOUND"

/-- The report on a hash that no sealed record has. -/
def VerificationReport.notFound (hash : String) : VerificationReport :=
  ⟨false, hash, some notFoundReason, none, none⟩

/-- Does the signature of a block belong to its hash, under the key that its proposer is
trusted under? Nobody is trusted to seal first blocks. -/
def Judge.trusts (judge : Judge) (block : Block) : Bool :=
  block.proposer != genesisProposer &&
    (judge.identity.trustedKey? block.proposer).any fun key => judge.crypto.isSigned block key

def Judge.details (judge : Judge) (proof : EvidenceProof) : ProofDetails where
  blockHeight := proof.block.height
  blockTimestamp := proof.block.timestamp
  blockHash := proof.block.hash
  previousHash := proof.block.previousHash
  signedBy := proof.block.proposer
  signatureValid := judge.trusts proof.block

/-- The first record of a block with the given hash. -/
def Block.find? (b : Block) (hash : String) : Option EvidenceProof :=
  (b.evidences.find? fun r => r.artifact.hash == hash).map fun r => ⟨r, b⟩

namespace Ledger

/-- The first sealed record with a hash, the hash in any form. -/
def find? (l : Ledger) (hash : String) : Option EvidenceProof :=
  l.chain.findSome? fun b => b.find? (normalizeHash hash)

def verify (judge : Judge) (l : Ledger) (hash : String) : VerificationReport :=
  let wanted := normalizeHash hash
  match l.find? wanted with
  | none => .notFound wanted
  | some proof => ⟨true, wanted, none, some proof.evidence, some (judge.details proof)⟩

end Ledger

end EvidenceLedger
