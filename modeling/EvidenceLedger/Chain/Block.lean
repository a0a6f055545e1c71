import EvidenceLedger.Evidence.Record
import EvidenceLedger.Text.Numeral

/-!
# Blocks

A block seals a batch of evidence. It stands at a height, names the hash of the block before
it and the node that sealed it, and carries its own hash and a signature of that hash.

The first block of every chain has the height zero, holds no evidence, and was sealed by
nobody: its proposer and its signature are a word that stands for that.
-/

namespace EvidenceLedger

/-- A sealed batch of evidence. -/
structure Block where
  height : UInt64
  timestamp : Timestamp
  evidences : List EvidenceRecord
  previousHash : String
  proposer : String
  hash : String
  signature : String
deriving DecidableEq

/-- What peers tell each other about the last block of their chains. -/
structure BlockHeader where
  height : UInt64
  hash : String
  proposer : String
  timestamp : Timestamp
deriving DecidableEq

/-- The proposer of a block that nobody sealed. -/
def genesisProposer : String := "GENESIS"

/-- The signature of a block that nobody sealed. It is never checked. -/
def genesisSignature : String := "GENESIS"

/-- What the first block names as the hash of the block before it. -/
def zeroHash : String := String.ofList (List.replicate 64 '0')

/-- The height of the block after one of the given height. The greatest height is followed
by itself. -/
def successorHeight (height : UInt64) : UInt64 :=
  if height = UInt64.ofNat (UInt64.size - 1) then height else height + 1

namespace Block

def isGenesis (b : Block) : Bool :=
  b.height == 0 && b.proposer == genesisProposer

/-- What to tell peers if this is the last block. -/
def header (b : Block) : BlockHeader :=
  ⟨b.height, b.hash, b.proposer, b.timestamp⟩

@[simp] theorem header_height (b : Block) : b.header.height = b.height := rfl

@[simp] theorem header_hash (b : Block) : b.header.hash = b.hash := rfl

end Block

end EvidenceLedger
