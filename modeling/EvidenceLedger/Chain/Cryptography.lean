import EvidenceLedger.Chain.Canonical
import EvidenceLedger.Hash.Digest
import EvidenceLedger.Key.Private

/-!
# The cryptography of a chain

A chain needs a digest and a way to sign digests and to check signatures under keys that are
given as text. What makes a chain trustworthy is stated of any such three functions, so they
are a value that rules take as an argument. The standard ones are SHA-256 and Ed25519.
-/

namespace EvidenceLedger

/-- What a chain needs of cryptography. -/
structure Cryptography where
  digest : Bytes → Octets 32
  /-- Sign a message under a private key. -/
  sign : String → Bytes → Except KeyError String
  /-- Is this a signature of a message under a public key? -/
  verify : String → Bytes → String → Bool

namespace Cryptography

/-- SHA-256 and Ed25519. -/
def standard : Cryptography where
  digest := Sha256.hash
  sign key message := do return (← PrivateKey.ofText key).sign message
  verify key message signature := (checkSignature key message signature).isOk

def digestOf (crypto : Cryptography) (content : BlockContent) : Octets 32 :=
  crypto.digest (Bytes.ofString content.canonicalText)

/-- The hash that a block with this content has to carry. -/
def hashOf (crypto : Cryptography) (content : BlockContent) : String :=
  Digest.toText (crypto.digestOf content)

/-- Does the signature of a block belong to the bytes of its hash, under a public key? -/
def isSigned (crypto : Cryptography) (block : Block) (key : String) : Bool :=
  match Digest.ofText? block.hash with
  | some digest => crypto.verify key digest.bytes block.signature
  | none => false

def sealBlock (crypto : Cryptography) (content : BlockContent) (key : String) :
    Except KeyError Block := do
  let digest := crypto.digestOf content
  let signature ← crypto.sign key digest.bytes
  return {
    height := content.height
    timestamp := content.timestamp
    evidences := content.evidences
    previousHash := content.previousHash
    proposer := content.proposer
    hash := Digest.toText digest
    signature }

/-- A block is sealed exactly if its hash can be signed. It says what it was to say. -/
theorem sealBlock_eq_ok_iff {crypto : Cryptography} {content : BlockContent} {key : String}
    {block : Block} :
    crypto.sealBlock content key = .ok block ↔
      block.content = content ∧ block.hash = crypto.hashOf content ∧
        crypto.sign key (crypto.digestOf content).bytes = .ok block.signature := by
  cases signed : crypto.sign key (crypto.digestOf content).bytes with
  | error cause => simp [sealBlock, signed, bind, Except.bind]
  | ok signature =>
    simp only [sealBlock, signed, bind, Except.bind, pure, Except.pure, Except.ok.injEq]
    constructor
    · rintro rfl
      exact ⟨rfl, rfl, rfl⟩
    · rintro ⟨rfl, hash, rfl⟩
      cases block
      simp_all [Block.content, hashOf]

def genesisContent : BlockContent :=
  ⟨0, Timestamp.genesis, [], zeroHash, genesisProposer⟩

def genesis (crypto : Cryptography) : Block where
  height := 0
  timestamp := Timestamp.genesis
  evidences := []
  previousHash := zeroHash
  proposer := genesisProposer
  hash := crypto.hashOf genesisContent
  signature := genesisSignature

@[simp] theorem genesis_height (crypto : Cryptography) : crypto.genesis.height = 0 := rfl

@[simp] theorem genesis_evidences (crypto : Cryptography) : crypto.genesis.evidences = [] := rfl

@[simp] theorem content_genesis (crypto : Cryptography) :
    crypto.genesis.content = genesisContent := rfl

end Cryptography

end EvidenceLedger
