import EvidenceLedger.Chain.Validation
import EvidenceLedger.Proofs.Bytes.Hex
import EvidenceLedger.Proofs.Key.Signature

/-!
# Sealed blocks are accepted

Sealing takes a digest, signs its bytes and writes it down; checking takes the digest again,
compares the written forms, reads the declared one and verifies the signature of its bytes. The
two agree, whichever text the checking node has of the key: what is sealed on top of a head may
follow it.

That a signature verifies under the public half of the key that made it is taken as an assumption
on the one signature in question.
-/

namespace EvidenceLedger

/-- The block that says `content` and is sealed under a private key. -/
def PrivateKey.sealed (own : PrivateKey) (content : BlockContent) : Block where
  height := content.height
  timestamp := content.timestamp
  evidences := content.evidences
  previousHash := content.previousHash
  proposer := content.proposer
  hash := Cryptography.standard.hashOf content
  signature := own.sign (Cryptography.standard.digestOf content).bytes

/-- The signature of the hash of `content` verifies. -/
def PrivateKey.SignsWell (own : PrivateKey) (content : BlockContent) : Prop :=
  let message := (Cryptography.standard.digestOf content).bytes
  Ed25519.verify own.publicKey.octets message (Ed25519.sign own.seed message) = true

namespace PrivateKey

variable {own : PrivateKey} {content : BlockContent} {key : String}

@[simp] theorem content_sealed (own : PrivateKey) (content : BlockContent) :
    (own.sealed content).content = content := rfl

theorem verify_standard (key : String) (message : Bytes) (signature : String) :
    Cryptography.standard.verify key message signature =
      (checkSignature key message signature).isOk := by
  simp only [Cryptography.standard]

theorem sign_standard (reads : PrivateKey.ofText key = .ok own) (message : Bytes) :
    Cryptography.standard.sign key message = .ok (own.sign message) := by
  unfold Cryptography.standard
  simp only [reads, bind, Except.bind, pure, Except.pure]

theorem sealBlock_standard (reads : PrivateKey.ofText key = .ok own) :
    Cryptography.standard.sealBlock content key = .ok (own.sealed content) :=
  Cryptography.sealBlock_eq_ok_iff.mpr ⟨rfl, rfl, sign_standard reads _⟩

theorem isSigned_sealed (reads : PublicKey.ofText key = .ok own.publicKey)
    (signsWell : own.SignsWell content) :
    Cryptography.standard.isSigned (own.sealed content) key := by
  have declared : Digest.ofText? (own.sealed content).hash =
      some (Cryptography.standard.digestOf content) := Digest.ofText?_toText _
  have accepted : checkSignature key (Cryptography.standard.digestOf content).bytes
      (own.sealed content).signature = .ok () := checkSignature_sign reads signsWell
  rw [Cryptography.isSigned, declared]
  show Cryptography.standard.verify key (Cryptography.standard.digestOf content).bytes
    (own.sealed content).signature = true
  rw [verify_standard, accepted]
  rfl

/-- What is sealed on top of a head may follow it. -/
theorem follows_sealed {identity : NodeIdentity} {head : Block}
    (height : content.height = successorHeight head.height)
    (previous : content.previousHash = head.hash)
    (trusted : identity.allowlist.find? content.proposer = some key)
    (reads : PublicKey.ofText key = .ok own.publicKey) (signsWell : own.SignsWell content) :
    (Judge.mk .standard identity).follows head (own.sealed content) = .ok () := by
  have known : identity.trustedKey? content.proposer = some key := by
    simp [NodeIdentity.trustedKey?, trusted, not_isBlank_of_ofText reads]
  exact Judge.follows_eq_ok_iff.mpr
    ⟨height, previous, key, known, rfl, isSigned_sealed reads signsWell⟩

end PrivateKey

end EvidenceLedger
