import EvidenceLedger.Curve.Point
import EvidenceLedger.Hash.Sha512

/-!
# Ed25519 signatures

A seed of 32 bytes is hashed into a secret scalar and a secret that makes the nonce of each
message. The public key is the scalar's multiple of the base point. A signature is a point
`R` and a scalar `S` with `S·B = R + k·A`, where `k` is the hash of `R`, of the public key
and of the message.

The check computes `S·B - k·A` and compares its wire form with the bytes of `R`, so `R`
itself is never read as a point. It demands that `S` is reduced; it does not demand that
the public key is of prime order.
-/

namespace EvidenceLedger.Ed25519

open Curve

/-- The prime order of the base point. -/
def order : Nat :=
  Nat.pow 2 252 + 27742317777372353535851937790883648493

/-- The secret scalar: the first half of the hashed seed, with three low bits cleared, the
top bit cleared and the bit below it set. -/
def secretScalar (seed : Octets 32) : Nat :=
  let n := Bytes.littleEndian ((Sha512.hash seed.bytes).bytes.take 32)
  Nat.pow 2 254 + n % Nat.pow 2 254 / 8 * 8

/-- The secret that the nonces are made from: the second half of the hashed seed. -/
def nonceSecret (seed : Octets 32) : Bytes :=
  (Sha512.hash seed.bytes).bytes.drop 32

def publicKey (seed : Octets 32) : Octets 32 :=
  ⟨(Point.multiple (secretScalar seed) Point.base).toBytes, by simp⟩

/-- The scalar that ties a signature to the key and to the message. -/
def challenge (r : Bytes) (key : Octets 32) (message : Bytes) : Nat :=
  Bytes.littleEndian (Sha512.hash (r ++ key.bytes ++ message)).bytes % order

/-- The signature of a message under a seed. It is the same every time. -/
def sign (seed : Octets 32) (message : Bytes) : Octets 64 :=
  let nonce := Bytes.littleEndian (Sha512.hash (nonceSecret seed ++ message)).bytes % order
  let r := (Point.multiple nonce Point.base).toBytes
  let k := challenge r (publicKey seed) message
  let s := (nonce + k * secretScalar seed) % order
  ⟨r ++ Bytes.ofLittleEndian 32 s, by simp [r]⟩

def verify (key : Octets 32) (message : Bytes) (signature : Octets 64) : Bool :=
  let r := signature.bytes.take 32
  let s := Bytes.littleEndian (signature.bytes.drop 32)
  match Point.ofBytes? key with
  | none => false
  | some a =>
    if s < order then
      let k := challenge r key message
      let difference := (Point.multiple s Point.base).add (Point.multiple k a.neg)
      difference.toBytes == r
    else false

end EvidenceLedger.Ed25519
