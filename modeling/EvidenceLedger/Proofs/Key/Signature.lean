import EvidenceLedger.Key.Private
import EvidenceLedger.Proofs.Bytes.Base64
import EvidenceLedger.Proofs.Text.Trim

/-!
# Signatures that travel as text

A signature is written in base64 and read back by whoever checks it. So a signature that belongs
to a message under the bytes of a key belongs to it under every text that writes the key, and no
text that writes a key is blank.
-/

namespace EvidenceLedger

namespace Bytes

theorem isSpace_base64Char {n : Nat} (h : n < 64) : Text.isSpace (base64Char n) = false := by
  revert n
  decide

theorem isSpace_of_mem_toBase64Chars {bytes : Bytes} :
    ∀ c ∈ toBase64Chars bytes, Text.isSpace c = false := by
  have pad : Text.isSpace '=' = false := by decide
  have low (b : UInt8) : b.toNat < 256 := UInt8.toNat_lt b
  fun_induction toBase64Chars bytes with
  | case1 => simp
  | case2 a =>
    have := low a
    have first := isSpace_base64Char (show a.toNat / 4 < 64 by omega)
    have second := isSpace_base64Char (show a.toNat % 4 * 16 < 64 by omega)
    simp [first, second, pad]
  | case3 a b =>
    have := low a
    have := low b
    have first := isSpace_base64Char (show a.toNat / 4 < 64 by omega)
    have second := isSpace_base64Char (show a.toNat % 4 * 16 + b.toNat / 16 < 64 by omega)
    have third := isSpace_base64Char (show b.toNat % 16 * 4 < 64 by omega)
    simp [first, second, third, pad]
  | case4 a b c rest ih =>
    have := low a
    have := low b
    have := low c
    have first := isSpace_base64Char (show a.toNat / 4 < 64 by omega)
    have second := isSpace_base64Char (show a.toNat % 4 * 16 + b.toNat / 16 < 64 by omega)
    have third := isSpace_base64Char (show b.toNat % 16 * 4 + c.toNat / 64 < 64 by omega)
    have fourth := isSpace_base64Char (show c.toNat % 64 < 64 by omega)
    simpa [first, second, third, fourth] using ih

end Bytes

@[simp] theorem decodeBase64_toBase64 (what : KeyText) (bytes : Bytes) :
    decodeBase64 what (Bytes.toBase64 bytes) = .ok bytes := by
  have plain : Text.trim (Bytes.toBase64 bytes) = Bytes.toBase64 bytes := by
    apply Text.trim_of_forall
    rw [Bytes.toList_toBase64]
    exact Bytes.isSpace_of_mem_toBase64Chars
  rw [decodeBase64, plain, Bytes.ofBase64?_toBase64]

/-- A signature belongs to a message under every text of the key under whose bytes it does. -/
theorem checkSignature_sign {own : PrivateKey} {key : String} {message : Bytes}
    (reads : PublicKey.ofText key = .ok own.publicKey)
    (verifies : Ed25519.verify own.publicKey.octets message (Ed25519.sign own.seed message)) :
    checkSignature key message (own.sign message) = .ok () := by
  simp only [checkSignature, reads, PublicKey.check, PrivateKey.sign, decodeBase64_toBase64, bind,
    Except.bind, PublicKey.checkBytes, Octets.ofBytes?_bytes, verifies, if_true]

/-- A blank text writes no key. -/
theorem not_isBlank_of_ofText {s : String} {key : PublicKey}
    (reads : PublicKey.ofText s = .ok key) : Text.isBlank s = false := by
  cases blank : Text.isBlank s with
  | false => rfl
  | true =>
    have nothing : PublicKey.ofText s = .error .invalidPublicKey := by
      rw [PublicKey.ofText, decodeBase64, Text.trim_of_isBlank blank]
      rfl
    simp [nothing] at reads

end EvidenceLedger
