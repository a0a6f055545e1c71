/-!
# What can be wrong with a key or a signature

Keys and signatures travel as text. Each way in which one can be unusable is a cause of its
own, in the order in which they are looked for: the text is no base64, the bytes are no key
or no signature, the signature is not one of the message.
-/

namespace EvidenceLedger

/-- What a base64 text was to be. -/
inductive KeyText where
  | privateKey
  | publicKey
  | signature
deriving DecidableEq, Repr

def KeyText.describe : KeyText → String
  | .privateKey => "private key"
  | .publicKey => "public key"
  | .signature => "signature"

/-- Why a key or a signature cannot be used. -/
inductive KeyError where
  /-- The text is not base64. -/
  | invalidEncoding (what : KeyText)
  /-- The bytes are no public key, in either form, or no point of the curve. -/
  | invalidPublicKey
  /-- The bytes are no private key in either form. -/
  | invalidPrivateKey
  /-- The signature does not have 64 bytes. -/
  | invalidSignatureFormat
  /-- The signature is not one of this message under this key. -/
  | verificationFailed
deriving DecidableEq, Repr

def KeyError.message : KeyError → String
  | .invalidEncoding what => "Invalid base64 in " ++ what.describe
  | .invalidPublicKey => "Invalid public key"
  | .invalidPrivateKey => "Invalid private key"
  | .invalidSignatureFormat => "Invalid signature format"
  | .verificationFailed => "Signature verification failed"

end EvidenceLedger
