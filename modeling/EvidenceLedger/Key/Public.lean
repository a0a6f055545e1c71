import EvidenceLedger.Bytes.Base64
import EvidenceLedger.Curve.Ed25519
import EvidenceLedger.Key.Der
import EvidenceLedger.Key.Error
import EvidenceLedger.Text.Blank

/-!
# Public keys

A public key is 32 bytes that give a point of the curve. It is written in base64, either the
bytes themselves or a key file around them that names the algorithm. Which of the two a text
holds is seen from its length: 32 bytes are the key, anything else has to be a key file.
White space around the text does not matter.

The bytes are kept as they were given, also where they are not the shortest form of their
point, because signatures depend on the bytes and not only on the point.
-/

namespace EvidenceLedger

structure PublicKey where
  octets : Octets 32
deriving DecidableEq

/-- The bytes that a text writes in base64, white space around it aside. -/
def decodeBase64 (what : KeyText) (s : String) : Except KeyError Bytes :=
  match Bytes.ofBase64? (Text.trim s) with
  | some bytes => .ok bytes
  | none => .error (.invalidEncoding what)

namespace PublicKey

/-- The identifier 1.3.101.112 of the signature algorithm. -/
def algorithmIdentifier : Bytes :=
  [0x2B, 0x65, 0x70]

/-- The element of a key file that names the algorithm, which takes no parameters. -/
def algorithmElement : Der.Element :=
  ⟨Der.sequenceTag, Der.Element.toBytes ⟨Der.identifierTag, algorithmIdentifier⟩⟩

def onCurve (octets : Octets 32) : Bool :=
  (Curve.Point.ofBytes? octets).isSome

/-- The key with these bytes, if they give a point of the curve. -/
def ofOctets? (octets : Octets 32) : Option PublicKey :=
  if onCurve octets then some ⟨octets⟩ else none

/-- The 32 bytes in a key file: the algorithm, and a string of whole bytes. -/
def octetsOfFile? (bytes : Bytes) : Option (Octets 32) := do
  let content ← Der.readAll? Der.sequenceTag bytes
  let (algorithm, rest) ← Der.expect? Der.sequenceTag content
  let identifier ← Der.readAll? Der.identifierTag algorithm
  let bits ← Der.readAll? Der.bitStringTag rest
  if identifier = algorithmIdentifier then
    match bits with
    | 0 :: key => Octets.ofBytes? 32 key
    | _ => none
  else none

/-- The 32 bytes of a key in either form. -/
def octetsOfBytes? (bytes : Bytes) : Option (Octets 32) :=
  match Octets.ofBytes? 32 bytes with
  | some octets => some octets
  | none => octetsOfFile? bytes

def ofText (s : String) : Except KeyError PublicKey := do
  let bytes ← decodeBase64 .publicKey s
  match (octetsOfBytes? bytes).bind ofOctets? with
  | some key => .ok key
  | none => .error .invalidPublicKey

def toFile (key : PublicKey) : Bytes :=
  Der.Element.toBytes ⟨Der.sequenceTag,
    algorithmElement.toBytes ++ Der.Element.toBytes ⟨Der.bitStringTag, 0 :: key.octets.bytes⟩⟩

/-- The 32 bytes of the key as text. -/
def toText (key : PublicKey) : String :=
  Bytes.toBase64 key.octets.bytes

def toFileText (key : PublicKey) : String :=
  Bytes.toBase64 key.toFile

/-- Check the bytes of a signature: first how many there are, then the signature. -/
def checkBytes (key : PublicKey) (message signature : Bytes) : Except KeyError Unit :=
  match Octets.ofBytes? 64 signature with
  | none => .error .invalidSignatureFormat
  | some octets =>
    if Ed25519.verify key.octets message octets then .ok () else .error .verificationFailed

/-- Check a signature in base64. -/
def check (key : PublicKey) (message : Bytes) (signature : String) : Except KeyError Unit := do
  let bytes ← decodeBase64 .signature signature
  key.checkBytes message bytes

end PublicKey

/-- Check a signature in base64 under a key in base64: the key first, then the signature. -/
def checkSignature (key : String) (message : Bytes) (signature : String) : Except KeyError Unit := do
  let key ← PublicKey.ofText key
  key.check message signature

end EvidenceLedger
