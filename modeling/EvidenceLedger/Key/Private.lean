import EvidenceLedger.Key.Public

/-!
# Private keys

A private key is a seed of 32 bytes. Like a public key it is written in base64, as the seed
itself or as a key file around it, and white space around the text does not matter.

There are two versions of the file. The second one repeats the public key, and is refused if
that is not the seed's; the first one must not hold it. Attributes may stand before the
public key and extensions after it, and neither is looked at beyond its outline. A file is
written in the second version.
-/

namespace EvidenceLedger

structure PrivateKey where
  seed : Octets 32
deriving DecidableEq

namespace PrivateKey

def publicKey (key : PrivateKey) : PublicKey :=
  ⟨Ed25519.publicKey key.seed⟩

def publicKeyTag : UInt8 := 0x81

/-- What follows the attributes of a key file. -/
def skipAttributes (bytes : Bytes) : Option Bytes :=
  match _h : Der.read? bytes with
  | some (e, rest) =>
    if Der.isContextual e.tag && Der.tagNumber e.tag == 0 then skipAttributes rest else some bytes
  | none => if bytes = [] then some [] else none
termination_by bytes.length
decreasing_by exact Der.length_of_read? _h

/-- Are the bytes a row of extensions, each one contextual element around another? -/
def areExtensions (bytes : Bytes) : Bool :=
  match _h : Der.read? bytes with
  | some (e, rest) =>
    Der.isContextual e.tag && Der.isConstructed e.tag &&
      (match Der.read? e.content with
        | some (_, []) => true
        | _ => false) &&
      areExtensions rest
  | none => bytes == []
termination_by bytes.length
decreasing_by exact Der.length_of_read? _h

/-- The public key that stands next in a key file, if one does, and what follows it. -/
def readPublicKey? (bytes : Bytes) : Option (Option (Octets 32) × Bytes) :=
  match Der.read? bytes with
  | some (e, rest) =>
    if Der.isContextual e.tag && Der.tagNumber e.tag == 1 then
      if e.tag = publicKeyTag then
        match e.content with
        | 0 :: key => (Octets.ofBytes? 32 key).map fun octets => (some octets, rest)
        | _ => none
      else none
    else some (none, bytes)
  | none => if bytes = [] then some (none, []) else none

/-- The seed in the innermost string of a key file. -/
def seedOfContent? : Bytes → Option (Octets 32)
  | 0x04 :: 0x20 :: seed => Octets.ofBytes? 32 seed
  | _ => none

def ofFile? (bytes : Bytes) : Option PrivateKey := do
  let content ← Der.readAll? Der.sequenceTag bytes
  let (version, rest) ← Der.expect? Der.integerTag content
  let (algorithm, rest) ← Der.expect? Der.sequenceTag rest
  let identifier ← Der.readAll? Der.identifierTag algorithm
  let (inner, rest) ← Der.expect? Der.octetStringTag rest
  let (publicKey, rest) ← readPublicKey? (← skipAttributes rest)
  let seed ← seedOfContent? inner
  let versionFits := match publicKey with
    | none => version == [0]
    | some octets => version == [1] && octets == Ed25519.publicKey seed
  if versionFits && areExtensions rest && identifier == PublicKey.algorithmIdentifier then
    some ⟨seed⟩
  else none

def ofBytes? (bytes : Bytes) : Option PrivateKey :=
  match Octets.ofBytes? 32 bytes with
  | some seed => some ⟨seed⟩
  | none => ofFile? bytes

def ofText (s : String) : Except KeyError PrivateKey := do
  let bytes ← decodeBase64 .privateKey s
  match ofBytes? bytes with
  | some key => .ok key
  | none => .error .invalidPrivateKey

/-- The key file around the seed, in its second version. -/
def toFile (key : PrivateKey) : Bytes :=
  let seed := Der.Element.toBytes ⟨Der.octetStringTag, key.seed.bytes⟩
  Der.Element.toBytes ⟨Der.sequenceTag,
    Der.Element.toBytes ⟨Der.integerTag, [1]⟩ ++
      PublicKey.algorithmElement.toBytes ++
      Der.Element.toBytes ⟨Der.octetStringTag, seed⟩ ++
      Der.Element.toBytes ⟨publicKeyTag, 0 :: key.publicKey.octets.bytes⟩⟩

def toSeedText (key : PrivateKey) : String :=
  Bytes.toBase64 key.seed.bytes

def toFileText (key : PrivateKey) : String :=
  Bytes.toBase64 key.toFile

/-- The signature of a message, in base64. -/
def sign (key : PrivateKey) (message : Bytes) : String :=
  Bytes.toBase64 (Ed25519.sign key.seed message).bytes

end PrivateKey

end EvidenceLedger
