import EvidenceLedger.Bytes.Hex
import EvidenceLedger.Hash.Sha256

/-!
# Digests as text

A digest is written as 64 hexadecimal digits, in lower case. Digits of either case are read;
anything but exactly 64 of them is no digest. Whether a text is one is seen from its bytes.
-/

namespace EvidenceLedger.Digest

/-- Is the text 64 hexadecimal digits? -/
def isText (s : String) : Bool :=
  let bytes := Bytes.ofString s
  bytes.length == 64 && bytes.all fun b => Bytes.isHexDigit (Char.ofUInt8 b)

def ofText? (s : String) : Option (Octets 32) :=
  if isText s then (Bytes.ofHex? s).bind (Octets.ofBytes? 32) else none

def toText (digest : Octets 32) : String :=
  Bytes.toHex digest.bytes

/-- The written form of the digest of a message. -/
def textOf (message : Bytes) : String :=
  Bytes.toHex (Sha256.hash message).bytes

end EvidenceLedger.Digest
