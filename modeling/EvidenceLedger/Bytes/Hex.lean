import EvidenceLedger.Bytes.Basic

/-!
# Hexadecimal

Two digits a byte, the high half first. Bytes are written with lower-case letters; letters
of either case are read.
-/

namespace EvidenceLedger.Bytes

/-- Is `c` one of the 22 ASCII characters that write a hexadecimal digit? -/
def isHexDigit (c : Char) : Bool :=
  ('0' ≤ c && c ≤ '9') || ('a' ≤ c && c ≤ 'f') || ('A' ≤ c && c ≤ 'F')

/-- The value of a hexadecimal digit, and nothing for any other character. -/
def hexValue? (c : Char) : Option Nat :=
  if '0' ≤ c && c ≤ '9' then some (c.toNat - '0'.toNat)
  else if 'a' ≤ c && c ≤ 'f' then some (c.toNat - 'a'.toNat + 10)
  else if 'A' ≤ c && c ≤ 'F' then some (c.toNat - 'A'.toNat + 10)
  else none

/-- The digit with value `n`, for `n` below 16. -/
def hexDigit (n : Nat) : Char :=
  if n < 10 then Char.ofNat ('0'.toNat + n) else Char.ofNat ('a'.toNat + (n - 10))

def hexPair (b : UInt8) : List Char :=
  [hexDigit (b.toNat / 16), hexDigit (b.toNat % 16)]

def toHexChars (bytes : Bytes) : List Char :=
  bytes.flatMap hexPair

/-- A byte string in lower-case hexadecimal. -/
def toHex (bytes : Bytes) : String :=
  String.ofList (toHexChars bytes)

/-- The bytes that a row of digits writes: nothing if a character is no digit or the last
digit has no partner. -/
def ofHexChars? : List Char → Option Bytes
  | [] => some []
  | high :: low :: rest =>
    match hexValue? high, hexValue? low, ofHexChars? rest with
    | some h, some l, some bytes => some (UInt8.ofNat (16 * h + l) :: bytes)
    | _, _, _ => none
  | [_] => none

def ofHex? (s : String) : Option Bytes :=
  ofHexChars? s.toList

@[simp] theorem toHexChars_nil : toHexChars [] = [] := rfl

@[simp] theorem toHexChars_cons (b : UInt8) (bytes : Bytes) :
    toHexChars (b :: bytes) = hexPair b ++ toHexChars bytes := rfl

@[simp] theorem toList_toHex (bytes : Bytes) : (toHex bytes).toList = toHexChars bytes := by
  simp [toHex]

@[simp] theorem length_toHexChars (bytes : Bytes) :
    (toHexChars bytes).length = 2 * bytes.length := by
  induction bytes with
  | nil => rfl
  | cons b bytes ih => simp [hexPair, ih]; omega

end EvidenceLedger.Bytes
