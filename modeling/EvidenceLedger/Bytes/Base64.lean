import EvidenceLedger.Bytes.Basic

/-!
# Base64

The standard alphabet, four characters for three bytes. A last group of one or two bytes is
filled up with padding, which is required, and its unused bits are zero. So every byte
string has exactly one written form, and everything else is refused, line ends included.
-/

namespace EvidenceLedger.Bytes

/-- The character with value `n`, for `n` below 64. -/
def base64Char (n : Nat) : Char :=
  if n < 26 then Char.ofNat ('A'.toNat + n)
  else if n < 52 then Char.ofNat ('a'.toNat + (n - 26))
  else if n < 62 then Char.ofNat ('0'.toNat + (n - 52))
  else if n = 62 then '+'
  else '/'

def base64Value? (c : Char) : Option Nat :=
  if 'A' ≤ c && c ≤ 'Z' then some (c.toNat - 'A'.toNat)
  else if 'a' ≤ c && c ≤ 'z' then some (c.toNat - 'a'.toNat + 26)
  else if '0' ≤ c && c ≤ '9' then some (c.toNat - '0'.toNat + 52)
  else if c = '+' then some 62
  else if c = '/' then some 63
  else none

def toBase64Chars : Bytes → List Char
  | [] => []
  | [a] => [base64Char (a.toNat / 4), base64Char (a.toNat % 4 * 16), '=', '=']
  | [a, b] =>
    [base64Char (a.toNat / 4), base64Char (a.toNat % 4 * 16 + b.toNat / 16),
      base64Char (b.toNat % 16 * 4), '=']
  | a :: b :: c :: rest =>
    base64Char (a.toNat / 4) :: base64Char (a.toNat % 4 * 16 + b.toNat / 16) ::
      base64Char (b.toNat % 16 * 4 + c.toNat / 64) :: base64Char (c.toNat % 64) ::
      toBase64Chars rest

def toBase64 (bytes : Bytes) : String :=
  String.ofList (toBase64Chars bytes)

/-- The byte that two characters and two pads write. -/
def oneByte? (a b : Char) : Option Bytes := do
  let x ← base64Value? a
  let y ← base64Value? b
  if y % 16 = 0 then some [UInt8.ofNat (x * 4 + y / 16)] else none

/-- The two bytes that three characters and a pad write. -/
def twoBytes? (a b c : Char) : Option Bytes := do
  let x ← base64Value? a
  let y ← base64Value? b
  let z ← base64Value? c
  if z % 4 = 0 then
    some [UInt8.ofNat (x * 4 + y / 16), UInt8.ofNat (y % 16 * 16 + z / 4)]
  else none

/-- The three bytes that four characters write. -/
def threeBytes? (a b c d : Char) : Option Bytes := do
  let x ← base64Value? a
  let y ← base64Value? b
  let z ← base64Value? c
  let w ← base64Value? d
  some [UInt8.ofNat (x * 4 + y / 16), UInt8.ofNat (y % 16 * 16 + z / 4),
    UInt8.ofNat (z % 4 * 64 + w)]

/-- The bytes that a row of characters writes. Padding closes the row. -/
def ofBase64Chars? : List Char → Option Bytes
  | [] => some []
  | [a, b, '=', '='] => oneByte? a b
  | [a, b, c, '='] => twoBytes? a b c
  | a :: b :: c :: d :: rest => do
    let group ← threeBytes? a b c d
    let bytes ← ofBase64Chars? rest
    some (group ++ bytes)
  | _ => none

def ofBase64? (s : String) : Option Bytes :=
  ofBase64Chars? s.toList

@[simp] theorem toList_toBase64 (bytes : Bytes) : (toBase64 bytes).toList = toBase64Chars bytes := by
  simp [toBase64]

end EvidenceLedger.Bytes
