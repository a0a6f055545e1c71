import EvidenceLedger.Bytes.Hex

/-!
# JSON values and their written form

The values that the ledger writes: no number is other than whole, and the members of an
object come in the order in which they are to be written.

The written form is a byte string without blanks. Only what has to be escaped is escaped:
the quote, the backslash and the control characters. All other bytes of a text stand for
themselves, so the bytes between the quotes are those of the text but for the escapes.
-/

namespace EvidenceLedger

inductive Json where
  | null
  | bool (b : Bool)
  | num (n : Int)
  | str (s : String)
  | arr (items : List Json)
  | obj (members : List (String × Json))
deriving Inhabited

namespace Json

def nat (n : Nat) : Json := .num n

/-- What stands for a byte of a text between the quotes. -/
def escapeByte (b : UInt8) : Bytes :=
  if b = '"'.toUInt8 then ['\\'.toUInt8, '"'.toUInt8]
  else if b = '\\'.toUInt8 then ['\\'.toUInt8, '\\'.toUInt8]
  else if b = 0x08 then ['\\'.toUInt8, 'b'.toUInt8]
  else if b = 0x09 then ['\\'.toUInt8, 't'.toUInt8]
  else if b = 0x0A then ['\\'.toUInt8, 'n'.toUInt8]
  else if b = 0x0C then ['\\'.toUInt8, 'f'.toUInt8]
  else if b = 0x0D then ['\\'.toUInt8, 'r'.toUInt8]
  else if b < 0x20 then
    ['\\', 'u', '0', '0'].map Char.toUInt8 ++ (Bytes.hexPair b).map Char.toUInt8
  else [b]

def quoted (s : String) : Bytes :=
  '"'.toUInt8 :: (Bytes.ofString s).flatMap escapeByte ++ ['"'.toUInt8]

def decimal (n : Int) : Bytes :=
  let digits := (Nat.toDigits 10 n.natAbs).map Char.toUInt8
  if n < 0 then '-'.toUInt8 :: digits else digits

mutual

def toBytes : Json → Bytes
  | .null => Bytes.ofString "null"
  | .bool true => Bytes.ofString "true"
  | .bool false => Bytes.ofString "false"
  | .num n => decimal n
  | .str s => quoted s
  | .arr items => '['.toUInt8 :: itemsToBytes items ++ [']'.toUInt8]
  | .obj members => '\x7b'.toUInt8 :: membersToBytes members ++ ['\x7d'.toUInt8]

def itemsToBytes : List Json → Bytes
  | [] => []
  | [v] => v.toBytes
  | v :: w :: rest => v.toBytes ++ ','.toUInt8 :: itemsToBytes (w :: rest)

def membersToBytes : List (String × Json) → Bytes
  | [] => []
  | [(k, v)] => quoted k ++ ':'.toUInt8 :: v.toBytes
  | (k, v) :: m :: rest =>
    quoted k ++ ':'.toUInt8 :: v.toBytes ++ ','.toUInt8 :: membersToBytes (m :: rest)

end

end Json

end EvidenceLedger
