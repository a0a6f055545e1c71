import EvidenceLedger.Bytes.Hex

/-!
# Percent encoding

In addresses a byte may be written as a percent sign and two hexadecimal digits. A percent
sign that is not followed by two digits stands for itself. In a query a plus sign is a blank,
and pairs of names and values are separated by ampersands.
-/

namespace EvidenceLedger.Percent

/-- The bytes that a percent-encoded byte string stands for. -/
def decode : Bytes → Bytes
  | [] => []
  | b :: rest =>
    if b = '%'.toUInt8 then
      match rest with
      | high :: low :: tail =>
        match Bytes.hexValue? (Char.ofUInt8 high), Bytes.hexValue? (Char.ofUInt8 low) with
        | some h, some l => UInt8.ofNat (16 * h + l) :: decode tail
        | _, _ => b :: decode (high :: low :: tail)
      | tail => b :: decode tail
    else b :: decode rest

/-- The bytes that a part of a query stands for. -/
def decodeForm (bytes : Bytes) : Bytes :=
  decode (bytes.map fun b => if b = '+'.toUInt8 then 0x20 else b)

/-- The name and the value of a pair, which ends its name at the first equals sign. -/
def formPair (bytes : Bytes) : Bytes × Bytes :=
  (decodeForm (bytes.takeWhile (· != '='.toUInt8)),
    decodeForm ((bytes.dropWhile (· != '='.toUInt8)).drop 1))

def formPairs (query : Bytes) : List (Bytes × Bytes) :=
  ((query.splitOnP (· == '&'.toUInt8)).filter (!·.isEmpty)).map formPair

end EvidenceLedger.Percent
