import EvidenceLedger.Bytes.Hex
import EvidenceLedger.Json.Source

/-!
# Texts in JSON

Between the quotes stand bytes and escapes. A numbered escape gives a unit of 16 bits; two of
them in a row can make one character, and one that is half of such a pair alone makes none.

A text is first cut into its pieces, which is all that is needed to find its end, and then
put together. Half a pair and bytes that are not UTF-8 come to light only then.
-/

namespace EvidenceLedger.Json

/-- A piece of a text between quotes. -/
inductive Piece where
  | byte (b : UInt8)
  /-- A numbered escape, with its 16 bits. -/
  | unit (n : Nat)
deriving DecidableEq, Repr

def shortEscape? (b : UInt8) : Option UInt8 :=
  if b = '"'.toUInt8 || b = '\\'.toUInt8 || b = '/'.toUInt8 then some b
  else if b = 'b'.toUInt8 then some 0x08
  else if b = 'f'.toUInt8 then some 0x0C
  else if b = 'n'.toUInt8 then some 0x0A
  else if b = 'r'.toUInt8 then some 0x0D
  else if b = 't'.toUInt8 then some 0x09
  else none

/-- The number that four hexadecimal digits write. -/
def hexUnit? (a b c d : UInt8) : Option Nat := do
  let a ← Bytes.hexValue? (Char.ofUInt8 a)
  let b ← Bytes.hexValue? (Char.ofUInt8 b)
  let c ← Bytes.hexValue? (Char.ofUInt8 c)
  let d ← Bytes.hexValue? (Char.ofUInt8 d)
  some (0x1000 * a + 0x100 * b + 0x10 * c + d)

/-- The pieces up to the closing quote, and what follows the quote, or what is wrong where the
pieces end. -/
def scanPieces : Bytes → List Piece × Checked Bytes
  | [] => ([], .error .truncated)
  | b :: rest =>
    if b = '"'.toUInt8 then ([], .ok rest)
    else if b < 0x20 then ([], .error .malformed)
    else if b = '\\'.toUInt8 then
      match rest with
      | [] => ([], .error .truncated)
      | e :: rest =>
        if e = 'u'.toUInt8 then
          match rest with
          | a :: b :: c :: d :: rest =>
            match hexUnit? a b c d with
            | some n =>
              let (pieces, ending) := scanPieces rest
              (.unit n :: pieces, ending)
            | none => ([], .error .malformed)
          | _ => ([], .error .truncated)
        else
          match shortEscape? e with
          | some b =>
            let (pieces, ending) := scanPieces rest
            (.byte b :: pieces, ending)
          | none => ([], .error .malformed)
    else
      let (pieces, ending) := scanPieces rest
      (.byte b :: pieces, ending)

/-- Is the unit the first half of a pair? -/
def isHighHalf (n : Nat) : Bool := 0xD800 ≤ n && n < 0xDC00

/-- Is the unit the second half of a pair? -/
def isLowHalf (n : Nat) : Bool := 0xDC00 ≤ n && n < 0xE000

def pairChar (high low : Nat) : Char :=
  Char.ofNat (0x10000 + 0x400 * (high - 0xD800) + (low - 0xDC00))

/-- The bytes that pieces make together. A first half at the end of the pieces is as wrong as
what stands there, which is `atEnd`. -/
def assemble (atEnd : Fault) : List Piece → Checked Bytes
  | [] => .ok []
  | .byte b :: rest => do return b :: (← assemble atEnd rest)
  | .unit n :: rest =>
    if isLowHalf n then .error .malformed
    else if isHighHalf n then
      match rest with
      | [] => .error atEnd
      | .byte _ :: _ => .error .malformed
      | .unit m :: rest =>
        if isLowHalf m then do
          return String.utf8EncodeChar (pairChar n m) ++ (← assemble atEnd rest)
        else .error .malformed
    else do return String.utf8EncodeChar (Char.ofNat n) ++ (← assemble atEnd rest)

/-- The text whose bytes follow an opening quote, and what follows its closing quote. -/
def scanText (bytes : Bytes) : Except Flaw String × Bytes :=
  let (pieces, ending) := scanPieces bytes
  match ending with
  | .error fault =>
    match assemble fault pieces with
    | .error earlier => (.error ⟨earlier, some fault⟩, [])
    | .ok _ => (.error ⟨fault, some fault⟩, [])
  | .ok rest =>
    match assemble .malformed pieces with
    | .error fault => (.error ⟨fault, none⟩, rest)
    | .ok bytes =>
      match Bytes.toString? bytes with
      | some s => (.ok s, rest)
      | none => (.error ⟨.malformed, none⟩, rest)

end EvidenceLedger.Json
