import EvidenceLedger.Json.Escape
import EvidenceLedger.Json.Numeral

/-!
# From bytes to the tree of a text

Blanks are the space, the tab and the two line ends. Of two steps of the scan that are nested
in each other one at least takes a byte, so twice the length of the text bounds their number.
Where the text stops being JSON nothing is left to go on with.
-/

namespace EvidenceLedger.Json

def isBlankByte (b : UInt8) : Bool :=
  b == 0x20 || b == 0x0A || b == 0x0D || b == 0x09

def skipBlanks (bytes : Bytes) : Bytes :=
  bytes.dropWhile isBlankByte

/-- The rest of a word whose letters are known. -/
def scanWord (word : Bytes) (value : Source) (bytes : Bytes) : Source × Bytes :=
  match word, bytes with
  | [], rest => (value, rest)
  | _ :: _, [] => (.flawed (.stop .truncated), [])
  | w :: word, b :: rest =>
    if w = b then scanWord word value rest else (.flawed (.stop .malformed), [])

def scanNumber (bytes : Bytes) : Source × Bytes :=
  match Numeral.scan bytes with
  | .error flaw => (.flawed flaw, [])
  | .ok (n, rest) => (n.toSource, rest)

mutual

/-- The value that the bytes begin with, blanks aside. -/
def scanValue (steps : Nat) (bytes : Bytes) : Source × Bytes :=
  match steps with
  | 0 => (.flawed (.stop .truncated), [])
  | steps + 1 =>
    match skipBlanks bytes with
    | [] => (.flawed (.stop .truncated), [])
    | b :: rest =>
      if b = '"'.toUInt8 then
        match scanText rest with
        | (.ok s, rest) => (.str s, rest)
        | (.error flaw, rest) => (.flawed flaw, rest)
      else if b = '['.toUInt8 then
        match skipBlanks rest with
        | [] => (.arr [] (some .truncated), [])
        | c :: tail =>
          if c = ']'.toUInt8 then (.arr [] none, tail)
          else
            let (items, stop, rest) := scanItems steps rest
            (.arr items stop, rest)
      else if b = '\x7b'.toUInt8 then
        match skipBlanks rest with
        | [] => (.obj [] (some .truncated), [])
        | c :: tail =>
          if c = '\x7d'.toUInt8 then (.obj [] none, tail)
          else
            let (members, stop, rest) := scanMembers steps rest
            (.obj members stop, rest)
      else if b = 'n'.toUInt8 then scanWord (Bytes.ofString "ull") .null rest
      else if b = 't'.toUInt8 then scanWord (Bytes.ofString "rue") (.bool true) rest
      else if b = 'f'.toUInt8 then scanWord (Bytes.ofString "alse") (.bool false) rest
      else if b = '-'.toUInt8 || isDigit b then scanNumber (b :: rest)
      else (.flawed (.stop .malformed), [])

/-- An item and what follows it in its array. -/
def scanItems (steps : Nat) (bytes : Bytes) : List Source × Option Fault × Bytes :=
  match steps with
  | 0 => ([], some .truncated, [])
  | steps + 1 =>
    let (item, rest) := scanValue steps bytes
    match skipBlanks rest with
    | [] => ([item], some .truncated, [])
    | b :: rest =>
      if b = ']'.toUInt8 then ([item], none, rest)
      else if b = ','.toUInt8 then
        if (skipBlanks rest).head? = some ']'.toUInt8 then ([item], some .malformed, [])
        else
          let (items, stop, rest) := scanItems steps rest
          (item :: items, stop, rest)
      else ([item], some .malformed, [])

/-- A member and what follows it in its object. -/
def scanMembers (steps : Nat) (bytes : Bytes) :
    List (Except Flaw String × Source) × Option Fault × Bytes :=
  match steps with
  | 0 => ([], some .truncated, [])
  | steps + 1 =>
    match skipBlanks bytes with
    | [] => ([], some .truncated, [])
    | q :: rest =>
      if q = '"'.toUInt8 then
        let (key, rest) := scanText rest
        let (value, rest) := match skipBlanks rest with
          | [] => (.flawed (.stop .truncated), [])
          | c :: rest =>
            if c = ':'.toUInt8 then scanValue steps rest else (.flawed (.stop .malformed), [])
        match skipBlanks rest with
        | [] => ([(key, value)], some .truncated, [])
        | b :: rest =>
          if b = '\x7d'.toUInt8 then ([(key, value)], none, rest)
          else if b = ','.toUInt8 then
            let (members, stop, rest) := scanMembers steps rest
            ((key, value) :: members, stop, rest)
          else ([(key, value)], some .malformed, [])
      else ([], some .malformed, [])

end

/-- The first value of a text, and what follows it. -/
def Source.scan (bytes : Bytes) : Source × Bytes :=
  scanValue (2 * bytes.length + 1) bytes

end EvidenceLedger.Json
