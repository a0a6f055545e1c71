import EvidenceLedger.Json.Source

/-!
# Numbers in JSON

A numeral has an integer part without superfluous zeros, and may have a fraction and an
exponent. One that has neither and fits into 64 bits is a whole number; every other one is a
real number, minus zero included. Real numbers are of no use to a ledger, and only one thing
about them matters: one that no double can hold cannot be read.

Whether a double can hold it is told in double arithmetic: the first digits, as far as they
fit into 64 bits, are rounded, and so is the power of ten; their product must not reach the
middle between the largest double and the next power of two.
-/

namespace EvidenceLedger.Json

def isDigit (b : UInt8) : Bool := '0'.toUInt8 ≤ b && b ≤ '9'.toUInt8

def digitValue (b : UInt8) : Nat := b.toNat - '0'.toNat

def digitsValue (digits : Bytes) : Nat :=
  digits.foldl (fun n b => 10 * n + digitValue b) 0

structure Numeral where
  negative : Bool
  whole : Bytes
  fraction : Option Bytes
  /-- Is the exponent negative, and what are its digits? -/
  exponent : Option (Bool × Bytes)

namespace Numeral

/-- What is wrong where a digit has to stand and none does. The end of the text is only seen
by a reader that wants the number. -/
def missingDigit : Bytes → Flaw
  | [] => ⟨.truncated, some .malformed⟩
  | _ => .stop .malformed

/-- A row of at least one digit. -/
def scanDigits (bytes : Bytes) : Except Flaw (Bytes × Bytes) :=
  match bytes.takeWhile isDigit with
  | [] => .error (missingDigit bytes)
  | digits => .ok (digits, bytes.dropWhile isDigit)

/-- The integer part: digits of which the first is not zero, or a zero alone. -/
def scanWhole (bytes : Bytes) : Except Flaw (Bytes × Bytes) := do
  let (digits, rest) ← scanDigits bytes
  match digits with
  | first :: _ :: _ => if first = '0'.toUInt8 then .error (.stop .malformed) else .ok (digits, rest)
  | _ => .ok (digits, rest)

/-- The fraction, if a point stands next. -/
def scanFraction : Bytes → Except Flaw (Option Bytes × Bytes)
  | [] => .ok (none, [])
  | b :: rest =>
    if b = '.'.toUInt8 then do
      let (digits, rest) ← scanDigits rest
      return (some digits, rest)
    else .ok (none, b :: rest)

/-- The exponent, if its mark stands next. -/
def scanExponent : Bytes → Except Flaw (Option (Bool × Bytes) × Bytes)
  | [] => .ok (none, [])
  | b :: rest =>
    if b = 'e'.toUInt8 || b = 'E'.toUInt8 then do
      let (negative, rest) := match rest with
        | [] => (false, [])
        | s :: tail =>
          if s = '-'.toUInt8 then (true, tail)
          else if s = '+'.toUInt8 then (false, tail)
          else (false, rest)
      let (digits, rest) ← scanDigits rest
      return (some (negative, digits), rest)
    else .ok (none, b :: rest)

/-- A minus sign, if one stands next. -/
def scanSign : Bytes → Bool × Bytes
  | [] => (false, [])
  | b :: rest => if b = '-'.toUInt8 then (true, rest) else (false, b :: rest)

/-- The numeral that the bytes begin with. -/
def scan (bytes : Bytes) : Except Flaw (Numeral × Bytes) := do
  let (negative, rest) := scanSign bytes
  let (whole, rest) ← scanWhole rest
  let (fraction, rest) ← scanFraction rest
  let (exponent, rest) ← scanExponent rest
  return (⟨negative, whole, fraction, exponent⟩, rest)

/-- The whole number that a numeral writes, if it writes one of 64 bits. -/
def toInt? (n : Numeral) : Option Int :=
  match n.fraction, n.exponent with
  | none, none =>
    let value := digitsValue n.whole
    if n.negative then
      if value != 0 && fitsWord (-(value : Int)) then some (-(value : Int)) else none
    else if fitsWord value then some value else none
  | _, _ => none

/-- The leading digits as far as their value fits into 64 bits, with their number. -/
def leading (digits : Bytes) : Nat × Nat :=
  let rec go (value count : Nat) : Bytes → Nat × Nat
    | [] => (value, count)
    | b :: rest =>
      let next := 10 * value + digitValue b
      if next < UInt64.size then go next (count + 1) rest else (value, count)
  go 0 0 digits

/-- The nearest number with at most 53 binary digits before the zeros, of two the even one. -/
def round53 (n : Nat) : Nat :=
  let unit := Nat.pow 2 (n.log2 - 52)
  let (q, r) := (n / unit, n % unit)
  let up := unit < 2 * r || (unit == 2 * r && q % 2 == 1)
  (if up then q + 1 else q) * unit

/-- The least product that is no double any more. -/
def doubleBound : Nat := Nat.pow 2 1024 - Nat.pow 2 970

/-- Is the value beyond what a double can hold? -/
def isHuge (n : Numeral) : Bool :=
  let digits := n.whole ++ n.fraction.getD []
  let (significand, used) := leading digits
  let scale : Int := n.whole.length - used
  let exponent := match n.exponent with
    | none => 0
    | some (negative, digits) => if negative then -(digitsValue digits : Int) else digitsValue digits
  let power := scale + exponent
  significand != 0 && 0 ≤ power &&
    (308 < power || doubleBound ≤ round53 significand * round53 (Nat.pow 10 power.toNat))

def toSource (n : Numeral) : Source :=
  match n.toInt? with
  | some i => .int i
  | none => if n.isHuge then .flawed ⟨.malformed, none⟩ else .real

end Numeral

end EvidenceLedger.Json
