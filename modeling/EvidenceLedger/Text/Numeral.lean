/-!
# Decimal numerals

Messages and canonical forms write a number with as few digits as it has. Configuration values
and query strings are read more freely: digits, with a plus sign in front if one likes, and as
many leading zeros as one likes. Anything else in the text, a blank included, makes it no
numeral, and so does a value above the bound.
-/

namespace EvidenceLedger.Text

def digitValue (c : Char) : Nat :=
  c.toNat - '0'.toNat

def digitsValue (cs : List Char) : Nat :=
  cs.foldl (fun n c => 10 * n + digitValue c) 0

/-- A number in decimal, without sign or superfluous zeros. -/
def decimal (n : Nat) : String :=
  String.ofList (Nat.toDigits 10 n)

@[simp] theorem toList_decimal (n : Nat) : (decimal n).toList = Nat.toDigits 10 n := by
  simp [decimal]

@[simp] theorem digitsValue_nil : digitsValue [] = 0 := rfl

/-- The number that `s` writes, if it is a numeral for a number of at most `bound`. -/
def unsigned? (bound : Nat) (s : String) : Option Nat :=
  let digits := match s.toList with
    | '+' :: rest => rest
    | cs => cs
  if digits.isEmpty || !digits.all Char.isDigit then none
  else if digitsValue digits ≤ bound then some (digitsValue digits) else none

end EvidenceLedger.Text
