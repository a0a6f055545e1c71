import EvidenceLedger.Text.Blank
import EvidenceLedger.Text.Numeral
import EvidenceLedger.Time.Timestamp

/-!
# Reading timestamps

Reading is more liberal than writing. White space may stand around every part, numbers need
not be filled up with zeros, the date may be followed by a blank in place of the `T`, and
fraction digits beyond the ninth are dropped. The zone is `UTC` or `Z` in either case, or an
offset of less than a day, whose hours and minutes may be apart by colons and white space.

Only the year may have a sign, and it needs one to have more than four digits. The date has
to exist, and so has the instant after the offset is taken off.

A reader takes the characters that are left and returns its value with what is left then.
-/

namespace EvidenceLedger.Timestamp

open Text (trimStart isSpace digitsValue)

/-- A row of at least one and at most `limit` digits: all that are there. -/
def readDigits? (limit : Option Nat) (cs : List Char) : Option (Nat × List Char) :=
  let window := match limit with
    | some n => cs.take n
    | none => cs
  let digits := window.takeWhile Char.isDigit
  if digits.isEmpty then none else some (digitsValue digits, cs.drop digits.length)

def readChar? (c : Char) : List Char → Option (List Char)
  | [] => none
  | d :: cs => if d = c then some cs else none

/-- White space, then a number of one or two digits. -/
def readField? (cs : List Char) : Option (Nat × List Char) :=
  readDigits? (some 2) (trimStart cs)

/-- White space, then a year. -/
def readYear? (cs : List Char) : Option (Int × List Char) :=
  match trimStart cs with
  | '-' :: rest => (readDigits? none rest).map fun (n, rest) => (-(n : Int), rest)
  | '+' :: rest => (readDigits? none rest).map fun (n, rest) => ((n : Int), rest)
  | rest => (readDigits? (some 4) rest).map fun (n, rest) => ((n : Int), rest)

/-- A date: its three numbers with dashes between them. -/
def readDate? (cs : List Char) : Option (Calendar.Date × List Char) := do
  let (year, cs) ← readYear? cs
  let cs ← readChar? '-' (trimStart cs)
  let (month, cs) ← readField? cs
  let cs ← readChar? '-' (trimStart cs)
  let (day, cs) ← readField? cs
  some (⟨year, month, day⟩, cs)

def readMark? : List Char → Option (List Char)
  | 'T' :: cs | 't' :: cs | ' ' :: cs => some cs
  | _ => none

/-- The nanoseconds that the first nine of a row of fraction digits give. -/
def fractionValue (digits : List Char) : Nat :=
  let kept := digits.take 9
  digitsValue kept * Nat.pow 10 (9 - kept.length)

/-- A fraction of a second, if a point stands next. -/
def readFraction? : List Char → Option (Nat × List Char)
  | '.' :: cs =>
    let digits := cs.takeWhile Char.isDigit
    if digits.isEmpty then none else some (fractionValue digits, cs.drop digits.length)
  | cs => some (0, cs)

/-- A time of day: hour, minute, second and fraction. -/
def readTime? (cs : List Char) : Option ((Nat × Nat × Nat × Nat) × List Char) := do
  let (hour, cs) ← readField? cs
  let cs ← readChar? ':' (trimStart cs)
  let (minute, cs) ← readField? cs
  let cs ← readChar? ':' (trimStart cs)
  let (second, cs) ← readField? cs
  let (nanos, cs) ← readFraction? cs
  some ((hour, minute, second, nanos), cs)

/-- Two digits, for hours or minutes of an offset. -/
def readPair? : List Char → Option (Nat × List Char)
  | a :: b :: cs => if a.isDigit && b.isDigit then some (digitsValue [a, b], cs) else none
  | _ => none

/-- The hours and minutes of an offset, in minutes. -/
def readOffset? (cs : List Char) : Option (Nat × List Char) := do
  let (hours, cs) ← readPair? cs
  let (minutes, cs) ← readPair? (cs.dropWhile fun c => c == ':' || isSpace c)
  if minutes < 60 && hours < 24 then some (60 * hours + minutes, cs) else none

/-- The zone, as minutes to take off. -/
def readZone? (cs : List Char) : Option (Int × List Char) :=
  match cs with
  | 'Z' :: rest | 'z' :: rest => some (0, rest)
  | '+' :: rest => (readOffset? rest).map fun (n, rest) => ((n : Int), rest)
  | '-' :: rest | '\u2212' :: rest => (readOffset? rest).map fun (n, rest) => (-(n : Int), rest)
  | u :: t :: c :: rest =>
    if [u, t, c].map Char.toUpper = ['U', 'T', 'C'] then some (0, rest) else none
  | _ => none

/-- The instant that a date, a time of day and a zone give. Second 60 is the leap second
after second 59. -/
def ofParts? (date : Calendar.Date) (time : Nat × Nat × Nat × Nat) (zone : Int) :
    Option Timestamp :=
  let (hour, minute, second, nanos) := time
  if date.isValid && -262143 ≤ date.year && date.year ≤ 262142 && hour < 24 && minute < 60 &&
      second ≤ 60 then
    let leap := second / 60
    let ofDay : Int := (3600 * hour + 60 * minute + (second - leap) : Nat)
    ofUnix? (86400 * date.toDays + ofDay - 60 * zone) (nanos + leap * nanosPerSecond)
  else none

def ofChars? (cs : List Char) : Option Timestamp := do
  let (date, cs) ← readDate? cs
  let cs ← readMark? cs
  let (time, cs) ← readTime? cs
  let (zone, cs) ← readZone? (trimStart cs)
  if (trimStart cs).isEmpty then ofParts? date time zone else none

def ofText? (s : String) : Option Timestamp :=
  ofChars? s.toList

end EvidenceLedger.Timestamp
