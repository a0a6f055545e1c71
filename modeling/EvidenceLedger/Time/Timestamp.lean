import EvidenceLedger.Time.Calendar

/-!
# Timestamps

An instant in universal time, to the nanosecond, in the years -262143 to 262142. A leap
second is the second half of the second before it: it has that second's number and a
nanosecond count from 10⁹ on, and it can only follow a second numbered 59.

The written form is the date, a `T`, the time of day, and a `Z`. A leap second is written as
second 60. The fraction has 0, 3, 6 or 9 digits, the fewest that lose nothing. Years from 0
to 9999 have four digits, all others a sign and at least four.
-/

namespace EvidenceLedger

namespace Timestamp

/-- The first second of the year -262143. -/
def firstSecond : Int := -8334601228800

/-- The last second of the year 262142. -/
def lastSecond : Int := 8210266876799

def nanosPerSecond : Nat := 1000000000

/-- Is there an instant with this second and this nanosecond count? -/
def Exists (seconds : Int) (nanos : Nat) : Prop :=
  firstSecond ≤ seconds ∧ seconds ≤ lastSecond ∧
    (nanos < nanosPerSecond ∨ (nanos < 2 * nanosPerSecond ∧ seconds % 60 = 59))

instance (seconds : Int) (nanos : Nat) : Decidable (Exists seconds nanos) :=
  inferInstanceAs (Decidable (_ ∧ _ ∧ _))

end Timestamp

/-- An instant: seconds since the first of 1970, and nanoseconds into the second. -/
structure Timestamp where
  seconds : Int
  nanos : Nat
  exists_ : Timestamp.Exists seconds nanos
deriving DecidableEq

namespace Timestamp

theorem ext {a b : Timestamp} (seconds : a.seconds = b.seconds) (nanos : a.nanos = b.nanos) :
    a = b := by
  cases a
  cases b
  simp_all

/-- The instant with this second and this nanosecond count, if there is one. -/
def ofUnix? (seconds : Int) (nanos : Nat) : Option Timestamp :=
  if h : Exists seconds nanos then some ⟨seconds, nanos, h⟩ else none

@[simp] theorem ofUnix?_self (t : Timestamp) : ofUnix? t.seconds t.nanos = some t := by
  simp [ofUnix?, t.exists_]

structure Civil where
  date : Calendar.Date
  hour : Nat
  minute : Nat
  /-- From 0 to 60; 60 in a leap second. -/
  second : Nat
  nanos : Nat
deriving DecidableEq, Repr

def toCivil (t : Timestamp) : Civil :=
  let ofDay := (t.seconds % 86400).toNat
  let leap := t.nanos / nanosPerSecond
  { date := Calendar.Date.ofDays (t.seconds / 86400)
    hour := ofDay / 3600
    minute := ofDay / 60 % 60
    second := ofDay % 60 + leap
    nanos := t.nanos % nanosPerSecond }

/-- The digits of `n`, at least `width` of them. -/
def padded (width n : Nat) : List Char :=
  let digits := Nat.toDigits 10 n
  List.replicate (width - digits.length) '0' ++ digits

/-- A year: four digits from 0 to 9999, a sign and at least four digits elsewhere. -/
def yearText (year : Int) : List Char :=
  if year < 0 then '-' :: padded 4 year.natAbs
  else if year ≤ 9999 then padded 4 year.natAbs
  else '+' :: padded 4 year.natAbs

/-- The fraction of a second: nothing, or a point and as few groups of three digits as lose
nothing. -/
def fractionText (nanos : Nat) : List Char :=
  if nanos = 0 then []
  else if nanos % 1000000 = 0 then '.' :: padded 3 (nanos / 1000000)
  else if nanos % 1000 = 0 then '.' :: padded 6 (nanos / 1000)
  else '.' :: padded 9 nanos

def Civil.text (c : Civil) : List Char :=
  yearText c.date.year ++ '-' :: padded 2 c.date.month ++ '-' :: padded 2 c.date.day ++
    'T' :: padded 2 c.hour ++ ':' :: padded 2 c.minute ++ ':' :: padded 2 c.second ++
    fractionText c.nanos ++ ['Z']

def toText (t : Timestamp) : String :=
  String.ofList t.toCivil.text

/-- The first instant of 2020, at which every chain begins. -/
def genesis : Timestamp :=
  ⟨1577836800, 0, by decide⟩

@[simp] theorem toList_toText (t : Timestamp) : t.toText.toList = t.toCivil.text := by
  simp [toText]

end Timestamp

end EvidenceLedger
