import EvidenceLedger.Json.Scan
import EvidenceLedger.Json.Value

/-!
# Reading values of a wanted shape

A reader takes the tree of a text and gives a value or the first fault, first in the order of
the text. Scalars and lists are read by functions. A record is read by a `RecordReader`, which
says of every field how it is read and what it is if it is absent, and which is put together
from one reader a field.

A record has two written forms. As an object its members may come in any order; unknown ones
are passed over, and none may come twice. As an array its fields come in the order of the
record; those that have a default may be left out at the end. What comes too much, be it only
a comma, is taken for a malformed text and not for a wrong shape.
-/

namespace EvidenceLedger.Json

/-- Gives a value or the first fault. -/
abbrev Reader (α : Type) := Source → Checked α

namespace Reader

def text : Reader String
  | .str s => .ok s
  | s => .error s.mismatch

def bool : Reader Bool
  | .bool b => .ok b
  | s => .error s.mismatch

/-- A whole number from `low` to `high`, both included. -/
def between (low high : Int) : Reader Int
  | .int n => if low ≤ n ∧ n ≤ high then .ok n else .error .shape
  | s => .error s.mismatch

def word64 : Reader UInt64 := fun s => do
  return UInt64.ofNat (← between 0 (UInt64.size - 1 : Nat) s).toNat

def word16 : Reader UInt16 := fun s => do
  return UInt16.ofNat (← between 0 (UInt16.size - 1 : Nat) s).toNat

def nullable {α : Type} (read : Reader α) : Reader (Option α)
  | .null => .ok none
  | s => some <$> read s

def list {α : Type} (read : Reader α) : Reader (List α)
  | .arr items stop => do
    let values ← items.mapM read
    Fault.check stop
    return values
  | s => .error s.mismatch

/-- A value that is `decode?` of a text. -/
def ofText {α : Type} (decode? : String → Option α) : Reader α := fun s => do
  match decode? (← text s) with
  | some value => .ok value
  | none => .error .shape

def key : Except Flaw String → Checked String
  | .ok name => .ok name
  | .error flaw => .error flaw.reading

/-- The members of an object, one after the other, put into what is there so far. -/
def entries {α σ : Type} (read : Reader α) (put : σ → String → α → σ) (start : σ) : Reader σ
  | .obj members stop => do
    let all ← members.foldlM
      (fun sofar m => do return put sofar (← key m.1) (← read m.2)) start
    Fault.check stop
    return all
  | s => .error s.mismatch

end Reader

/-- How a record is read. While the members of an object come by, what is known of the fields
is kept in slots. -/
structure RecordReader (α : Type) where
  Slots : Type
  empty : Slots
  /-- The slots after a member, if it is one of the fields. -/
  fill : String → Source → Slots → Option (Checked Slots)
  /-- The record, when all members have come by. -/
  finish : Slots → Checked α
  /-- The record and the items that are left, from the items of an array and what stops it. -/
  take : Option Fault → List Source → Checked (α × List Source)

namespace RecordReader

/-- A record of one field. `absent` is its value if an object has no such member, `short` if an
array ends before it. -/
def field {α : Type} (name : String) (read : Reader α) (absent short : Option α) :
    RecordReader α where
  Slots := Option α
  empty := none
  fill key source slot :=
    if key = name then
      some (match slot with
        | some _ => .error .shape
        | none => some <$> read source)
    else none
  finish slot :=
    match slot, absent with
    | some value, _ => .ok value
    | none, some value => .ok value
    | none, none => .error .shape
  take stop items :=
    match items, stop, short with
    | item :: rest, _, _ => do return (← read item, rest)
    | [], some fault, _ => .error fault
    | [], none, some value => .ok (value, [])
    | [], none, none => .error .shape

/-- A field that has to be there. -/
def required {α : Type} (name : String) (read : Reader α) : RecordReader α :=
  field name read none none

/-- A field that may be null, or be absent from an object. -/
def optional {α : Type} (name : String) (read : Reader α) : RecordReader (Option α) :=
  field name (Reader.nullable read) (some none) none

/-- A field with a value for when it is absent from an object or from the end of an array. -/
def default {α : Type} (name : String) (read : Reader α) (value : α) : RecordReader α :=
  field name read (some value) (some value)

def map {α β : Type} (f : α → β) (r : RecordReader α) : RecordReader β where
  Slots := r.Slots
  empty := r.empty
  fill := r.fill
  finish slots := f <$> r.finish slots
  take stop items := do
    let (a, rest) ← r.take stop items
    return (f a, rest)

/-- Two groups of fields, the first ones first. -/
def pair {α β : Type} (r : RecordReader α) (s : RecordReader β) : RecordReader (α × β) where
  Slots := r.Slots × s.Slots
  empty := (r.empty, s.empty)
  fill key source slots :=
    match r.fill key source slots.1 with
    | some filled => some do return (← filled, slots.2)
    | none =>
      match s.fill key source slots.2 with
      | some filled => some do return (slots.1, ← filled)
      | none => none
  finish slots := do return (← r.finish slots.1, ← s.finish slots.2)
  take stop items := do
    let (a, rest) ← r.take stop items
    let (b, rest) ← s.take stop rest
    return ((a, b), rest)

/-- Give a function its next argument from the next field. -/
def and {α β : Type} (r : RecordReader (α → β)) (s : RecordReader α) : RecordReader β :=
  (r.pair s).map fun (f, a) => f a

/-- The slots after a member. -/
def step {α : Type} (r : RecordReader α) (slots : r.Slots) (member : Except Flaw String × Source) :
    Checked r.Slots := do
  let name ← Reader.key member.1
  match r.fill name member.2 slots with
  | some filled => filled
  | none => do
    member.2.pass
    return slots

/-- Read a record in either form. -/
def read {α : Type} (r : RecordReader α) : Reader α
  | .obj members stop => do
    let slots ← members.foldlM r.step r.empty
    Fault.check stop
    r.finish slots
  | .arr items stop => do
    let (value, rest) ← r.take stop items
    match rest with
    | _ :: _ => .error .malformed
    | [] => do
      Fault.check stop
      return value
  | s => .error s.mismatch

end RecordReader

/-- A type whose values are written as JSON and read from it. -/
class Wire (α : Type) where
  encode : α → Json
  decode : Reader α

export Wire (encode decode)

/-- Read the value that a text begins with, whatever follows it. -/
def readFirst {α : Type} (read : Reader α) (bytes : Bytes) : Checked α :=
  read (Source.scan bytes).1

/-- Read a text that holds one value and nothing else but blanks. -/
def readWhole {α : Type} (read : Reader α) (bytes : Bytes) : Checked α := do
  let (source, rest) := Source.scan bytes
  let value ← read source
  match skipBlanks rest with
  | [] => return value
  | _ => .error .malformed

/-- A value that may be missing, written as null if it is. -/
def encodeOption {α : Type} (write : α → Json) : Option α → Json
  | none => .null
  | some a => write a

def encodeList {α : Type} (write : α → Json) (items : List α) : Json :=
  .arr (items.map write)

def word64 (n : UInt64) : Json := .num n.toNat

end EvidenceLedger.Json
