import EvidenceLedger.Bytes.Basic

/-!
# What a text holds as JSON

A text that should be JSON need not be, and one that is need not have the wanted shape. Of
several things that are wrong with a text the first in the order of the text counts. To find
it a reader has to walk through what is good of a text with its own wishes in mind, and so
the tree of a text is built as far as the text goes and says at its end what stopped it.

Some flaws are only seen by a reader that wants the value: half a surrogate pair in a text
and a number too large to be held can be passed over by one that does not.
-/

namespace EvidenceLedger.Json

/-- What is wrong with a text. -/
inductive Fault where
  /-- It is JSON, but not of the wanted shape. -/
  | shape
  /-- It is not JSON. -/
  | malformed
  /-- It ends too early. -/
  | truncated
deriving DecidableEq, Repr, Inhabited

def Fault.describe : Fault → String
  | .shape => "a value has the wrong shape"
  | .malformed => "the text is not JSON"
  | .truncated => "the text ends too early"

/-- A flaw at one place of a text: what is wrong for a reader that wants what stands there,
and for one that passes it over, if that one finds anything wrong. If it does, the text is
not followed any further. -/
structure Flaw where
  reading : Fault
  passing : Option Fault
deriving DecidableEq, Repr

/-- The flaw of a place where the text stops being JSON for every reader. -/
def Flaw.stop (fault : Fault) : Flaw := ⟨fault, some fault⟩

/-- Does a whole number fit into 64 bits, with a sign or without one? -/
def fitsWord (n : Int) : Bool :=
  -(UInt64.size / 2 : Nat) ≤ n && n < UInt64.size

inductive Source where
  | null
  | bool (b : Bool)
  /-- A whole number of 64 bits, with or without sign. -/
  | int (n : Int)
  /-- Any other number. -/
  | real
  | str (s : String)
  | flawed (flaw : Flaw)
  /-- The items that were found, and what was wrong where the next one or the end was
  expected. -/
  | arr (items : List Source) (stop : Option Fault)
  /-- The members that were found, and what was wrong where the next one or the end was
  expected. -/
  | obj (members : List (Except Flaw String × Source)) (stop : Option Fault)

/-- Nothing but a flaw is found. -/
abbrev Checked := Except Fault

def Fault.check : Option Fault → Checked Unit
  | none => .ok ()
  | some fault => .error fault

/-- What a reader finds wrong with a value that is not what it wants. -/
def Source.mismatch : Source → Fault
  | .flawed flaw => flaw.reading
  | _ => .shape

mutual

/-- What is wrong with a value for a reader that passes it over. -/
def Source.pass : Source → Checked Unit
  | .flawed flaw => Fault.check flaw.passing
  | .arr items stop => do passItems items; Fault.check stop
  | .obj members stop => do passMembers members; Fault.check stop
  | _ => .ok ()

/-- What is wrong with items for a reader that passes them over. -/
def passItems : List Source → Checked Unit
  | [] => .ok ()
  | s :: rest => do s.pass; passItems rest

/-- What is wrong with members for a reader that passes them over. -/
def passMembers : List (Except Flaw String × Source) → Checked Unit
  | [] => .ok ()
  | (.error flaw, s) :: rest => do Fault.check flaw.passing; s.pass; passMembers rest
  | (.ok _, s) :: rest => do s.pass; passMembers rest

end

end EvidenceLedger.Json
