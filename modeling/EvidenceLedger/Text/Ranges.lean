/-!
# Sets of characters as ranges of code points

A character property of the Unicode character database is a set of code points that
changes a few hundred times over the whole space. Such a set is written here as the list
of its maximal runs, each a closed interval, and membership is a search through the runs.
-/

namespace EvidenceLedger.Text

/-- A set of code points: the union of the closed intervals in the list. -/
abbrev Ranges := List (Nat × Nat)

namespace Ranges

def holds (ranges : Ranges) (n : Nat) : Bool :=
  ranges.any fun r => r.1 ≤ n && n ≤ r.2

def contains (ranges : Ranges) (c : Char) : Bool :=
  ranges.holds c.toNat

@[simp] theorem contains_nil (c : Char) : contains [] c = false := rfl

@[simp] theorem contains_cons (r : Nat × Nat) (ranges : Ranges) (c : Char) :
    contains (r :: ranges) c =
      ((decide (r.1 ≤ c.toNat) && decide (c.toNat ≤ r.2)) || contains ranges c) := rfl

end Ranges

end EvidenceLedger.Text
