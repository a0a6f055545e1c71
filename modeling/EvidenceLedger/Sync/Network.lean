import EvidenceLedger.Replication.FanOut
import EvidenceLedger.Sync.Session

/-!
# Nodes on a network

A node is found under its base address, white space around it and slashes at its end aside. A
node that can be reached answers requests from its ledger, and takes a pushed block if its
ledger accepts it. A node that cannot be reached answers nothing. How an address is made for each
request, and how a request travels, is left aside: an error here says that nobody was reached.
-/

namespace EvidenceLedger

/-- The nodes that can be reached, by their base addresses. -/
abbrev Network := String → Option (Judge × Ledger)

namespace Network

/-- A network on which nobody can be reached. -/
def isolated : Network := fun _ => none

def baseAddress (peer : String) : String :=
  String.ofList ((Text.trim peer).toList.reverse.dropWhile (· == '/')).reverse

/-- Why a request fails if nobody can be reached. -/
def unreachable : String := "connection failed"

def refusalStatus : Nat := 400

/-- What the nodes of a network answer to those who catch up. -/
def transport (network : Network) : Transport where
  head _ peer :=
    ⟨0, match network (baseAddress peer) with
      | some (_, ledger) => .ok ledger.head.header
      | none => .error (.transport peer unreachable)⟩
  blocks _ peer start limit :=
    ⟨0, match network (baseAddress peer) with
      | some (_, ledger) => .ok (ledger.blocksFrom start limit)
      | none => .error (.transport peer unreachable)⟩

/-- What the nodes of a network do with a block that is pushed to them. -/
def publisher (network : Network) : Publisher := fun peer block =>
  ⟨0, match network (baseAddress peer) with
    | some (judge, ledger) =>
      match (ledger.accept judge block).answer with
      | .ok () => .ok ()
      | .error _ => .error (.rejected peer refusalStatus)
    | none => .error (.transport peer unreachable)⟩

end Network

end EvidenceLedger
