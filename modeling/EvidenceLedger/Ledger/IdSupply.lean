import EvidenceLedger.Ledger.Basic

/-!
# New identifiers

Evidence that comes without an identifier gets a new one. New identifiers have the layout of
universally unique ones of the fourth version, and are told apart by a number that counts
them.
-/

namespace EvidenceLedger

/-- How many identifiers were given out. -/
structure IdSupply where
  issued : Nat
deriving DecidableEq

namespace IdSupply

/-- The digits of `n` to base 16, as many as `width` says. -/
def hexDigits (width n : Nat) : List Char :=
  match width with
  | 0 => []
  | width + 1 => hexDigits width (n / 16) ++ [Bytes.hexDigit (n % 16)]

def next (s : IdSupply) : String :=
  "00000000-0000-4000-8000-" ++ String.ofList (hexDigits 12 (s.issued + 1))

def issue (s : IdSupply) : IdSupply :=
  ⟨s.issued + 1⟩

end IdSupply

/-- Submit evidence, and give an identifier out if the evidence is taken and needs one. -/
def Ledger.submitNew (l : Ledger) (draft : EvidenceDraft) (ids : IdSupply) (now : Timestamp) :
    Outcome EvidenceRecord × IdSupply :=
  let outcome := l.submit draft ids.next now
  (outcome, if outcome.answer.isOk && draft.needsId then ids.issue else ids)

end EvidenceLedger
