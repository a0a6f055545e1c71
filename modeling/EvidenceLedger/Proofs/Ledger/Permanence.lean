import EvidenceLedger.Proofs.Ledger.Audit

/-!
# What was found stays found

An auditor who was once told where a record is sealed is told the same ever after. A chain only
grows at its end, and a lookup goes from the beginning on and stops at the first record that has the
hash; so what comes later can only answer questions that had no answer before. It does not matter
that the same hash may be sealed again, in another block or twice in one.

A report is made of what is found and of whom the node trusts, and a node does not change its mind
about that.
-/

namespace EvidenceLedger

/-- Each record of the block, with the block. -/
def Block.proofs (b : Block) : List EvidenceProof :=
  b.evidences.map fun record => ⟨record, b⟩

namespace Ledger

/-- All sealed records with their blocks: in the order of the chain, and inside a block in the order
of the block. -/
def proofs (l : Ledger) : List EvidenceProof :=
  l.chain.flatMap Block.proofs

variable {judge : Judge} {l later : Ledger} {hash : String} {proof : EvidenceProof}

/-- What is looked for is the first of all sealed records that has the hash. -/
theorem find?_eq_find?_proofs (l : Ledger) (hash : String) :
    l.find? hash =
      l.proofs.find? fun proof => proof.evidence.artifact.hash == normalizeHash hash := by
  have inBlock : ∀ b : Block, b.find? (normalizeHash hash) =
      b.proofs.find? fun proof => proof.evidence.artifact.hash == normalizeHash hash := by
    intro b
    rw [Block.proofs, List.find?_map]
    rfl
  rw [find?, proofs, List.find?_flatMap]
  exact congrArg (l.chain.findSome? ·) (funext inBlock)

theorem proofs_mono (grown : l.chain <+: later.chain) : l.proofs <+: later.proofs := by
  obtain ⟨rest, whole⟩ := grown
  refine ⟨rest.flatMap Block.proofs, ?_⟩
  rw [proofs, proofs, ← whole, List.flatMap_append]

/-- Whatever comes after it in the chain, what is found stays what is found. -/
theorem find?_of_prefix (grown : l.chain <+: later.chain) (found : l.find? hash = some proof) :
    later.find? hash = some proof := by
  rw [find?_eq_find?_proofs] at found ⊢
  exact (proofs_mono grown).find?_eq_some found

/-- A record is found exactly if it has the hash and no record before it has. -/
theorem find?_eq_some_iff :
    l.find? hash = some proof ↔
      proof.evidence.artifact.hash = normalizeHash hash ∧
        ∃ before after, l.proofs = before ++ proof :: after ∧
          ∀ other ∈ before, other.evidence.artifact.hash ≠ normalizeHash hash := by
  rw [find?_eq_find?_proofs, List.find?_eq_some_iff_append, beq_iff_eq]
  simp only [Bool.not_eq_true', beq_eq_false_iff_ne]

/-- Answers of an audit are final, for every ledger and whatever is submitted, committed and
delivered to it from then on, in any order and with any outcome. A hash that is found, asked for in
any form, is found in the same record and the same block ever after, and the report on it stays the
same. At every time what is found is the first record with the hash, in the order of the chain and
inside a block in the order of the block, and nothing is found only if no sealed record has the
hash. -/
theorem answers_of_run (judge : Judge) (l : Ledger) (operations : List Operation)
    (hash : String) :
    let later := l.run judge operations
    (∀ proof, l.find? hash = some proof →
      later.find? hash = some proof ∧ later.verify judge hash = l.verify judge hash ∧
        l.verify judge hash =
          ⟨true, normalizeHash hash, none, some proof.evidence, some (judge.details proof)⟩) ∧
    (∀ proof, l.find? hash = some proof ↔
      proof.evidence.artifact.hash = normalizeHash hash ∧
        ∃ before after, l.proofs = before ++ proof :: after ∧
          ∀ other ∈ before, other.evidence.artifact.hash ≠ normalizeHash hash) ∧
    (l.find? hash = none ↔
      ∀ block ∈ l.chain, ∀ record ∈ block.evidences,
        record.artifact.hash ≠ normalizeHash hash) := by
  intro later
  refine ⟨?_, fun proof => find?_eq_some_iff, ?_⟩
  · intro proof found
    have stays : later.find? hash = some proof :=
      find?_of_prefix (chain_prefix_run judge l operations) found
    have report {l : Ledger} (found : l.find? hash = some proof) : l.verify judge hash =
        ⟨true, normalizeHash hash, none, some proof.evidence, some (judge.details proof)⟩ :=
      verify_of_find?_eq_some found
    exact ⟨stays, (report stays).trans (report found).symm, report found⟩
  · rw [find?_eq_none_iff]
    constructor
    · intro missing block member record inBlock
      exact missing record (List.mem_flatMap.mpr ⟨block, member, inBlock⟩)
    · intro missing record isSealed
      obtain ⟨block, member, inBlock⟩ := List.mem_flatMap.mp isSealed
      exact missing block member record inBlock

end Ledger

/-! The leader seals its evidence, is given the same evidence again, and seals that too. -/

namespace Sample

/-- The record that the evidence makes the second time. -/
def recordAgain : EvidenceRecord := { record with evidenceId := "ev-2" }

/-- The ledger of the leader when the record is sealed and the evidence waits again. -/
def waitingTwice : Ledger := waiting.append sealedBlock [recordAgain]

/-- The second block that the leader commits. -/
def blockAgain : Block := leaderKey.sealed (waitingTwice.nextContent leader.nodeId .genesis)

theorem run_again :
    (waiting.append sealedBlock []).run judge
        [.submit draft "ev-2" .genesis, .commit .genesis] = waitingTwice.append blockAgain [] := by
  have isRecord : draft.toRecord "ev-2" .genesis = .ok recordAgain := by decide +kernel
  have submitted : (waiting.append sealedBlock []).perform judge (.submit draft "ev-2" .genesis) =
      waitingTwice := congrArg Outcome.ledger (Ledger.submit_of_ok isRecord)
  have committed : waitingTwice.perform judge (.commit .genesis) =
      waitingTwice.append blockAgain [] :=
    congrArg Outcome.ledger
      (Ledger.commit_standard rfl rfl ofText_leaderKey (List.cons_ne_nil _ _))
  rw [Ledger.run_cons, Ledger.run_cons, Ledger.run_nil, submitted, committed]

end Sample

/-- Two records with one hash are sealed in the end, and the first one is what is found. -/
theorem Ledger.answers_of_sealed_again :
    let l := Sample.waiting.append Sample.sealedBlock []
    let later := l.run Sample.judge [.submit Sample.draft "ev-2" .genesis, .commit .genesis]
    l.find? Sample.question = some ⟨Sample.record, Sample.sealedBlock⟩ ∧
      later.sealedRecords = [Sample.record, Sample.recordAgain] ∧
      Sample.recordAgain.artifact.hash = Sample.record.artifact.hash ∧
      later.find? Sample.question = some ⟨Sample.record, Sample.sealedBlock⟩ ∧
      later.verify Sample.judge Sample.question = l.verify Sample.judge Sample.question := by
  intro l later
  have found : l.find? Sample.question = some ⟨Sample.record, Sample.sealedBlock⟩ :=
    Sample.find?_question rfl
  have isLater : later = Sample.waitingTwice.append Sample.blockAgain [] := Sample.run_again
  have isSealed : later.sealedRecords = [Sample.record, Sample.recordAgain] := by
    rw [isLater, sealedRecords_append]
    rfl
  obtain ⟨stays, _, _⟩ := answers_of_run Sample.judge l
    [.submit Sample.draft "ev-2" .genesis, .commit .genesis] Sample.question
  obtain ⟨same, report, _⟩ := stays _ found
  exact ⟨found, isSealed, rfl, same, report⟩

end EvidenceLedger
