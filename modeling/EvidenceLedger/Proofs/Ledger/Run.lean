import EvidenceLedger.Ledger.Basic

/-!
# Runs of a ledger

A run performs operations one after the other, in any order and with any arguments; an
operation that is refused is part of the run. A chain only ever grows, by one block at a time,
and there are two ways in which it does: the node commits what waits, or it accepts a block
that may follow its head. `perform_cases` says everything that one operation can do to a chain,
and whatever is true of all runs is derived from it.
-/

namespace EvidenceLedger

/-- The greatest height aside, the next height is one more. -/
theorem toNat_add_one {height : UInt64} (room : height.toNat + 1 < UInt64.size) :
    (height + 1).toNat = height.toNat + 1 := by
  rw [UInt64.toNat_add]
  simpa using Nat.mod_eq_of_lt room

/-- Where counting goes well the two ways to count agree. -/
theorem successorHeight_eq_add_one {height : UInt64} (room : height.toNat + 1 < UInt64.size) :
    successorHeight height = height + 1 := by
  have notLast : height ≠ UInt64.ofNat (UInt64.size - 1) := by
    rintro rfl
    exact absurd room (by decide)
  rw [successorHeight, if_neg notLast]

theorem toNat_successorHeight (height : UInt64) :
    (successorHeight height).toNat = min (height.toNat + 1) (UInt64.size - 1) := by
  have bound : height.toNat < UInt64.size := height.toNat_lt
  by_cases room : height.toNat + 1 < UInt64.size
  · rw [successorHeight_eq_add_one room, toNat_add_one room]
    omega
  · have last : height = UInt64.ofNat (UInt64.size - 1) := by
      refine UInt64.toNat_inj.mp ?_
      rw [UInt64.toNat_ofNat_of_lt' (by decide)]
      omega
    rw [successorHeight, if_pos last]
    omega

/-- One of the three operations that change a ledger, with its arguments. -/
inductive Operation where
  | submit (draft : EvidenceDraft) (newId : String) (now : Timestamp)
  | commit (now : Timestamp)
  | accept (block : Block)

namespace Ledger

/-- The ledger after an operation, whatever the answer. -/
def perform (judge : Judge) (l : Ledger) : Operation → Ledger
  | .submit draft newId now => (l.submit draft newId now).ledger
  | .commit now => (l.commit judge now).ledger
  | .accept block => (l.accept judge block).ledger

def run (judge : Judge) (l : Ledger) (operations : List Operation) : Ledger :=
  operations.foldl (perform judge) l

/-- The ledgers that a node can come to have. -/
inductive Reachable (judge : Judge) : Ledger → Prop where
  | start : Reachable judge (fresh judge.crypto)
  | perform {l : Ledger} (h : Reachable judge l) (op : Operation) :
      Reachable judge (perform judge l op)

/-- The node may seal `block` on top of `l`: it says what waits, and its hash says so. -/
structure Sealed (judge : Judge) (l : Ledger) (block : Block) : Prop where
  waiting : l.mempool ≠ []
  content : ∃ now, block.content = l.nextContent judge.identity.nodeId now
  hash : block.hash = judge.crypto.hashOf block.content

@[simp] theorem perform_accept (judge : Judge) (l : Ledger) (block : Block) :
    l.perform judge (.accept block) = (l.accept judge block).ledger := rfl

@[simp] theorem run_nil (judge : Judge) (l : Ledger) : run judge l [] = l := rfl

@[simp] theorem run_cons (judge : Judge) (l : Ledger) (op : Operation)
    (operations : List Operation) :
    run judge l (op :: operations) = run judge (perform judge l op) operations := rfl

/-- A run from a ledger that a node can come to have leads to another one. -/
theorem Reachable.run {judge : Judge} {l : Ledger} (h : Reachable judge l)
    (operations : List Operation) : Reachable judge (Ledger.run judge l operations) := by
  induction operations generalizing l with
  | nil => exact h
  | cons op operations ih => exact ih (h.perform op)

/-- Evidence that is taken is answered with the record of its draft. -/
theorem toRecord_of_submit {l : Ledger} {draft : EvidenceDraft} {newId : String} {now : Timestamp}
    {record : EvidenceRecord} (submitted : (l.submit draft newId now).answer = .ok record) :
    draft.toRecord newId now = .ok record := by
  cases made : draft.toRecord newId now with
  | error reason =>
    rw [submit_of_error made] at submitted
    cases submitted
  | ok other =>
    rw [submit_of_ok made] at submitted
    exact submitted

/-- All that an operation can do to a chain: nothing, or add a block that the node seals, or add
a block that may follow the head. -/
theorem perform_cases (judge : Judge) (l : Ledger) (op : Operation) :
    (perform judge l op).chain = l.chain ∨
      ∃ block, (perform judge l op).chain = l.chain ++ [block] ∧
        (perform judge l op).head = block ∧
        ((judge.identity.isLeader = true ∧ Sealed judge l block) ∨
          judge.follows l.head block = .ok ()) := by
  cases op with
  | submit draft newId now => exact .inl (chain_submit l draft newId now)
  | commit now =>
    obtain ⟨reason, refused⟩ | ⟨key, block, leads, _, waiting, sealed, committed⟩ :=
      commit_cases judge l now
    · exact .inl (by simp [perform, refused])
    · obtain ⟨content, hash, _⟩ := Cryptography.sealBlock_eq_ok_iff.mp sealed
      have isSealed : Sealed judge l block :=
        ⟨waiting, ⟨now, content⟩, by rw [hash, content]⟩
      exact .inr ⟨block, by simp [perform, committed], by simp [perform, committed, append],
        .inl ⟨leads, isSealed⟩⟩
  | accept block =>
    cases judged : judge.follows l.head block with
    | error reason => exact .inl (by simp [perform, accept_of_error judged])
    | ok _ =>
      exact .inr ⟨block, by simp [perform, accept_of_ok judged],
        by simp [perform, accept_of_ok judged, append], .inr judged⟩

/-- A chain is never shortened or rewritten. -/
theorem chain_prefix_perform (judge : Judge) (l : Ledger) (op : Operation) :
    l.chain <+: (perform judge l op).chain := by
  obtain unchanged | ⟨block, appended, _⟩ := perform_cases judge l op
  · exact unchanged ▸ List.prefix_rfl
  · rw [appended]
    exact List.prefix_append _ _

theorem chain_prefix_run (judge : Judge) (l : Ledger) (operations : List Operation) :
    l.chain <+: (run judge l operations).chain := by
  induction operations generalizing l with
  | nil => exact List.prefix_rfl
  | cons op operations ih => exact (chain_prefix_perform judge l op).trans (ih (l.perform judge op))

end Ledger

/-! A leader and what it is given to seal, for runs that are followed to their end. -/

namespace Sample

/-- A leader that trusts itself. Its seed is 32 times the byte 7. -/
def leader : NodeIdentity :=
  (NodeIdentity.leader "node-1" "BwcHBwcHBwcHBwcHBwcHBwcHBwcHBwcHBwcHBwcHBwc=").allow "node-1"
    "6kpsY+KcUgq+9VB7Ey7F+ZVHdq6+vnuSQh7qaRRG0iw="

/-- How the leader judges, with the standard cryptography. -/
def judge : Judge := ⟨.standard, leader⟩

/-- Evidence with a comma in a field, whose hash is typed in capitals, and which leaves its
identifier open. -/
def draft : EvidenceDraft where
  evidenceId := none
  artifact := {
    homologationId := "HOM-1,2"
    testRunId := "RUN"
    artifactName := "execution.log"
    artifactType := "LOG"
    hashAlgorithm := "sha-256"
    hash := String.ofList (List.replicate 64 'A')
    sizeBytes := some 42
    createdBy := "ci"
    storageUri := none
    standards := ["ISO-1"] }
  createdAt := none

end Sample

end EvidenceLedger
