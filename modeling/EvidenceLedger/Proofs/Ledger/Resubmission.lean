import EvidenceLedger.Ledger.IdSupply
import EvidenceLedger.Proofs.Ledger.Normality

/-!
# Handing evidence on

A follower cannot seal what is submitted to it. It may hand the record on to a leader, as a draft
that leaves nothing open. The leader makes the same record of it: there is nothing left to be put
into normal form, to be named or to be dated. So what the leader seals is what waits at the
follower, and the wait is over when the follower accepts the block. Records are compared by
everything that they say, so a single field that changed on the way would leave the record waiting,
to be sealed a second time.

The one thing that is taken for granted is that an identifier made for evidence without one is not
blank, for a record with a blank identifier would get another one.
-/

namespace EvidenceLedger

namespace EvidenceRecord

variable {draft : EvidenceDraft} {newId : String} {now : Timestamp} {record : EvidenceRecord}

/-- No record has a blank identifier. -/
theorem isBlank_evidenceId_of_toRecord (named : Text.isBlank newId = false)
    (made : draft.toRecord newId now = .ok record) : Text.isBlank record.evidenceId = false := by
  obtain ⟨_, evidenceId, _⟩ := EvidenceDraft.toRecord_eq_ok_iff.mp made
  rw [evidenceId]
  split
  · exact named
  · next own =>
    cases given : draft.evidenceId with
    | none => exact absurd (by rw [EvidenceDraft.needsId, given]; rfl) own
    | some id =>
      rw [EvidenceDraft.needsId, given] at own
      exact Bool.eq_false_iff.mpr own

/-- A record that a submission gave comes back from every other one. -/
theorem toRecord_toDraft_of_toRecord (named : Text.isBlank newId = false)
    (made : draft.toRecord newId now = .ok record) (otherId : String) (later : Timestamp) :
    record.toDraft.toRecord otherId later = .ok record := by
  have normal := normal_iff_exists_toRecord.mpr ⟨draft, newId, now, made⟩
  have again := normal.toRecord_toDraft otherId later
  rw [isBlank_evidenceId_of_toRecord named made, if_neg Bool.false_ne_true] at again
  exact again

end EvidenceRecord

namespace Ledger

variable {judge : Judge} {l : Ledger} {op : Operation} {operations : List Operation}
  {record : EvidenceRecord} {block : Block} {now : Timestamp}

/-- What waits goes on waiting while nothing is sealed. -/
theorem mempool_prefix_perform (quiet : (l.perform judge op).chain = l.chain) :
    l.mempool <+: (l.perform judge op).mempool := by
  have grows (block : Block) : l.chain ++ [block] ≠ l.chain := by simp
  obtain ⟨same, _⟩ | ⟨new, taken, _⟩ | ⟨block, committed, _⟩ | ⟨block, accepted, _⟩ :=
    perform_records judge l op
  · exact ⟨[], by rw [List.append_nil, same]⟩
  · rw [taken]
    exact List.prefix_append _ _
  · rw [committed] at quiet
    exact absurd quiet (grows block)
  · rw [accepted] at quiet
    exact absurd quiet (grows block)

theorem mempool_prefix_run (quiet : (l.run judge operations).chain = l.chain) :
    l.mempool <+: (l.run judge operations).mempool := by
  induction operations generalizing l with
  | nil => exact List.prefix_rfl
  | cons op operations ih =>
    have first := chain_prefix_perform judge l op
    have rest := chain_prefix_run judge (l.perform judge op) operations
    have short : (l.perform judge op).chain.length ≤ l.chain.length := by
      rw [← quiet]
      exact rest.length_le
    have same : (l.perform judge op).chain = l.chain := (first.eq_of_length_le short).symm
    exact (mempool_prefix_perform same).trans (ih (quiet.trans same.symm))

/-- A leader seals all that waits. -/
theorem evidences_of_commit (committed : (l.commit judge now).answer = .ok block) :
    block.evidences = l.mempool := by
  obtain ⟨reason, refused⟩ | ⟨_, added, _, _, _, sealed, done⟩ := commit_cases judge l now
  · rw [refused] at committed
    cases committed
  · rw [done] at committed
    obtain rfl := Except.ok.inj committed
    exact congrArg BlockContent.evidences (Cryptography.sealBlock_eq_ok_iff.mp sealed).1

/-- What is in an accepted block waits no longer. -/
theorem notMem_mempool_of_accept (accepted : (l.accept judge block).answer = .ok ())
    (inBlock : record ∈ block.evidences) :
    record ∉ (l.accept judge block).ledger.mempool := by
  cases judged : judge.follows l.head block with
  | error reason =>
    rw [accept_of_error judged] at accepted
    cases accepted
  | ok _ =>
    rw [accept_of_ok judged, mempool_append, List.mem_filter]
    rintro ⟨_, kept⟩
    simp [inBlock] at kept

/-- Submitting again what a submission gave is the identity. Take any record that was made of any
draft, on a node in whatever state. On every other node, in whatever state and at whatever time, the
record is taken again and waits there as it is, in all of its fields; no identifier is given out for
it, and what identifier or time there would be for it makes no difference.

So take a node to which the draft was submitted, whatever has happened there since, and a leader to
which the record was handed on, whatever has happened there since without a block being added. If
the leader commits and the node accepts the block, the record is in the block, and no copy of it
waits at the node. -/
theorem resubmission_of_submit {draft : EvidenceDraft} {newId : String}
    (named : Text.isBlank newId = false)
    (submitted : (l.submit draft newId now).answer = .ok record) :
    (∀ (other : Ledger) (otherId : String) (later : Timestamp),
      other.submit record.toDraft otherId later =
        ⟨{ other with mempool := other.mempool ++ [record] }, .ok record,
          [.tell (.evidenceSubmitted record)]⟩) ∧
    (∀ (other : Ledger) (ids : IdSupply) (later : Timestamp),
      (other.submitNew record.toDraft ids later).2 = ids) ∧
    ∀ (leader follower : Judge) (other : Ledger) (otherId : String) (later sealing : Timestamp)
      (meanwhile since : List Operation) (block : Block),
      let ready := (other.submit record.toDraft otherId later).ledger.run leader meanwhile
      let waiting := (l.submit draft newId now).ledger.run follower since
      ready.chain = other.chain →
      (ready.commit leader sealing).answer = .ok block →
      (waiting.accept follower block).answer = .ok () →
        record ∈ block.evidences ∧
          record ∉ (waiting.accept follower block).ledger.mempool := by
  have made := toRecord_of_submit submitted
  have again (other : Ledger) (otherId : String) (later : Timestamp) :=
    submit_of_ok (l := other) (EvidenceRecord.toRecord_toDraft_of_toRecord named made otherId later)
  refine ⟨again, fun other ids later => ?_, ?_⟩
  · have named := EvidenceRecord.isBlank_evidenceId_of_toRecord named made
    simp [submitNew, EvidenceDraft.needsId, named]
  · intro leader follower other otherId later sealing meanwhile since block ready waiting quiet
      committed accepted
    have waits : record ∈ (other.submit record.toDraft otherId later).ledger.mempool := by
      rw [again]
      exact List.mem_append_right _ (List.mem_singleton_self record)
    have stillWaits : record ∈ ready.mempool :=
      (mempool_prefix_run (quiet.trans (chain_submit _ _ _ _).symm)).subset waits
    have inBlock : record ∈ block.evidences := evidences_of_commit committed ▸ stillWaits
    exact ⟨inBlock, notMem_mempool_of_accept accepted inBlock⟩

/-- The follower hands its record on to the leader, accepts the block that the leader seals, and has
nothing waiting then. -/
theorem resubmission_of_sample :
    let follower := Judge.mk .standard Sample.follower
    let handedOn := ((fresh .standard).submit Sample.record.toDraft "ev-2" .genesis).ledger
    Text.isBlank "ev-1" = false ∧
      ((fresh .standard).submit Sample.draft "ev-1" .genesis).answer = .ok Sample.record ∧
      ((fresh .standard).submit Sample.draft "ev-1" .genesis).ledger = Sample.waiting ∧
      handedOn = Sample.waiting ∧
      (Sample.waiting.commit Sample.judge .genesis).answer = .ok Sample.sealedBlock ∧
      (Sample.waiting.accept follower Sample.sealedBlock).answer = .ok () ∧
      Sample.record ∈ Sample.sealedBlock.evidences ∧
      Sample.record ∉ (Sample.waiting.accept follower Sample.sealedBlock).ledger.mempool := by
  intro follower handedOn
  have named : Text.isBlank "ev-1" = false := by decide
  have submitted : ((fresh .standard).submit Sample.draft "ev-1" .genesis).answer =
      .ok Sample.record := congrArg Outcome.answer Sample.submit_draft
  obtain ⟨again, _, ends⟩ := resubmission_of_submit named submitted
  have isHandedOn : handedOn = Sample.waiting := congrArg Outcome.ledger (again _ "ev-2" .genesis)
  have committed : (Sample.waiting.commit Sample.judge .genesis).answer = .ok Sample.sealedBlock :=
    congrArg Outcome.answer Sample.commit_waiting
  have follows : follower.follows Sample.waiting.head Sample.sealedBlock = .ok () :=
    @Sample.follows_sealedBlock Sample.follower (by decide)
  have accepted : (Sample.waiting.accept follower Sample.sealedBlock).answer = .ok () :=
    congrArg Outcome.answer (accept_of_ok follows)
  have flow := ends Sample.judge follower (fresh .standard) "ev-2" .genesis .genesis [] []
    Sample.sealedBlock
  simp only [run_nil, again, Sample.submit_draft] at flow
  exact ⟨named, submitted, congrArg Outcome.ledger Sample.submit_draft, isHandedOn, committed,
    accepted, flow rfl committed accepted⟩

end Ledger

end EvidenceLedger
