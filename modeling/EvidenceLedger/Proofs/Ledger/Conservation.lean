import EvidenceLedger.Proofs.Ledger.Replication
import EvidenceLedger.Proofs.Ledger.Run

/-!
# No evidence is lost

Records move in one direction: they are submitted, they wait, and they are sealed in a block of the
chain. A submission puts one record at the end of those that wait, a commit moves all of them into
a block, and an acceptance drops those that the block holds already. An operation that fails moves
nothing. `perform_records` says this once; what is true of all runs follows from it.

Records are compared by everything that they say. So two records under one identifier do not stand
for each other, and two equal records do.
-/

namespace EvidenceLedger

namespace Ledger

/-- The records in the blocks of the chain, in the order of the chain. -/
def sealedRecords (l : Ledger) : List EvidenceRecord :=
  l.chain.flatMap Block.evidences

/-- The record waits or is sealed. -/
def Holds (l : Ledger) (record : EvidenceRecord) : Prop :=
  record ∈ l.mempool ∨ ∃ block ∈ l.chain, record ∈ block.evidences

/-- The record that an operation gives back, if it is a submission that succeeds. -/
def submitted? (l : Ledger) : Operation → Option EvidenceRecord
  | .submit draft newId now => (l.submit draft newId now).answer.toOption
  | .commit _ => none
  | .accept _ => none

/-- The block that an operation adds, if it is an acceptance that succeeds. -/
def accepted? (judge : Judge) (l : Ledger) : Operation → Option Block
  | .submit _ _ _ => none
  | .commit _ => none
  | .accept block => (l.accept judge block).answer.toOption.map fun () => block

/-- The records that a run gives back, in the order of the submissions. -/
def submissions (judge : Judge) (l : Ledger) : List Operation → List EvidenceRecord
  | [] => []
  | op :: operations =>
    (l.submitted? op).toList ++ submissions judge (l.perform judge op) operations

/-- The blocks that a run accepts, in the order in which they are delivered. -/
def acceptances (judge : Judge) (l : Ledger) : List Operation → List Block
  | [] => []
  | op :: operations =>
    (l.accepted? judge op).toList ++ acceptances judge (l.perform judge op) operations

@[simp] theorem sealedRecords_fresh (crypto : Cryptography) :
    (fresh crypto).sealedRecords = [] := rfl

@[simp] theorem sealedRecords_append (l : Ledger) (block : Block)
    (mempool : List EvidenceRecord) :
    (l.append block mempool).sealedRecords = l.sealedRecords ++ block.evidences := by
  simp [sealedRecords]

/-- All that an operation can do to records: nothing, or take one in, or seal all that wait, or
drop those that an accepted block holds. -/
theorem perform_records (judge : Judge) (l : Ledger) (op : Operation) :
    (l.perform judge op = l ∧ l.submitted? op = none) ∨
    (∃ record, l.perform judge op = { l with mempool := l.mempool ++ [record] } ∧
      l.submitted? op = some record) ∨
    (∃ block, l.perform judge op = l.append block [] ∧ block.evidences = l.mempool ∧
      l.submitted? op = none) ∨
    (∃ block, l.perform judge op =
        l.append block (l.mempool.filter fun r => !block.evidences.contains r) ∧
      l.submitted? op = none ∧ l.accepted? judge op = some block) := by
  cases op with
  | submit draft newId now =>
    cases read : draft.toRecord newId now with
    | error reason =>
      have refused := submit_of_error (l := l) read
      exact .inl ⟨congrArg Outcome.ledger refused,
        congrArg (fun outcome => outcome.answer.toOption) refused⟩
    | ok record =>
      have taken := submit_of_ok (l := l) read
      exact .inr (.inl ⟨record, congrArg Outcome.ledger taken,
        congrArg (fun outcome => outcome.answer.toOption) taken⟩)
  | commit now =>
    obtain ⟨reason, refused⟩ | ⟨key, block, _, _, _, sealed, committed⟩ := commit_cases judge l now
    · exact .inl ⟨congrArg Outcome.ledger refused, rfl⟩
    · obtain ⟨content, _⟩ := Cryptography.sealBlock_eq_ok_iff.mp sealed
      exact .inr (.inr (.inl ⟨block, congrArg Outcome.ledger committed,
        congrArg BlockContent.evidences content, rfl⟩))
  | accept block =>
    cases judged : judge.follows l.head block with
    | error reason => exact .inl ⟨congrArg Outcome.ledger (accept_of_error judged), rfl⟩
    | ok _ =>
      have accepted := accept_of_ok (l := l) judged
      refine .inr (.inr (.inr ⟨block, congrArg Outcome.ledger accepted, rfl, ?_⟩))
      rw [accepted?, accepted]
      rfl

section Step

variable {judge : Judge} {l : Ledger} {op : Operation} {record : EvidenceRecord}

/-- No operation loses a record. -/
theorem Holds.perform (held : l.Holds record) : (l.perform judge op).Holds record := by
  rcases held with waits | ⟨block, member, isSealed⟩
  · obtain ⟨same, _⟩ | ⟨new, taken, _⟩ | ⟨block, committed, evidences, _⟩ |
      ⟨block, accepted, _, _⟩ := perform_records judge l op
    · rw [same]
      exact .inl waits
    · rw [taken]
      exact .inl (List.mem_append_left _ waits)
    · rw [committed]
      exact .inr ⟨block, by simp, evidences ▸ waits⟩
    · rw [accepted]
      by_cases inBlock : record ∈ block.evidences
      · exact .inr ⟨block, by simp, inBlock⟩
      · exact .inl (List.mem_filter.mpr ⟨waits, by simpa using inBlock⟩)
  · exact .inr ⟨block, (chain_prefix_perform judge l op).subset member, isSealed⟩

theorem holds_of_submitted (submitted : l.submitted? op = some record) :
    (l.perform judge op).Holds record := by
  obtain ⟨_, none⟩ | ⟨new, taken, isNew⟩ | ⟨_, _, _, none⟩ | ⟨_, _, none, _⟩ :=
    perform_records judge l op
  · exact nomatch none.symm.trans submitted
  · obtain rfl := Option.some.inj (isNew.symm.trans submitted)
    rw [taken]
    exact .inl (List.mem_append_right _ (List.mem_singleton_self new))
  · exact nomatch none.symm.trans submitted
  · exact nomatch none.symm.trans submitted

/-- What waits after an operation waited before it, in the same order, or was just submitted. -/
theorem mempool_perform_sublist :
    (l.perform judge op).mempool.Sublist (l.mempool ++ (l.submitted? op).toList) := by
  obtain ⟨same, none⟩ | ⟨new, taken, isNew⟩ | ⟨block, committed, _, none⟩ |
    ⟨block, accepted, none, _⟩ := perform_records judge l op
  · rw [same, none]
    simp
  · rw [taken, isNew]
    exact List.Sublist.refl _
  · rw [committed]
    exact List.nil_sublist _
  · rw [accepted, none]
    simp

/-- A record stops to wait only where a block is added that holds it. -/
theorem exists_of_count_lt
    (fewer : (l.perform judge op).mempool.count record < l.mempool.count record) :
    ∃ block, (l.perform judge op).chain = l.chain ++ [block] ∧ record ∈ block.evidences := by
  have waits : record ∈ l.mempool := List.count_pos_iff.mp (Nat.zero_lt_of_lt fewer)
  obtain ⟨same, _⟩ | ⟨new, taken, _⟩ | ⟨block, committed, evidences, _⟩ |
    ⟨block, accepted, _, _⟩ := perform_records judge l op
  · rw [same] at fewer
    exact absurd fewer (Nat.lt_irrefl _)
  · rw [taken, List.count_append] at fewer
    omega
  · exact ⟨block, congrArg chain committed, evidences ▸ waits⟩
  · refine ⟨block, congrArg chain accepted, ?_⟩
    by_cases inBlock : record ∈ block.evidences
    · exact inBlock
    · have kept : (l.mempool.filter fun r => !block.evidences.contains r).count record =
          l.mempool.count record := List.count_filter (by simpa using inBlock)
      rw [accepted, mempool_append, kept] at fewer
      exact absurd fewer (Nat.lt_irrefl _)

/-- Where nothing is accepted, the records that are sealed and those that wait form one row, and
what is submitted comes at its end. -/
theorem records_perform (own : l.accepted? judge op = none) :
    (l.perform judge op).sealedRecords ++ (l.perform judge op).mempool =
      l.sealedRecords ++ l.mempool ++ (l.submitted? op).toList := by
  obtain ⟨same, none⟩ | ⟨new, taken, isNew⟩ | ⟨block, committed, evidences, none⟩ |
    ⟨block, _, _, some⟩ := perform_records judge l op
  · rw [same, none]
    simp
  · rw [taken, isNew]
    exact (List.append_assoc _ _ _).symm
  · rw [committed, none]
    simp [evidences]
  · exact nomatch own.symm.trans some

end Step

section Run

variable {judge : Judge} {l : Ledger} {record : EvidenceRecord} {operations : List Operation}

theorem Holds.run (held : l.Holds record) (operations : List Operation) :
    (l.run judge operations).Holds record := by
  induction operations generalizing l with
  | nil => exact held
  | cons op operations ih => exact ih held.perform

theorem holds_of_mem_submissions (submitted : record ∈ submissions judge l operations) :
    (l.run judge operations).Holds record := by
  induction operations generalizing l with
  | nil => exact nomatch submitted
  | cons op operations ih =>
    rw [submissions, List.mem_append, Option.mem_toList] at submitted
    rcases submitted with now | later
    · exact (holds_of_submitted now).run operations
    · exact ih later

theorem mempool_run_sublist (judge : Judge) (l : Ledger) (operations : List Operation) :
    (l.run judge operations).mempool.Sublist (l.mempool ++ submissions judge l operations) := by
  induction operations generalizing l with
  | nil => simp [submissions]
  | cons op operations ih =>
    have first := (@mempool_perform_sublist judge l op).append_right
      (submissions judge (l.perform judge op) operations)
    rw [List.append_assoc] at first
    exact (ih (l.perform judge op)).trans first

theorem records_run (own : acceptances judge l operations = []) :
    (l.run judge operations).sealedRecords ++ (l.run judge operations).mempool =
      l.sealedRecords ++ l.mempool ++ submissions judge l operations := by
  induction operations generalizing l with
  | nil => simp [submissions]
  | cons op operations ih =>
    obtain ⟨first, later⟩ := List.append_eq_nil_iff.mp own
    rw [run_cons, ih later, records_perform (Option.toList_eq_nil_iff.mp first), submissions,
      List.append_assoc]

end Run

/-- No evidence is lost, made up or reordered, over all runs of a ledger that was started afresh,
whatever its operations are and whatever comes of them.

Each record that a submission gave back waits or is sealed at every later time. The records that
wait are some of those that were submitted, in the order of the submissions. In whatever operation
comes next, a record stops to wait, be it one of several equal ones, only if a block is added that
holds it; an accepted block ends the wait of the records that it holds and of no others, and a
refused one changes nothing. As long as no block is accepted, the records in the chain and after
them those that wait are exactly the records that were submitted, each as often and in the same
order. -/
theorem conservation_of_run (judge : Judge) (operations : List Operation) :
    let l := run judge (fresh judge.crypto) operations
    let submitted := submissions judge (fresh judge.crypto) operations
    (∀ later, ∀ record ∈ submitted, (run judge l later).Holds record) ∧
      l.mempool.Sublist submitted ∧
      (∀ op record, (l.perform judge op).mempool.count record < l.mempool.count record →
        ∃ block, (l.perform judge op).chain = l.chain ++ [block] ∧ record ∈ block.evidences) ∧
      (∀ block, (l.accept judge block).answer = .ok () →
        (l.accept judge block).ledger.mempool = l.mempool.filter (· ∉ block.evidences)) ∧
      (∀ block reason, (l.accept judge block).answer = .error reason →
        (l.accept judge block).ledger = l) ∧
      (acceptances judge (fresh judge.crypto) operations = [] →
        l.sealedRecords ++ l.mempool = submitted) := by
  intro l submitted
  refine ⟨?_, ?_, ?_, ?_, ?_, ?_⟩
  · intro later record member
    exact (holds_of_mem_submissions member).run later
  · exact mempool_run_sublist judge (fresh judge.crypto) operations
  · intro op record fewer
    exact exists_of_count_lt fewer
  · intro block answer
    cases judged : judge.follows l.head block with
    | error reason => simp [accept_of_error judged] at answer
    | ok _ => simp [accept_of_ok judged]
  · intro block reason answer
    exact accept_ledger_of_error answer
  · intro own
    exact records_run own

end Ledger

namespace Sample

/-- The same evidence is submitted twice, sealed, and submitted once more. -/
def repeated : List Operation :=
  [.submit draft "ev-1" .genesis, .submit draft "ev-1" .genesis, .commit .genesis,
    .submit draft "ev-1" .genesis]

theorem perform_draft (l : Ledger) :
    l.perform judge (.submit draft "ev-1" .genesis) =
      { l with mempool := l.mempool ++ [record] } :=
  congrArg Outcome.ledger (Ledger.submit_of_ok toRecord_draft)

theorem submitted?_draft (l : Ledger) :
    l.submitted? (.submit draft "ev-1" .genesis) = some record := by
  rw [Ledger.submitted?, Ledger.submit_of_ok toRecord_draft]
  rfl

theorem submissions_repeated (l : Ledger) :
    Ledger.submissions judge l repeated = [record, record, record] := by
  simp only [Ledger.submissions, repeated, submitted?_draft]
  rfl

/-- The block that the leader commits takes both of the records that wait. -/
theorem mempool_repeated :
    (Ledger.run judge (.fresh .standard) repeated).mempool = [record] := by
  have committed (l : Ledger) (waiting : l.mempool ≠ []) :
      (l.perform judge (.commit .genesis)).mempool = [] :=
    congrArg (fun outcome => outcome.ledger.mempool)
      (Ledger.commit_standard rfl rfl ofText_leaderKey waiting)
  simp only [repeated, Ledger.run_cons, Ledger.run_nil, perform_draft]
  rw [committed _ (List.append_ne_nil_of_right_ne_nil _ (List.cons_ne_nil _ _))]
  rfl

end Sample

/-- The leader gets equal records three times. It seals two of them and keeps the third. -/
theorem Ledger.conservation_of_repeated :
    let l := run Sample.judge (fresh .standard) Sample.repeated
    acceptances Sample.judge (fresh .standard) Sample.repeated = [] ∧
      l.mempool = [Sample.record] ∧
      l.sealedRecords ++ l.mempool = [Sample.record, Sample.record, Sample.record] := by
  intro l
  have own : acceptances Sample.judge (fresh .standard) Sample.repeated = [] := rfl
  obtain ⟨_, _, _, _, _, whole⟩ := conservation_of_run Sample.judge Sample.repeated
  refine ⟨own, Sample.mempool_repeated, (whole own).trans ?_⟩
  exact Sample.submissions_repeated _

end EvidenceLedger
