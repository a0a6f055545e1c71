import EvidenceLedger.Ledger.Lookup
import EvidenceLedger.Proofs.Config.Validation
import EvidenceLedger.Proofs.Ledger.Agreement
import EvidenceLedger.Proofs.Ledger.Conservation
import EvidenceLedger.Proofs.Text.Case

/-!
# The normal form of records

A record is meant to name the one algorithm and to write its hash as 64 hexadecimal digits in lower
case. Submissions see to that: the records that they give are exactly those in normal form. A record
in normal form that is sealed is found under its hash, since looking for it puts nothing but the
hash that is asked for into normal form.

Acceptances see to nothing of the kind. A block is accepted with whatever records its proposer has
signed. So what waits is in normal form at every time, and so is what a node seals itself, but a
chain is in normal form only as far as the accepted blocks are.
-/

namespace EvidenceLedger

/-- The record names the one algorithm, and its hash is written as 64 digits in lower case. -/
structure EvidenceRecord.Normal (r : EvidenceRecord) : Prop where
  algorithm : r.artifact.hashAlgorithm = supportedAlgorithm
  length : r.artifact.hash.toList.length = 64
  digits : ∀ c ∈ r.artifact.hash.toList, Bytes.isLowerHexDigit c = true

theorem checkAlgorithm_eq_ok_iff {algorithm : String} :
    checkAlgorithm algorithm = .ok () ↔ normalizeAlgorithm algorithm = supportedAlgorithm := by
  simp only [checkAlgorithm]
  split
  · next same => exact iff_of_true rfl same
  · next other => exact iff_of_false (by simp) other

theorem checkHash_eq_ok_iff {hash : String} :
    checkHash hash = .ok () ↔ (Text.trim hash).toList.length = 64 ∧
      ∀ c ∈ (Text.trim hash).toList, Bytes.isHexDigit c = true := by
  rw [← Digest.isText_eq_true_iff]
  simp only [checkHash]
  split
  · next same => exact iff_of_true rfl same
  · next other => exact iff_of_false (by simp) other

/-- All that a draft with the right algorithm and a well-formed hash comes to. -/
theorem EvidenceDraft.toRecord_eq_ok_iff {d : EvidenceDraft} {newId : String} {now : Timestamp}
    {r : EvidenceRecord} :
    d.toRecord newId now = .ok r ↔
      (checkAlgorithm d.artifact.hashAlgorithm = .ok () ∧ checkHash d.artifact.hash = .ok ()) ∧
        r.evidenceId = (if d.needsId then newId else d.evidenceId.getD newId) ∧
        r.artifact = { d.artifact with
          hashAlgorithm := supportedAlgorithm
          hash := normalizeHash d.artifact.hash } ∧
        r.createdAt = d.createdAt.getD now := by
  rw [toRecord, check_eq_ok_iff, check_eq_ok_iff, and_assoc]
  refine and_congr_right fun _ => and_congr_right fun _ => ?_
  constructor
  · intro made
    obtain rfl := Except.ok.inj made
    exact ⟨rfl, rfl, rfl⟩
  · rintro ⟨evidenceId, artifact, createdAt⟩
    rw [← evidenceId, ← artifact, ← createdAt]
    rfl

namespace EvidenceRecord

variable {r : EvidenceRecord}

/-- Nothing has to be trimmed from a hash in normal form. -/
theorem Normal.trim (normal : r.Normal) : Text.trim r.artifact.hash = r.artifact.hash :=
  Text.trim_of_forall fun c member =>
    Text.isSpace_of_isHexDigit (Bytes.isHexDigit_of_isLowerHexDigit (normal.digits c member))

/-- A hash in normal form is its own normal form. -/
theorem Normal.normalizeHash (normal : r.Normal) :
    normalizeHash r.artifact.hash = r.artifact.hash := by
  rw [EvidenceLedger.normalizeHash, normal.trim, Text.toLower_of_isLowerHexDigit normal.digits]

/-- A record in normal form that is submitted again comes back as it is, with another identifier if
its own is blank. -/
theorem Normal.toRecord_toDraft (normal : r.Normal) (newId : String) (now : Timestamp) :
    r.toDraft.toRecord newId now =
      .ok { r with evidenceId := if Text.isBlank r.evidenceId then newId else r.evidenceId } := by
  have algorithm : checkAlgorithm r.artifact.hashAlgorithm = .ok () := by
    rw [checkAlgorithm_eq_ok_iff, normal.algorithm]
    decide +kernel
  have hash : checkHash r.artifact.hash = .ok () := by
    rw [checkHash_eq_ok_iff, normal.trim]
    exact ⟨normal.length, fun c member =>
      Bytes.isHexDigit_of_isLowerHexDigit (normal.digits c member)⟩
  refine EvidenceDraft.toRecord_eq_ok_iff.mpr ⟨⟨algorithm, hash⟩, rfl, ?_, rfl⟩
  rw [toDraft_artifact, normal.normalizeHash, ← normal.algorithm]

/-- The records in normal form are those that submissions give. -/
theorem normal_iff_exists_toRecord :
    r.Normal ↔ ∃ draft : EvidenceDraft, ∃ newId now, draft.toRecord newId now = .ok r := by
  constructor
  · intro normal
    have again := normal.toRecord_toDraft r.evidenceId r.createdAt
    rw [ite_self] at again
    exact ⟨r.toDraft, r.evidenceId, r.createdAt, again⟩
  · rintro ⟨draft, newId, now, made⟩
    obtain ⟨⟨_, hash⟩, _, artifact, _⟩ := EvidenceDraft.toRecord_eq_ok_iff.mp made
    obtain ⟨length, digits⟩ := checkHash_eq_ok_iff.mp hash
    have written : r.artifact.hash.toList =
        (Text.trim draft.artifact.hash).toList.map Char.toLower := by
      rw [artifact, EvidenceLedger.normalizeHash, Text.toLower_of_isHexDigit digits,
        String.toList_ofList]
    refine ⟨congrArg Artifact.hashAlgorithm artifact, ?_, ?_⟩
    · rw [written, List.length_map, length]
    · rw [written]
      intro c member
      obtain ⟨digit, isDigit, rfl⟩ := List.mem_map.mp member
      exact Text.isLowerHexDigit_toLower (digits digit isDigit)

end EvidenceRecord

namespace Ledger

variable {judge : Judge} {l : Ledger} {op : Operation} {record : EvidenceRecord}
  {operations : List Operation}

theorem normal_of_submitted (submitted : l.submitted? op = some record) : record.Normal := by
  cases op with
  | commit now => cases submitted
  | accept block => cases submitted
  | submit draft newId now =>
    cases made : draft.toRecord newId now with
    | error reason =>
      rw [submitted?, submit_of_error made] at submitted
      cases submitted
    | ok new =>
      rw [submitted?, submit_of_ok made] at submitted
      obtain rfl := Option.some.inj submitted
      exact EvidenceRecord.normal_iff_exists_toRecord.mpr ⟨draft, newId, now, made⟩

/-- What waits stays in normal form. -/
theorem normal_mempool_perform (normal : ∀ record ∈ l.mempool, record.Normal) :
    ∀ record ∈ (l.perform judge op).mempool, record.Normal := by
  intro record member
  rcases List.mem_append.mp (mempool_perform_sublist.subset member) with before | new
  · exact normal record before
  · exact normal_of_submitted (Option.mem_toList.mp new)

/-- A block that is added is accepted, or seals what waits. -/
theorem normal_chain_perform (normal : ∀ record ∈ l.mempool, record.Normal) {block : Block}
    (member : block ∈ (l.perform judge op).chain) :
    block ∈ l.chain ∨ (∀ record ∈ block.evidences, record.Normal) ∨
      l.accepted? judge op = some block := by
  obtain ⟨same, _⟩ | ⟨new, taken, _⟩ | ⟨added, committed, evidences, _⟩ |
    ⟨added, accepted, _, isAccepted⟩ := perform_records judge l op
  · rw [same] at member
    exact .inl member
  · rw [taken] at member
    exact .inl member
  · rw [committed, chain_append, List.mem_append, List.mem_singleton] at member
    rcases member with before | rfl
    · exact .inl before
    · exact .inr (.inl (evidences ▸ normal))
  · rw [accepted, chain_append, List.mem_append, List.mem_singleton] at member
    rcases member with before | rfl
    · exact .inl before
    · exact .inr (.inr isAccepted)

/-- A block that is accepted stands in the chain afterwards. -/
theorem mem_chain_of_accepted {block : Block} (accepted : l.accepted? judge op = some block) :
    block ∈ (l.perform judge op).chain := by
  cases op with
  | submit draft newId now => cases accepted
  | commit now => cases accepted
  | accept delivered =>
    cases judged : judge.follows l.head delivered with
    | error reason =>
      rw [accepted?, accept_of_error judged] at accepted
      cases accepted
    | ok _ =>
      have isAccepted := accept_of_ok judged
      rw [accepted?, isAccepted] at accepted
      obtain rfl := Option.some.inj accepted
      rw [perform_accept, isAccepted, chain_append]
      exact List.mem_append_right _ (List.mem_singleton_self _)

theorem normal_mempool_run (normal : ∀ record ∈ l.mempool, record.Normal) :
    ∀ record ∈ (l.run judge operations).mempool, record.Normal := by
  induction operations generalizing l with
  | nil => exact normal
  | cons op operations ih => exact ih (normal_mempool_perform normal)

theorem normal_chain_run (normal : ∀ record ∈ l.mempool, record.Normal) {block : Block}
    (member : block ∈ (l.run judge operations).chain) :
    block ∈ l.chain ∨ (∀ record ∈ block.evidences, record.Normal) ∨
      block ∈ acceptances judge l operations := by
  induction operations generalizing l with
  | nil => exact .inl member
  | cons op operations ih =>
    rw [acceptances, List.mem_append, Option.mem_toList]
    obtain here | later := ih (normal_mempool_perform normal) member
    · obtain before | isNormal | accepted := normal_chain_perform normal here
      · exact .inl before
      · exact .inr (.inl isNormal)
      · exact .inr (.inr (.inl accepted))
    · obtain isNormal | accepted := later
      · exact .inr (.inl isNormal)
      · exact .inr (.inr (.inr accepted))

theorem mem_chain_of_mem_acceptances {block : Block}
    (accepted : block ∈ acceptances judge l operations) :
    block ∈ (l.run judge operations).chain := by
  induction operations generalizing l with
  | nil => cases accepted
  | cons op operations ih =>
    rw [acceptances, List.mem_append, Option.mem_toList] at accepted
    rcases accepted with now | later
    · exact (chain_prefix_run judge _ operations).subset (mem_chain_of_accepted now)
    · exact ih later

/-- Nothing is found exactly if no sealed record writes its hash in the normal form of the text that
is looked for. -/
theorem find?_eq_none_iff {hash : String} :
    l.find? hash = none ↔
      ∀ record ∈ l.sealedRecords, record.artifact.hash ≠ normalizeHash hash := by
  simp only [find?, Block.find?, sealedRecords, List.findSome?_eq_none_iff, Option.map_eq_none_iff,
    List.find?_eq_none, List.mem_flatMap, beq_iff_eq, ne_eq]
  constructor
  · rintro missing record ⟨block, member, inBlock⟩
    exact missing block member record inBlock
  · intro missing block member record inBlock
    exact missing record ⟨block, member, inBlock⟩

/-- What is found stands in a block of the chain, with the hash in its normal form. -/
theorem mem_of_find?_eq_some {hash : String} {proof : EvidenceProof}
    (found : l.find? hash = some proof) :
    proof.block ∈ l.chain ∧ proof.evidence ∈ proof.block.evidences ∧
      proof.evidence.artifact.hash = normalizeHash hash := by
  obtain ⟨block, member, inBlock⟩ := List.exists_of_findSome?_eq_some found
  obtain ⟨evidence, isEvidence, rfl⟩ := Option.map_eq_some_iff.mp inBlock
  have same := List.find?_some isEvidence
  exact ⟨member, List.mem_of_find?_eq_some isEvidence, eq_of_beq same⟩

/-- What is found is sealed and has the hash, in its normal form. -/
theorem of_find?_eq_some {hash : String} {proof : EvidenceProof}
    (found : l.find? hash = some proof) :
    proof.evidence ∈ l.sealedRecords ∧ proof.evidence.artifact.hash = normalizeHash hash := by
  obtain ⟨member, inBlock, same⟩ := mem_of_find?_eq_some found
  exact ⟨List.mem_flatMap.mpr ⟨proof.block, member, inBlock⟩, same⟩

/-- A record in normal form is found, or another one with the same hash is. -/
theorem exists_find?_of_normal (isSealed : record ∈ l.sealedRecords) (normal : record.Normal) :
    ∃ proof, l.find? record.artifact.hash = some proof ∧ proof.evidence ∈ l.sealedRecords ∧
      proof.evidence.artifact.hash = record.artifact.hash := by
  have found : l.find? record.artifact.hash ≠ none := fun missing =>
    find?_eq_none_iff.mp missing record isSealed normal.normalizeHash.symm
  obtain ⟨proof, isProof⟩ := Option.ne_none_iff_exists'.mp found
  obtain ⟨member, same⟩ := of_find?_eq_some isProof
  exact ⟨proof, isProof, member, same.trans normal.normalizeHash⟩

/-- Which records are in normal form, over all runs of a ledger that was started afresh, whatever
its operations are and whatever comes of them. All that wait are. All in a block are, unless the
block was accepted. So all sealed records are exactly if those in the accepted blocks are. And
whatever is sealed in normal form is found under its hash. -/
theorem normal_of_run (judge : Judge) (operations : List Operation) :
    let l := run judge (fresh judge.crypto) operations
    let accepted := acceptances judge (fresh judge.crypto) operations
    (∀ record ∈ l.mempool, record.Normal) ∧
      (∀ block ∈ l.chain, block ∈ accepted ∨ ∀ record ∈ block.evidences, record.Normal) ∧
      ((∀ record ∈ l.sealedRecords, record.Normal) ↔
        ∀ block ∈ accepted, ∀ record ∈ block.evidences, record.Normal) ∧
      ∀ record ∈ l.sealedRecords, record.Normal →
        ∃ proof, l.find? record.artifact.hash = some proof ∧ proof.evidence ∈ l.sealedRecords ∧
          proof.evidence.artifact.hash = record.artifact.hash := by
  intro l accepted
  have waiting : ∀ record ∈ (fresh judge.crypto).mempool, record.Normal :=
    fun _ member => nomatch member
  have blocks : ∀ block ∈ l.chain,
      block ∈ accepted ∨ ∀ record ∈ block.evidences, record.Normal := by
    intro block member
    obtain first | isNormal | isAccepted := normal_chain_run waiting member
    · obtain rfl := List.mem_singleton.mp first
      exact .inr fun _ inBlock => nomatch inBlock
    · exact .inr isNormal
    · exact .inl isAccepted
  refine ⟨normal_mempool_run waiting, blocks, ⟨?_, ?_⟩, fun record => exists_find?_of_normal⟩
  · intro normal block isAccepted record inBlock
    exact normal record
      (List.mem_flatMap.mpr ⟨block, mem_chain_of_mem_acceptances isAccepted, inBlock⟩)
  · intro normal record isSealed
    obtain ⟨block, member, inBlock⟩ := List.mem_flatMap.mp isSealed
    obtain isAccepted | isNormal := blocks block member
    · exact normal block isAccepted record inBlock
    · exact isNormal record inBlock

end Ledger

/-! The leader seals a record that it has not got from a submission. -/

namespace Sample

/-- A record that names another algorithm and writes its hash in upper case. -/
def wild : EvidenceRecord :=
  { record with
    artifact := { record.artifact with
      hashAlgorithm := "MD5"
      hash := String.ofList (List.replicate 64 'A') } }

/-- What the leader says in the block with the record. -/
def wildContent : BlockContent := { content with evidences := [wild] }

def wildBlock : Block := leaderKey.sealed wildContent

/-- The ledger of the follower that has got the block. -/
def wildLedger : Ledger := (Ledger.fresh .standard).append wildBlock []

theorem not_normal_wild : ¬wild.Normal :=
  fun normal => absurd normal.algorithm (by decide)

theorem signsWell_wildContent : leaderKey.SignsWell wildContent := by
  unfold PrivateKey.SignsWell
  decide +kernel

theorem follows_wildBlock :
    (Judge.mk .standard follower).follows (Ledger.fresh .standard).head wildBlock = .ok () := by
  have same : waiting.head = (Ledger.fresh .standard).head := Ledger.head_eq_of_chain_eq rfl
  have trusted : follower.allowlist.find? "node-1" =
      some "6kpsY+KcUgq+9VB7Ey7F+ZVHdq6+vnuSQh7qaRRG0iw=" := by decide
  exact PrivateKey.follows_sealed rfl (congrArg Block.hash same) trusted publicKey_leaderKey
    signsWell_wildContent

theorem run_wildBlock :
    Ledger.run ⟨.standard, follower⟩ (.fresh .standard) [.accept wildBlock] = wildLedger := by
  rw [Ledger.run_cons, Ledger.run_nil, Ledger.perform_accept, Ledger.accept_of_ok follows_wildBlock]
  rfl

end Sample

/-- The follower accepts the block, and does not find the record in it. -/
theorem Ledger.exists_not_normal_of_run :
    let l := run ⟨.standard, Sample.follower⟩ (fresh .standard) [.accept Sample.wildBlock]
    Sample.wild ∈ l.sealedRecords ∧ Sample.wild.artifact.hashAlgorithm ≠ supportedAlgorithm ∧
      ¬Sample.wild.Normal ∧ l.find? Sample.wild.artifact.hash = none := by
  intro l
  have isRun : l = Sample.wildLedger := Sample.run_wildBlock
  rw [isRun]
  have sealedRecords : Sample.wildLedger.sealedRecords = [Sample.wild] := rfl
  have differs : Sample.wild.artifact.hash ≠ normalizeHash Sample.wild.artifact.hash := by
    decide +kernel
  refine ⟨sealedRecords ▸ List.mem_singleton_self _, by decide, Sample.not_normal_wild, ?_⟩
  rw [find?_eq_none_iff, sealedRecords]
  intro record member
  exact List.eq_of_mem_singleton member ▸ differs

/-- The leader that seals a record and accepts nothing finds the record. -/
theorem Ledger.normal_of_committed :
    let operations : List Operation := [.submit Sample.draft "ev-1" .genesis, .commit .genesis]
    let l := run Sample.judge (fresh .standard) operations
    acceptances Sample.judge (fresh .standard) operations = [] ∧
      Sample.record ∈ l.sealedRecords ∧ Sample.record.Normal ∧
      ∃ proof, l.find? Sample.record.artifact.hash = some proof ∧
        proof.evidence.artifact.hash = Sample.record.artifact.hash := by
  intro operations l
  have own : acceptances Sample.judge (fresh .standard) operations = [] := rfl
  have isRun : l = Sample.waiting.append Sample.sealedBlock [] := by
    simp only [l, operations, run_cons, run_nil, Sample.perform_submit, Sample.perform_commit]
  have isSealed : Sample.record ∈ l.sealedRecords := by
    rw [isRun]
    exact List.mem_singleton_self _
  obtain ⟨_, _, normal, finds⟩ := normal_of_run Sample.judge operations
  have accepted : ∀ block ∈ acceptances Sample.judge (fresh .standard) operations,
      ∀ record ∈ block.evidences, record.Normal := by
    rw [own]
    exact fun _ member => nomatch member
  have isNormal : Sample.record.Normal := normal.mpr accepted _ isSealed
  obtain ⟨proof, found, _, same⟩ := finds _ isSealed isNormal
  exact ⟨own, isSealed, isNormal, proof, found, same⟩

end EvidenceLedger
