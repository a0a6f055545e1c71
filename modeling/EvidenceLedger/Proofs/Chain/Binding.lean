import EvidenceLedger.Proofs.Chain.CanonicalRecord
import EvidenceLedger.Proofs.Ledger.Replication

/-!
# What the hash of a block binds

Where the digest does not collide, blocks with the same hash have the same canonical form. What
the hash binds is therefore what the canonical form gives away: always the height, the time and
the previous hash, and everything else as far as no field holds the characters that end it. The
order of records with different identifiers and the order of standards are never bound.

A record that holds a separator can pass for another one. `content_not_bound_by_hash` has two
blocks that differ in their evidence and are accepted under one hash and one signature.
-/

namespace EvidenceLedger

/-- A block that can be told from others by its canonical form, the order of standards aside. -/
structure BlockContent.Delimited (c : BlockContent) : Prop where
  proposer : '|' ∉ c.proposer.toList
  evidences : ∀ r ∈ c.evidences, r.Delimited

open EvidenceRecord in
theorem BlockContent.recordChars_inj {a b : BlockContent} (ha : a.Delimited) (hb : b.Delimited) :
    a.recordChars = b.recordChars ↔
      (sortById a.evidences).map ordered = (sortById b.evidences).map ordered :=
  flatMap_canonicalText_inj
    (fun r member => ha.evidences r ((sortById_perm a.evidences).mem_iff.mp member))
    (fun r member => hb.evidences r ((sortById_perm b.evidences).mem_iff.mp member))

namespace Cryptography

/-- The digest tells the canonical forms of two blocks apart. -/
def Separates (crypto : Cryptography) (a b : BlockContent) : Prop :=
  crypto.digestOf a = crypto.digestOf b → a.canonicalText = b.canonicalText

theorem hashOf_inj {crypto : Cryptography} {a b : BlockContent} (separates : crypto.Separates a b) :
    crypto.hashOf a = crypto.hashOf b ↔ a.canonicalText = b.canonicalText := by
  rw [hashOf, hashOf, Digest.toText_inj]
  constructor
  · exact separates
  · intro h
    rw [digestOf, digestOf, h]

end Cryptography

namespace Judge

variable {judge : Judge} {head a b : Block}

/-- What is accepted under a hash and a signature is accepted in every other reading of the same
canonical form. -/
theorem follows_of_canonicalText_eq (accepted : judge.follows head a = .ok ())
    (text : b.content.canonicalText = a.content.canonicalText)
    (previous : b.previousHash = a.previousHash) (proposer : b.proposer = a.proposer)
    (hash : b.hash = a.hash) (signature : b.signature = a.signature) :
    judge.follows head b = .ok () := by
  obtain ⟨height, isPrevious, key, trusted, isHash, signed⟩ := follows_eq_ok_iff.mp accepted
  have heights : b.height = a.height := (BlockContent.canonicalText_inj.mp text).1
  refine follows_eq_ok_iff.mpr ⟨heights ▸ height, previous ▸ isPrevious, key, ?_, ?_, ?_⟩
  · rw [proposer, trusted]
  · rw [hash, ← isHash, Cryptography.hashOf, Cryptography.hashOf, Cryptography.digestOf,
      Cryptography.digestOf, text]
  · rwa [Cryptography.isSigned, hash, signature]

/-- What the hash binds of two blocks that may both follow a head. The hash always binds the
canonical form and with it the height, the time and the previous hash. If no field of the two
holds a separator that ends it, the hash binds the proposer and the evidence as well, up to the
order of standards and the order of records. -/
theorem content_bound_by_hash (acceptedA : judge.follows head a = .ok ())
    (acceptedB : judge.follows head b = .ok ())
    (separates : judge.crypto.Separates a.content b.content) :
    (a.hash = b.hash ↔ a.content.canonicalText = b.content.canonicalText) ∧
      (a.hash = b.hash →
        a.height = b.height ∧ a.timestamp = b.timestamp ∧ a.previousHash = b.previousHash) ∧
      (a.content.Delimited → b.content.Delimited → a.hash = b.hash →
        a.proposer = b.proposer ∧
          (EvidenceRecord.sortById a.evidences).map EvidenceRecord.ordered =
            (EvidenceRecord.sortById b.evidences).map EvidenceRecord.ordered ∧
          (a.evidences.map EvidenceRecord.ordered).Perm
            (b.evidences.map EvidenceRecord.ordered)) := by
  obtain ⟨_, previousA, _, _, hashA, _⟩ := follows_eq_ok_iff.mp acceptedA
  obtain ⟨_, previousB, _, _, hashB, _⟩ := follows_eq_ok_iff.mp acceptedB
  have previous : a.previousHash = b.previousHash := previousA.trans previousB.symm
  have texts : a.hash = b.hash ↔ a.content.canonicalText = b.content.canonicalText := by
    rw [← hashA, ← hashB, Cryptography.hashOf_inj separates]
  have parts : a.hash = b.hash ↔ a.height = b.height ∧ a.timestamp = b.timestamp ∧
      a.content.proposerChars = b.content.proposerChars := by
    rw [texts, BlockContent.canonicalText_inj, BlockContent.linkChars_inj_of_eq previous]
    rfl
  refine ⟨texts, fun same => ?_, fun delimitedA delimitedB same => ?_⟩
  · obtain ⟨height, timestamp, _⟩ := parts.mp same
    exact ⟨height, timestamp, previous⟩
  · obtain ⟨_, _, rest⟩ := parts.mp same
    obtain ⟨proposer, records⟩ :=
      (BlockContent.proposerChars_inj delimitedA.proposer delimitedB.proposer).mp rest
    have evidences := (BlockContent.recordChars_inj delimitedA delimitedB).mp records
    have permA := (EvidenceRecord.sortById_perm a.evidences).map EvidenceRecord.ordered
    have permB := (EvidenceRecord.sortById_perm b.evidences).map EvidenceRecord.ordered
    exact ⟨proposer, evidences, permA.symm.trans ((List.Perm.of_eq evidences).trans permB)⟩

end Judge

namespace Sample

/-- SHA-256, and signatures that nobody checks. -/
def lenient : Cryptography := ⟨Sha256.hash, fun _ _ => .ok "", fun _ _ _ => true⟩

/-- The record with another identifier and without a comma. -/
def recordOf (evidenceId : String) : EvidenceRecord :=
  { record with evidenceId, artifact := { record.artifact with homologationId := "HOM-1" } }

/-- A block of the leader after the first one, with a signature that nobody checks. -/
def unsigned (evidences : List EvidenceRecord) : Block :=
  let content : BlockContent := ⟨1, .genesis, evidences, lenient.genesis.hash, leader.nodeId⟩
  ⟨1, .genesis, evidences, lenient.genesis.hash, leader.nodeId, lenient.hashOf content, ""⟩

theorem follows_unsigned (evidences : List EvidenceRecord) :
    (Judge.mk lenient leader).follows lenient.genesis (unsigned evidences) = .ok () := by
  refine Judge.follows_eq_ok_iff.mpr
    ⟨?_, rfl, "6kpsY+KcUgq+9VB7Ey7F+ZVHdq6+vnuSQh7qaRRG0iw=", ?_, rfl, ?_⟩
  · show (1 : UInt64) = successorHeight 0
    decide
  · show leader.trustedKey? "node-1" = _
    decide
  · simp [Cryptography.isSigned, unsigned, Cryptography.hashOf, lenient]

/-- Two records that a block may hold in either order. -/
def twoRecords : List EvidenceRecord := [recordOf "ev-1", recordOf "ev-2"]

theorem canonicalText_reverse :
    (unsigned twoRecords).content.canonicalText =
      (unsigned twoRecords.reverse).content.canonicalText := by
  have records :
      EvidenceRecord.sortById twoRecords.reverse = EvidenceRecord.sortById twoRecords := by
    simp [EvidenceRecord.sortById, twoRecords, recordOf, List.mergeSort]
  simp only [BlockContent.canonicalText, Block.content, unsigned, records]

theorem delimited_of_mem {r : EvidenceRecord} (h : r ∈ twoRecords) : r.Delimited := by
  simp only [twoRecords, List.mem_cons, List.not_mem_nil, or_false] at h
  rcases h with rfl | rfl
  · exact ⟨by decide +kernel, by decide, by decide, by decide⟩
  · exact ⟨by decide +kernel, by decide, by decide, by decide⟩

end Sample

/-- Two blocks with the same records in another order have the same hash. -/
theorem Judge.content_bound_by_hash_of_reverse :
    let judge := Judge.mk Sample.lenient Sample.leader
    let head := Sample.lenient.genesis
    let a := Sample.unsigned Sample.twoRecords
    let b := Sample.unsigned Sample.twoRecords.reverse
    judge.follows head a = .ok () ∧ judge.follows head b = .ok () ∧
      judge.crypto.Separates a.content b.content ∧ a.content.Delimited ∧ b.content.Delimited ∧
      a.hash = b.hash ∧
      (a.evidences.map EvidenceRecord.ordered).Perm (b.evidences.map EvidenceRecord.ordered) := by
  intro judge head a b
  have text : a.content.canonicalText = b.content.canonicalText := Sample.canonicalText_reverse
  have separates : judge.crypto.Separates a.content b.content := fun _ => text
  have delimitedA : a.content.Delimited :=
    ⟨by decide, fun r member => Sample.delimited_of_mem member⟩
  have delimitedB : b.content.Delimited :=
    ⟨by decide, fun r member => Sample.delimited_of_mem (List.mem_reverse.mp member)⟩
  have acceptedA := Sample.follows_unsigned Sample.twoRecords
  have acceptedB := Sample.follows_unsigned Sample.twoRecords.reverse
  obtain ⟨texts, _, bound⟩ := content_bound_by_hash acceptedA acceptedB separates
  have same : a.hash = b.hash := texts.mpr text
  exact ⟨acceptedA, acceptedB, separates, delimitedA, delimitedB, same,
    (bound delimitedA delimitedB same).2.2⟩

namespace Sample

/-- A record with other identifiers and the same canonical form. -/
def otherRecord : EvidenceRecord :=
  { record with
    artifact := { record.artifact with homologationId := "HOM-1", testRunId := "2,RUN" } }

/-- The block of the leader with the other record under the same hash and signature. -/
def alteredBlock : Block := { sealedBlock with evidences := [otherRecord] }

theorem canonicalText_alteredBlock :
    alteredBlock.content.canonicalText = sealedBlock.content.canonicalText := by
  have same : otherRecord.canonicalText = record.canonicalText := by
    decide +kernel
  show BlockContent.canonicalText { content with evidences := [otherRecord] } =
    BlockContent.canonicalText { content with evidences := [record] }
  simp [BlockContent.canonicalText, EvidenceRecord.sortById, same]

end Sample

/-- The hash does not bind the evidence: a record passes for one with other identifiers if the
comma and what stands beside it move from one to the other. -/
theorem Judge.content_not_bound_by_hash :
    ¬ ∀ head a b : Block, Sample.judge.follows head a = .ok () →
      Sample.judge.follows head b = .ok () →
      Sample.judge.crypto.Separates a.content b.content → a.hash = b.hash →
      (a.evidences.map EvidenceRecord.ordered).Perm (b.evidences.map EvidenceRecord.ordered) := by
  intro bound
  have text := Sample.canonicalText_alteredBlock
  have original : Sample.judge.follows Cryptography.standard.genesis Sample.sealedBlock = .ok () :=
    Sample.follows_sealedBlock (by decide)
  have accepted : Sample.judge.follows Cryptography.standard.genesis Sample.alteredBlock = .ok () :=
    follows_of_canonicalText_eq original text rfl rfl rfl rfl
  have same := bound _ _ _ original accepted (fun _ => text.symm) rfl
  have ordered : Sample.record.ordered = Sample.otherRecord.ordered :=
    List.singleton_perm_singleton.mp same
  exact absurd ordered (by decide +kernel)

end EvidenceLedger
