import EvidenceLedger.Proofs.Chain.Binding
import EvidenceLedger.Proofs.Chain.Order

/-!
# Which blocks can be read back

Separators stand in three layers: bars between the parts of a block, semicolons behind its records,
commas between the fields of a record and plus signs between its standards. Where no text holds the
separator that ends it, and nothing that is there is written as if it were missing, the canonical
form of a block gives away all that the block says, but for two things that it sorts: records with
different identifiers and the standards of a record.

The order that it sorts by plays no part in this. Two rows of records are the same when sorted
exactly if, identifier by identifier, the records that share it are the same in the order in which
they come.
-/

namespace EvidenceLedger

namespace EvidenceRecord

variable {r : EvidenceRecord} {records others : List EvidenceRecord}

/-- The texts that a record holds, its standards aside. -/
def texts (r : EvidenceRecord) : List String :=
  [r.evidenceId, r.artifact.homologationId, r.artifact.testRunId, r.artifact.artifactName,
    r.artifact.artifactType, r.artifact.hashAlgorithm, r.artifact.hash, r.artifact.createdBy] ++
    r.artifact.storageUri.toList

/-- No text in the record holds a separator that ends it. An empty storage place would pass for
none, and one empty standard for no standards. -/
structure Separable (r : EvidenceRecord) : Prop where
  texts : ∀ text ∈ r.texts, ',' ∉ text.toList
  storageUri : r.artifact.storageUri ≠ some ""
  standards : ∀ text ∈ r.artifact.standards, '+' ∉ text.toList ∧ ';' ∉ text.toList
  someStandard : r.artifact.standards ≠ [""]

/-- A numeral and a time never hold a comma, so only the texts of a record count. -/
theorem Separable.delimited (separable : r.Separable) : r.Delimited := by
  have noText {text : String} (isText : text ∈ r.texts) : ',' ∉ text.toList :=
    separable.texts text isText
  have noSize :
      ',' ∉ ((r.artifact.sizeBytes.map fun n => Text.decimal n.toNat).getD "").toList := by
    cases r.artifact.sizeBytes with
    | none => exact List.not_mem_nil
    | some n => exact Text.notMem_decimal (by decide)
  have noStorage : ',' ∉ (r.artifact.storageUri.getD "").toList := by
    cases stored : r.artifact.storageUri with
    | none => exact List.not_mem_nil
    | some text => exact noText (by simp [EvidenceRecord.texts, stored])
  have noTime : ',' ∉ r.createdAt.toText.toList := by
    intro member
    exact absurd (Timestamp.mem_toText member) (by decide)
  refine ⟨?_, separable.storageUri, separable.standards, separable.someStandard⟩
  intro text isField
  simp only [canonicalFields, List.dropLast_cons_cons, List.dropLast_singleton, List.mem_cons,
    List.not_mem_nil, or_false] at isField
  rcases isField with rfl | rfl | rfl | rfl | rfl | rfl | rfl | rfl | rfl | rfl | rfl
  iterate 7 exact noText (by simp [EvidenceRecord.texts])
  · exact noSize
  · exact noText (by simp [EvidenceRecord.texts])
  · exact noStorage
  · exact noTime

/-- Sorted rows of records are equal exactly if they agree identifier by identifier. -/
theorem map_ordered_sortById_inj :
    (sortById records).map ordered = (sortById others).map ordered ↔
      ∀ id, (group id records).map ordered = (group id others).map ordered := by
  constructor
  · intro same id
    rw [← group_sortById id records, ← group_sortById id others, ← group_map_ordered,
      ← group_map_ordered, same]
  · intro groups
    obtain ⟨ids, strict, known⟩ := exists_identifiers (records ++ others)
    have made {part : List EvidenceRecord} (inWhole : ∀ r ∈ part, r ∈ records ++ others) :
        (sortById part).map ordered = ids.flatMap fun id => (group id part).map ordered := by
      have parts := eq_flatMap_group strict (sortById_pairwise part) fun r member =>
        known r (inWhole r ((sortById_perm part).mem_iff.mp member))
      simp only [group_sortById] at parts
      rw [parts, List.map_flatMap]
    rw [made fun r member => List.mem_append_left _ member,
      made fun r member => List.mem_append_right _ member]
    exact List.flatMap_congr fun id _ => groups id

end EvidenceRecord

namespace BlockContent

open EvidenceRecord

/-- No text in the block holds a separator that ends it. -/
structure Separable (c : BlockContent) : Prop where
  previousHash : '|' ∉ c.previousHash.toList
  proposer : '|' ∉ c.proposer.toList
  evidences : ∀ r ∈ c.evidences, r.Separable

theorem Separable.delimited {c : BlockContent} (separable : c.Separable) : c.Delimited :=
  ⟨separable.proposer, fun r member => (separable.evidences r member).delimited⟩

/-- Canonical forms can be decoded in one way only. Of two blocks in which no text holds a separator
that ends it, the canonical forms are equal exactly if height, time, previous hash and proposer are,
and the records are equal one by one when both rows are sorted by identifier, those with the same
one as they come, and the standards of each record are sorted.

The rows are equal when sorted exactly if, for every identifier, the records that share it are equal
one by one as they come, the order of standards aside. -/
theorem canonicalText_eq_iff {a b : BlockContent} (separableA : a.Separable)
    (separableB : b.Separable) :
    (a.canonicalText = b.canonicalText ↔
      a.height = b.height ∧ a.timestamp = b.timestamp ∧ a.previousHash = b.previousHash ∧
        a.proposer = b.proposer ∧
        (sortById a.evidences).map ordered = (sortById b.evidences).map ordered) ∧
    ((sortById a.evidences).map ordered = (sortById b.evidences).map ordered ↔
      ∀ id, (group id a.evidences).map ordered = (group id b.evidences).map ordered) := by
  refine ⟨?_, map_ordered_sortById_inj⟩
  calc a.canonicalText = b.canonicalText
      ↔ a.height = b.height ∧ a.timestamp = b.timestamp ∧ a.linkChars = b.linkChars :=
        canonicalText_inj
    _ ↔ a.height = b.height ∧ a.timestamp = b.timestamp ∧ a.previousHash = b.previousHash ∧
          a.proposerChars = b.proposerChars := by
        rw [linkChars_inj separableA.previousHash separableB.previousHash]
    _ ↔ a.height = b.height ∧ a.timestamp = b.timestamp ∧ a.previousHash = b.previousHash ∧
          a.proposer = b.proposer ∧ a.recordChars = b.recordChars := by
        rw [proposerChars_inj separableA.proposer separableB.proposer]
    _ ↔ _ := by
        rw [recordChars_inj separableA.delimited separableB.delimited]

end BlockContent

namespace Sample

def listing (standards : List String) : EvidenceRecord :=
  { recordOf "ev-1" with artifact := { (recordOf "ev-1").artifact with standards } }

/-- What a block with two records under one identifier says. -/
def sharing (first second : List String) : BlockContent :=
  ⟨1, .genesis, [listing first, listing second], zeroHash, "node-1"⟩

theorem separable_sharing {first second : List String}
    (noFirst : ∀ text ∈ first, '+' ∉ text.toList ∧ ';' ∉ text.toList) (someFirst : first ≠ [""])
    (noSecond : ∀ text ∈ second, '+' ∉ text.toList ∧ ';' ∉ text.toList)
    (someSecond : second ≠ [""]) : (sharing first second).Separable := by
  have texts (standards : List String) : ∀ text ∈ (listing standards).texts, ',' ∉ text.toList := by
    show ∀ text ∈ (listing []).texts, ',' ∉ text.toList
    decide
  have noStorage (standards : List String) :
      (listing standards).artifact.storageUri ≠ some "" := nofun
  have noBar : '|' ∉ zeroHash.toList ∧ '|' ∉ "node-1".toList := by decide
  refine ⟨noBar.1, noBar.2, ?_⟩
  intro r member
  rcases List.mem_pair.mp member with rfl | rfl
  · exact ⟨texts first, noStorage first, noFirst, someFirst⟩
  · exact ⟨texts second, noStorage second, noSecond, someSecond⟩

end Sample

/-- Of two records under one identifier the order shows, and the order of their standards does
not. -/
theorem BlockContent.canonicalText_eq_iff_of_sharing :
    let a := Sample.sharing ["ISO-2", "ISO-1"] ["ISO-3"]
    let b := Sample.sharing ["ISO-1", "ISO-2"] ["ISO-3"]
    let c := Sample.sharing ["ISO-3"] ["ISO-2", "ISO-1"]
    a.Separable ∧ b.Separable ∧ c.Separable ∧
      a.canonicalText = b.canonicalText ∧ a.canonicalText ≠ c.canonicalText := by
  intro a b c
  have separableA : a.Separable :=
    Sample.separable_sharing (by decide) (by decide) (by decide) (by decide)
  have separableB : b.Separable :=
    Sample.separable_sharing (by decide) (by decide) (by decide) (by decide)
  have separableC : c.Separable :=
    Sample.separable_sharing (by decide) (by decide) (by decide) (by decide)
  obtain ⟨sameText, sameRows⟩ := canonicalText_eq_iff separableA separableB
  obtain ⟨otherText, otherRows⟩ := canonicalText_eq_iff separableA separableC
  refine ⟨separableA, separableB, separableC, ?_, ?_⟩
  · refine sameText.mpr ⟨rfl, rfl, rfl, rfl, sameRows.mpr fun id => ?_⟩
    have restated : (Sample.listing ["ISO-2", "ISO-1"]).Restated
        (Sample.listing ["ISO-1", "ISO-2"]) := ⟨_, List.Perm.swap _ _ _, rfl⟩
    rw [← EvidenceRecord.group_map_ordered, ← EvidenceRecord.group_map_ordered]
    exact congrArg (fun r => EvidenceRecord.group id [r, (Sample.listing ["ISO-3"]).ordered])
      restated.ordered_eq.symm
  · intro same
    obtain ⟨_, _, _, _, rows⟩ := otherText.mp same
    -- The first record lists two standards in one block and one in the other.
    have counts := congrArg (List.map fun r => r.artifact.standards.length)
      (otherRows.mp rows "ev-1")
    simp [a, c, Sample.sharing, Sample.listing, Sample.recordOf, EvidenceRecord.group,
      EvidenceRecord.ordered, sortedTexts] at counts

end EvidenceLedger
