import EvidenceLedger.Proofs.Chain.CanonicalRecord
import EvidenceLedger.Proofs.Ledger.Replication
import Mathlib.Data.List.Dedup

/-!
# When the order of evidence does not show

The canonical form of a block lists records in the order of their identifiers and the standards of
a record in their own order. So it does not depend on the order in which evidence comes, as far as
identifiers tell records apart. Records that share an identifier stay in the order in which they
come, and then it may show.

The canonical form falls into groups, one for each identifier. To list the same records in another
order moves records inside their groups only, which leaves every group as long as it was. Hence two
listings have the same canonical form exactly if they agree group by group.
-/

namespace EvidenceLedger

/-- Texts in another order are the same texts in their own order. -/
theorem sortedTexts_eq_of_perm {texts others : List String} (perm : texts.Perm others) :
    sortedTexts texts = sortedTexts others := by
  have sorted (texts : List String) : (sortedTexts texts).Pairwise (· ≤ ·) := by
    have pairwise := @List.pairwise_mergeSort String (fun a b => decide (a ≤ b))
      (fun a b c => by simpa using String.le_trans) (fun a b => by simpa using String.le_total a b)
      texts
    simpa [sortedTexts] using pairwise
  apply List.Perm.eq_of_pairwise (fun _ _ _ _ => String.le_antisymm) (sorted texts) (sorted others)
  exact (List.mergeSort_perm texts _).trans (perm.trans (List.mergeSort_perm others _).symm)

namespace EvidenceRecord

/-- The records with an identifier, as they come. -/
def group (id : String) (records : List EvidenceRecord) : List EvidenceRecord :=
  records.filter (·.evidenceId == id)

/-- The records with an identifier in canonical form, as they come. -/
def groupChars (id : String) (records : List EvidenceRecord) : List Char :=
  (group id records).flatMap fun r => r.canonicalText.toList

/-- The other record is this one with its standards in some order. -/
def Restated (r other : EvidenceRecord) : Prop :=
  ∃ standards, r.artifact.standards.Perm standards ∧
    other = { r with artifact := { r.artifact with standards } }

/-- The others are these records in some order, each with its standards in some order. -/
def Relisted (records others : List EvidenceRecord) : Prop :=
  ∃ permuted, records.Perm permuted ∧ List.Forall₂ Restated permuted others

section Sorting

theorem mem_group {id : String} {records : List EvidenceRecord} {r : EvidenceRecord} :
    r ∈ group id records ↔ r ∈ records ∧ r.evidenceId = id := by
  simp [group]

theorem sortById_pairwise (records : List EvidenceRecord) :
    (sortById records).Pairwise fun a b => a.evidenceId ≤ b.evidenceId := by
  have pairwise := @List.pairwise_mergeSort EvidenceRecord
    (fun a b => decide (a.evidenceId ≤ b.evidenceId))
    (fun a b c => by simpa using String.le_trans)
    (fun a b => by simpa using String.le_total a.evidenceId b.evidenceId) records
  simpa [sortById] using pairwise

/-- Records that share an identifier keep their order. -/
theorem group_sortById (id : String) (records : List EvidenceRecord) :
    group id (sortById records) = group id records := by
  have together : (group id records).Pairwise fun a b => decide (a.evidenceId ≤ b.evidenceId) := by
    apply List.pairwise_of_forall_mem_list
    intro a memberA b memberB
    rw [(mem_group.mp memberA).2, (mem_group.mp memberB).2]
    exact decide_eq_true (String.le_refl id)
  have kept : (group id records).Sublist (sortById records) :=
    List.sublist_mergeSort (fun a b c => by simpa using String.le_trans)
      (fun a b => by simpa using String.le_total a.evidenceId b.evidenceId) together
      List.filter_sublist
  have again : group id (group id records) = group id records := by simp [group]
  have inGroup : (group id records).Sublist (group id (sortById records)) :=
    again ▸ kept.filter _
  exact (inGroup.eq_of_length ((sortById_perm records).filter _).length_eq.symm).symm

/-- Where no identifier is smaller, the records with the smallest one come first. -/
theorem eq_group_append {id : String} {records : List EvidenceRecord}
    (sorted : records.Pairwise fun a b => a.evidenceId ≤ b.evidenceId)
    (least : ∀ r ∈ records, id ≤ r.evidenceId) :
    records = group id records ++ records.filter (·.evidenceId != id) := by
  induction records with
  | nil => rfl
  | cons r rest ih =>
    obtain ⟨before, sortedRest⟩ := List.pairwise_cons.mp sorted
    by_cases same : r.evidenceId = id
    · have tail := ih sortedRest fun s member => least s (List.mem_cons_of_mem r member)
      simp only [group, List.filter_cons, same, BEq.rfl, bne_self_eq_false, if_true,
        Bool.false_eq_true, if_false, List.cons_append, List.cons.injEq, true_and]
      exact tail
    · -- All identifiers that follow are greater.
      have greater : ∀ s ∈ r :: rest, s.evidenceId ≠ id := by
        intro s member isId
        apply same
        refine String.le_antisymm ?_ (least r List.mem_cons_self)
        rcases List.mem_cons.mp member with rfl | member
        · exact isId ▸ String.le_refl _
        · exact isId ▸ before s member
      have none : group id (r :: rest) = [] := by
        rw [group, List.filter_eq_nil_iff]
        intro s member
        simpa using greater s member
      have all : (r :: rest).filter (·.evidenceId != id) = r :: rest := by
        rw [List.filter_eq_self]
        intro s member
        simpa using greater s member
      rw [none, all, List.nil_append]

/-- Records in the order of their identifiers are made of their groups. -/
theorem eq_flatMap_group {ids : List String} {records : List EvidenceRecord}
    (strict : ids.Pairwise (· < ·))
    (sorted : records.Pairwise fun a b => a.evidenceId ≤ b.evidenceId)
    (known : ∀ r ∈ records, r.evidenceId ∈ ids) :
    records = ids.flatMap fun id => group id records := by
  induction ids generalizing records with
  | nil => exact List.eq_nil_iff_forall_not_mem.mpr fun r member => nomatch known r member
  | cons id ids ih =>
    obtain ⟨first, strictRest⟩ := List.pairwise_cons.mp strict
    have least : ∀ r ∈ records, id ≤ r.evidenceId := by
      intro r member
      rcases List.mem_cons.mp (known r member) with same | later
      · exact same ▸ String.le_refl _
      · exact String.not_lt.mp fun less => String.lt_asymm less (first _ later)
    have rest := @ih (records.filter (·.evidenceId != id)) strictRest (sorted.filter _) (by
      intro r member
      obtain ⟨isRecord, other⟩ := List.mem_filter.mp member
      exact (List.mem_cons.mp (known r isRecord)).resolve_left (by simpa using other))
    have groups : ∀ other ∈ ids,
        group other (records.filter (·.evidenceId != id)) = group other records := by
      intro other member
      have distinct : other ≠ id := fun same => String.lt_irrefl id (same ▸ first other member)
      rw [group, List.filter_filter]
      apply List.filter_congr
      intro r _
      by_cases same : r.evidenceId = other
      · simp [same, distinct]
      · simp [same]
    rw [List.flatMap_cons, ← List.flatMap_congr groups, ← rest]
    exact eq_group_append sorted least

theorem exists_identifiers (records : List EvidenceRecord) :
    ∃ ids : List String, ids.Pairwise (· < ·) ∧ ∀ r ∈ records, r.evidenceId ∈ ids := by
  have sorted := (sortById_pairwise records).map EvidenceRecord.evidenceId fun _ _ => id
  refine ⟨((sortById records).map EvidenceRecord.evidenceId).dedup, ?_, ?_⟩
  · refine (sorted.sublist (List.dedup_sublist _)).imp₂ ?_ (List.nodup_dedup _)
    intro a b le ne
    exact String.not_le.mp fun ge => ne (String.le_antisymm le ge)
  · intro r member
    rw [List.mem_dedup]
    exact List.mem_map_of_mem ((sortById_perm records).mem_iff.mpr member)

end Sorting

section Relisting

variable {records others : List EvidenceRecord}

@[simp] theorem evidenceId_ordered (r : EvidenceRecord) : r.ordered.evidenceId = r.evidenceId := rfl

@[simp] theorem canonicalText_ordered (r : EvidenceRecord) :
    r.ordered.canonicalText = r.canonicalText := by
  have again : sortedTexts (sortedTexts r.artifact.standards) = sortedTexts r.artifact.standards :=
    sortedTexts_eq_of_perm (List.mergeSort_perm _ _)
  simp only [canonicalText, canonicalFields, ordered, again]

theorem Restated.ordered_eq {r other : EvidenceRecord} (restated : r.Restated other) :
    other.ordered = r.ordered := by
  obtain ⟨standards, perm, rfl⟩ := restated
  simp only [ordered, sortedTexts_eq_of_perm perm.symm]

/-- Two listings of the same records are permutations of each other, the order of standards
aside. -/
theorem Relisted.perm (relisted : Relisted records others) :
    (others.map ordered).Perm (records.map ordered) := by
  obtain ⟨permuted, perm, restated⟩ := relisted
  have same : others.map ordered = permuted.map ordered := by
    clear perm
    induction restated with
    | nil => rfl
    | cons first _ ih => rw [List.map_cons, List.map_cons, first.ordered_eq, ih]
  rw [same]
  exact (perm.map ordered).symm

theorem group_map_ordered (id : String) (records : List EvidenceRecord) :
    group id (records.map ordered) = (group id records).map ordered := by
  rw [group, List.filter_map]
  rfl

theorem texts_group_ordered (id : String) (records : List EvidenceRecord) :
    (group id (records.map ordered)).map canonicalText = (group id records).map canonicalText := by
  simp [group_map_ordered]

/-- The groups of two listings hold the same texts. -/
theorem Relisted.texts_group (relisted : Relisted records others) (id : String) :
    ((group id others).map canonicalText).Perm ((group id records).map canonicalText) := by
  rw [← texts_group_ordered, ← texts_group_ordered id records]
  exact (relisted.perm.filter _).map canonicalText

theorem groupChars_eq (id : String) (records : List EvidenceRecord) :
    groupChars id records = ((group id records).map canonicalText).flatMap String.toList := by
  rw [groupChars, List.flatMap_map]

theorem groupChars_of_unknown {ids : List String} (known : ∀ r ∈ records, r.evidenceId ∈ ids)
    {id : String} (unknown : id ∉ ids) : groupChars id records = [] := by
  have none : group id records = [] := by
    rw [group, List.filter_eq_nil_iff]
    intro r member same
    exact unknown (beq_iff_eq.mp same ▸ known r member)
  rw [groupChars, none, List.flatMap_nil]

/-- The groups of two listings are equally long. -/
theorem Relisted.length_groupChars (relisted : Relisted records others) (id : String) :
    (groupChars id others).length = (groupChars id records).length := by
  rw [groupChars_eq, groupChars_eq]
  exact ((relisted.texts_group id).flatMap_right _).length_eq

/-- Where records that share an identifier read the same, all listings agree group by group. -/
theorem Relisted.groupChars_eq_of_alike (relisted : Relisted records others)
    (alike : ∀ r ∈ records, ∀ s ∈ records,
      r.evidenceId = s.evidenceId → r.canonicalText = s.canonicalText) (id : String) :
    groupChars id others = groupChars id records := by
  have perm := relisted.texts_group id
  have oneText : ∀ a ∈ (group id records).map canonicalText,
      ∀ b ∈ (group id records).map canonicalText, a = b := by
    intro a memberA b memberB
    obtain ⟨r, inGroupR, rfl⟩ := List.mem_map.mp memberA
    obtain ⟨s, inGroupS, rfl⟩ := List.mem_map.mp memberB
    obtain ⟨memberR, idR⟩ := mem_group.mp inGroupR
    obtain ⟨memberS, idS⟩ := mem_group.mp inGroupS
    exact alike r memberR s memberS (idR.trans idS.symm)
  have texts : (group id others).map canonicalText = (group id records).map canonicalText :=
    @List.Perm.eq_of_pairwise _ (fun _ _ => True) _ _
      (fun a b memberA memberB _ _ => oneText a (perm.mem_iff.mp memberA) b memberB)
      (List.pairwise_of_forall fun _ _ => trivial) (List.pairwise_of_forall fun _ _ => trivial) perm
  rw [groupChars_eq, groupChars_eq, texts]

end Relisting

end EvidenceRecord

/-- Rows of equally long texts are equal only text by text. -/
theorem flatMap_inj_of_length {α β : Type} {ids : List α} {f g : α → List β}
    (length : ∀ id ∈ ids, (f id).length = (g id).length) :
    ids.flatMap f = ids.flatMap g ↔ ∀ id ∈ ids, f id = g id := by
  constructor
  · intro h
    induction ids with
    | nil => exact fun id member => nomatch member
    | cons first rest ih =>
      rw [List.flatMap_cons, List.flatMap_cons] at h
      obtain ⟨same, others⟩ := List.append_inj h (length first List.mem_cons_self)
      have later := ih (fun id member => length id (List.mem_cons_of_mem first member)) others
      exact List.forall_mem_cons.mpr ⟨same, later⟩
  · exact List.flatMap_congr

namespace BlockContent

open EvidenceRecord

variable {c : BlockContent} {records : List EvidenceRecord}

/-- Of two blocks that differ only in evidence, the canonical forms agree if those of the records
do. -/
theorem canonicalText_evidences_inj :
    { c with evidences := records }.canonicalText = c.canonicalText ↔
      { c with evidences := records }.recordChars = c.recordChars := by
  have previous : { c with evidences := records }.previousHash = c.previousHash := rfl
  rw [canonicalText_inj, linkChars_inj_of_eq previous, proposerChars, proposerChars,
    List.append_cancel_left_eq, List.cons.injEq, List.append_cancel_left_eq]
  simp only [true_and]

/-- The records of a block in canonical form are made of the groups. -/
theorem recordChars_eq_flatMap {ids : List String} (strict : ids.Pairwise (· < ·))
    (known : ∀ r ∈ c.evidences, r.evidenceId ∈ ids) :
    c.recordChars = ids.flatMap fun id => groupChars id c.evidences := by
  have groups := eq_flatMap_group strict (sortById_pairwise c.evidences) fun r member =>
    known r ((sortById_perm c.evidences).mem_iff.mp member)
  simp only [group_sortById] at groups
  rw [recordChars, groups, List.flatMap_assoc]
  rfl

/-- Two listings of the same evidence have one canonical form exactly if they agree group by
group. -/
theorem canonicalText_eq_iff_groups (relisted : Relisted c.evidences records) :
    { c with evidences := records }.canonicalText = c.canonicalText ↔
      ∀ id, groupChars id records = groupChars id c.evidences := by
  obtain ⟨ids, strict, known⟩ := exists_identifiers (c.evidences ++ records)
  have knownBefore : ∀ r ∈ c.evidences, r.evidenceId ∈ ids :=
    fun r member => known r (List.mem_append_left _ member)
  have knownAfter : ∀ r ∈ records, r.evidenceId ∈ ids :=
    fun r member => known r (List.mem_append_right _ member)
  have inIds : (∀ id ∈ ids, groupChars id records = groupChars id c.evidences) ↔
      ∀ id, groupChars id records = groupChars id c.evidences := by
    constructor
    · intro h id
      by_cases isKnown : id ∈ ids
      · exact h id isKnown
      · rw [groupChars_of_unknown knownAfter isKnown, groupChars_of_unknown knownBefore isKnown]
    · intro h id _
      exact h id
  rw [canonicalText_evidences_inj, recordChars_eq_flatMap strict knownBefore,
    @recordChars_eq_flatMap { c with evidences := records } ids strict knownAfter,
    flatMap_inj_of_length fun id _ => relisted.length_groupChars id]
  exact inIds

/-- When the order of evidence does not show. Take any block and list its records in any other
order, each with its standards in any other order. The canonical form stays the same exactly if,
for each identifier, the records that share it still read the same in the order in which they come.
So it always does if no two records that read differently share an identifier, and then the hash
stays the same as well. -/
theorem canonicalText_relisted (c : BlockContent) {records : List EvidenceRecord}
    (relisted : Relisted c.evidences records) :
    ({ c with evidences := records }.canonicalText = c.canonicalText ↔
      ∀ id, groupChars id records = groupChars id c.evidences) ∧
    ((∀ r ∈ c.evidences, ∀ s ∈ c.evidences,
        r.evidenceId = s.evidenceId → r.canonicalText = s.canonicalText) →
      { c with evidences := records }.canonicalText = c.canonicalText ∧
        ∀ crypto : Cryptography,
          crypto.hashOf { c with evidences := records } = crypto.hashOf c) := by
  have exactly := canonicalText_eq_iff_groups relisted
  refine ⟨exactly, ?_⟩
  intro alike
  have same := exactly.mpr (relisted.groupChars_eq_of_alike alike)
  refine ⟨same, ?_⟩
  intro crypto
  rw [Cryptography.hashOf, Cryptography.hashOf, Cryptography.digestOf, Cryptography.digestOf, same]

end BlockContent

namespace Sample

/-- The record of the leader with other values for its identifier and its standards. -/
def labelled (evidenceId : String) (standards : List String) : EvidenceRecord :=
  { record with evidenceId, artifact := { record.artifact with standards } }

def contentOf (evidences : List EvidenceRecord) : BlockContent := { content with evidences }

end Sample

/-- Two records under different identifiers and the standards of one of them may change places. -/
theorem BlockContent.canonicalText_relisted_of_distinct :
    let records := [Sample.labelled "ev-1" ["ISO-2", "ISO-1"], Sample.labelled "ev-2" []]
    let others := [Sample.labelled "ev-2" [], Sample.labelled "ev-1" ["ISO-1", "ISO-2"]]
    EvidenceRecord.Relisted records others ∧
      (Sample.contentOf others).canonicalText = (Sample.contentOf records).canonicalText := by
  intro records others
  have restated : EvidenceRecord.Restated (Sample.labelled "ev-1" ["ISO-2", "ISO-1"])
      (Sample.labelled "ev-1" ["ISO-1", "ISO-2"]) := ⟨_, List.Perm.swap _ _ _, rfl⟩
  have kept : EvidenceRecord.Restated (Sample.labelled "ev-2" []) (Sample.labelled "ev-2" []) :=
    ⟨_, List.Perm.refl _, rfl⟩
  have relisted : EvidenceRecord.Relisted records others :=
    ⟨_, List.Perm.swap _ _ _, .cons kept (.cons restated .nil)⟩
  have alike : ∀ r ∈ records, ∀ s ∈ records,
      r.evidenceId = s.evidenceId → r.canonicalText = s.canonicalText := by
    simp [records, Sample.labelled]
  have same := (BlockContent.canonicalText_relisted (Sample.contentOf records) relisted).2 alike
  exact ⟨relisted, same.1⟩

/-- The order of records that share an identifier shows. -/
theorem BlockContent.canonicalText_of_shared_identifier :
    ¬ ∀ (c : BlockContent) (records : List EvidenceRecord),
      EvidenceRecord.Relisted c.evidences records →
        { c with evidences := records }.canonicalText = c.canonicalText := by
  intro hidden
  have relisted : EvidenceRecord.Relisted
      [Sample.labelled "ev-1" ["ISO-1"], Sample.labelled "ev-1" ["ISO-2"]]
      [Sample.labelled "ev-1" ["ISO-2"], Sample.labelled "ev-1" ["ISO-1"]] :=
    ⟨_, List.Perm.swap _ _ _,
      .cons ⟨_, List.Perm.refl _, rfl⟩ (.cons ⟨_, List.Perm.refl _, rfl⟩ .nil)⟩
  have same := hidden (Sample.contentOf _) _ relisted
  have groups := (canonicalText_eq_iff_groups relisted).mp same "ev-1"
  exact absurd groups (by decide +kernel)

end EvidenceLedger
