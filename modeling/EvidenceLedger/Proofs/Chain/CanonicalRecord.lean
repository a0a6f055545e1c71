import EvidenceLedger.Proofs.Chain.CanonicalText

/-!
# What the canonical form of a record gives away

A record whose fields hold none of the characters that end them can be read from its canonical
form, up to the order of its standards, and so can a row of such records. Two values more cannot
be told apart in a canonical form: no storage place and an empty one, and no standards and one
empty standard.
-/

namespace EvidenceLedger

namespace EvidenceRecord

/-- The record with its standards in their own order. -/
def ordered (r : EvidenceRecord) : EvidenceRecord :=
  { r with artifact := { r.artifact with standards := sortedTexts r.artifact.standards } }

/-- A record that can be told from others by its canonical form. Of the fields before the
standards, the size and the time never hold a comma. -/
structure Delimited (r : EvidenceRecord) : Prop where
  fields : ∀ text ∈ r.canonicalFields.dropLast, ',' ∉ text.toList
  storageUri : r.artifact.storageUri ≠ some ""
  standards : ∀ text ∈ r.artifact.standards, '+' ∉ text.toList ∧ ';' ∉ text.toList
  someStandard : r.artifact.standards ≠ [""]

theorem mem_sortedTexts {texts : List String} {text : String} :
    text ∈ sortedTexts texts ↔ text ∈ texts :=
  (List.mergeSort_perm texts _).mem_iff

theorem sortedTexts_eq_singleton_iff {texts : List String} {text : String} :
    sortedTexts texts = [text] ↔ texts = [text] := by
  constructor
  · intro h
    exact List.perm_singleton.mp (h ▸ (List.mergeSort_perm texts _).symm)
  · rintro rfl
    simp [sortedTexts]

/-- The canonical form ends each of the first eleven fields with a comma. -/
theorem toList_canonicalText (r : EvidenceRecord) :
    r.canonicalText.toList =
      (r.canonicalFields.dropLast.map String.toList).flatMap (· ++ [',']) ++
        (['+'].intercalate ((sortedTexts r.artifact.standards).map String.toList) ++ [';']) := by
  simp [canonicalText, canonicalFields, String.toList_intercalate, List.intercalate]

theorem ordered_inj {a b : EvidenceRecord} (ha : a.artifact.storageUri ≠ some "")
    (hb : b.artifact.storageUri ≠ some "") :
    a.ordered = b.ordered ↔
      a.canonicalFields.dropLast = b.canonicalFields.dropLast ∧
        sortedTexts a.artifact.standards = sortedTexts b.artifact.standards := by
  have size {m n : Option UInt64} :
      (m.map fun n => Text.decimal n.toNat).getD "" =
          (n.map fun n => Text.decimal n.toNat).getD "" ↔
        m = n := by
    have written (n : UInt64) : Text.decimal n.toNat ≠ "" := by
      simp [Text.decimal, ← String.toList_inj]
    cases m <;> cases n <;>
      simp [written, (written _).symm, Text.decimal_inj, UInt64.toNat_inj]
  have storage {m n : Option String} (hm : m ≠ some "") (hn : n ≠ some "") :
      m.getD "" = n.getD "" ↔ m = n := by
    cases m <;> cases n <;> simp_all [eq_comm]
  constructor
  · intro h
    simp only [ordered, EvidenceRecord.mk.injEq, Artifact.mk.injEq] at h
    simp [canonicalFields, h]
  · rintro ⟨fields, standards⟩
    simp only [canonicalFields, List.dropLast_cons_cons, List.cons.injEq, size, storage ha hb,
      Timestamp.toText_inj] at fields
    simp [ordered, fields, standards]

/-- Where a record ends and what it says can be told from the characters that begin with it. -/
theorem canonicalText_append_inj {a b : EvidenceRecord} (ha : a.Delimited) (hb : b.Delimited)
    {s t : List Char} :
    a.canonicalText.toList ++ s = b.canonicalText.toList ++ t ↔ a.ordered = b.ordered ∧ s = t := by
  have ended {r : EvidenceRecord} (h : r.Delimited) :
      ∀ cs ∈ r.canonicalFields.dropLast.map String.toList, ',' ∉ cs := by
    intro cs member
    obtain ⟨text, isField, rfl⟩ := List.mem_map.mp member
    exact h.fields text isField
  have joined {r : EvidenceRecord} (h : r.Delimited) :
      ∀ cs ∈ (sortedTexts r.artifact.standards).map String.toList, '+' ∉ cs ∧ ';' ∉ cs := by
    intro cs member
    obtain ⟨text, isStandard, rfl⟩ := List.mem_map.mp member
    exact h.standards text (mem_sortedTexts.mp isStandard)
  have notBlank {r : EvidenceRecord} (h : r.Delimited) :
      (sortedTexts r.artifact.standards).map String.toList ≠ [[]] := by
    intro blank
    obtain ⟨text, only, isBlank⟩ := List.map_eq_singleton_iff.mp blank
    rw [String.toList_eq_nil_iff.mp isBlank, sortedTexts_eq_singleton_iff] at only
    exact h.someStandard only
  have unended {r : EvidenceRecord} (h : r.Delimited) :
      ';' ∉ ['+'].intercalate ((sortedTexts r.artifact.standards).map String.toList) :=
    Text.notMem_intercalate (by decide) fun cs member => (joined h cs member).2
  have eleven : (a.canonicalFields.dropLast.map String.toList).length =
      (b.canonicalFields.dropLast.map String.toList).length := by
    simp [canonicalFields]
  rw [ordered_inj ha.storageUri hb.storageUri, toList_canonicalText, toList_canonicalText]
  simp only [List.append_assoc, List.singleton_append]
  constructor
  · intro h
    obtain ⟨fields, rest⟩ := Text.flatMap_terminated_inj (ended ha) (ended hb) eleven h
    obtain ⟨standards, rfl⟩ := (Text.append_separator_inj (unended ha) (unended hb)).mp rest
    have texts := Text.intercalate_inj (fun cs member => (joined ha cs member).1)
      (fun cs member => (joined hb cs member).1) (notBlank ha) (notBlank hb) standards
    have unwrap {xs ys : List String} (h : xs.map String.toList = ys.map String.toList) : xs = ys :=
      (List.map_inj_right fun _ _ => String.toList_inj.mp).mp h
    exact ⟨⟨unwrap fields, unwrap texts⟩, rfl⟩
  · rintro ⟨⟨fields, standards⟩, rfl⟩
    rw [fields, standards]

theorem canonicalText_ne_empty (r : EvidenceRecord) : r.canonicalText ≠ "" := by
  simp [← String.toList_inj, toList_canonicalText]

/-- A row of records can be read from its canonical form. -/
theorem flatMap_canonicalText_inj {rs ss : List EvidenceRecord} (hr : ∀ r ∈ rs, r.Delimited)
    (hs : ∀ s ∈ ss, s.Delimited) :
    rs.flatMap (fun r => r.canonicalText.toList) = ss.flatMap (fun s => s.canonicalText.toList) ↔
      rs.map ordered = ss.map ordered := by
  induction rs generalizing ss with
  | nil =>
    cases ss with
    | nil => simp
    | cons s ss => simp [canonicalText_ne_empty]
  | cons r rs ih =>
    cases ss with
    | nil => simp [canonicalText_ne_empty]
    | cons s ss =>
      have rest := @ih ss (fun x member => hr x (List.mem_cons_of_mem r member))
        (fun x member => hs x (List.mem_cons_of_mem s member))
      rw [List.flatMap_cons, List.flatMap_cons, canonicalText_append_inj (hr r List.mem_cons_self)
        (hs s List.mem_cons_self), rest, List.map_cons, List.map_cons, List.cons.injEq]

end EvidenceRecord

end EvidenceLedger
