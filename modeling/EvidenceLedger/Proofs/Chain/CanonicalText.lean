import EvidenceLedger.Chain.Canonical
import EvidenceLedger.Proofs.Text.Numeral
import EvidenceLedger.Proofs.Text.Separator
import EvidenceLedger.Proofs.Time.RoundTrip

/-!
# What a canonical form gives away

Nothing is escaped in a canonical form, and yet some of it can be read back whatever the fields
hold. The height and the time come first, and no numeral and no timestamp holds a separator. The
previous hash comes next, and after it everything depends on what the fields hold: the rest is
only given away if they hold none of the separators that end them.

The last character says whether there is any evidence.
-/

namespace EvidenceLedger

theorem EvidenceRecord.sortById_perm (records : List EvidenceRecord) :
    (sortById records).Perm records :=
  List.mergeSort_perm records _

namespace BlockContent

/-- The part of the canonical form that holds the records. -/
def recordChars (c : BlockContent) : List Char :=
  (EvidenceRecord.sortById c.evidences).flatMap fun r => r.canonicalText.toList

/-- The part of the canonical form from the proposer on. -/
def proposerChars (c : BlockContent) : List Char :=
  c.proposer.toList ++ '|' :: ("evidences=".toList ++ c.recordChars)

/-- The part of the canonical form from the previous hash on. -/
def linkChars (c : BlockContent) : List Char :=
  c.previousHash.toList ++ '|' :: ("proposer=".toList ++ c.proposerChars)

theorem toList_canonicalText (c : BlockContent) :
    c.canonicalText.toList =
      "height=".toList ++ ((Text.decimal c.height.toNat).toList ++ '|' ::
        ("ts=".toList ++ (c.timestamp.toText.toList ++ '|' ::
          ("prev=".toList ++ c.linkChars)))) := by
  have joined : (String.join ((EvidenceRecord.sortById c.evidences).map
      EvidenceRecord.canonicalText)).toList = c.recordChars := by
    simp only [String.toList_join, List.flatMap_map, recordChars]
  unfold canonicalText linkChars proposerChars
  simp only [String.toList_append, joined, List.append_assoc]
  -- What is left is where the bars stand, in the words or before them.
  rfl

/-- The height and the time can be read from a canonical form whatever its fields hold. -/
theorem canonicalText_inj {a b : BlockContent} :
    a.canonicalText = b.canonicalText ↔
      a.height = b.height ∧ a.timestamp = b.timestamp ∧ a.linkChars = b.linkChars := by
  have noDigit : '|' ∉ (Text.decimal a.height.toNat).toList := Text.notMem_decimal (by decide)
  have noDigit' : '|' ∉ (Text.decimal b.height.toNat).toList := Text.notMem_decimal (by decide)
  have noTime (t : Timestamp) : '|' ∉ t.toText.toList := by
    intro member
    exact absurd (Timestamp.mem_toText member) (by decide)
  rw [← String.toList_inj, toList_canonicalText, toList_canonicalText, List.append_cancel_left_eq,
    Text.append_separator_inj noDigit noDigit', String.toList_inj, Text.decimal_inj,
    UInt64.toNat_inj, List.append_cancel_left_eq,
    Text.append_separator_inj (noTime a.timestamp) (noTime b.timestamp), String.toList_inj,
    Timestamp.toText_inj, List.append_cancel_left_eq]

/-- A previous hash without the separator can be read from a canonical form. -/
theorem linkChars_inj {a b : BlockContent} (ha : '|' ∉ a.previousHash.toList)
    (hb : '|' ∉ b.previousHash.toList) :
    a.linkChars = b.linkChars ↔
      a.previousHash = b.previousHash ∧ a.proposerChars = b.proposerChars := by
  rw [linkChars, linkChars, Text.append_separator_inj ha hb, List.append_cancel_left_eq,
    String.toList_inj]

/-- What follows a previous hash that is known can be told apart. -/
theorem linkChars_inj_of_eq {a b : BlockContent} (same : a.previousHash = b.previousHash) :
    a.linkChars = b.linkChars ↔ a.proposerChars = b.proposerChars := by
  rw [linkChars, linkChars, same, List.append_cancel_left_eq, List.cons.injEq,
    List.append_cancel_left_eq, eq_self, true_and]

/-- A proposer without the separator can be read from a canonical form. -/
theorem proposerChars_inj {a b : BlockContent} (ha : '|' ∉ a.proposer.toList)
    (hb : '|' ∉ b.proposer.toList) :
    a.proposerChars = b.proposerChars ↔
      a.proposer = b.proposer ∧ a.recordChars = b.recordChars := by
  rw [proposerChars, proposerChars, Text.append_separator_inj ha hb, List.append_cancel_left_eq,
    String.toList_inj]

theorem getLast?_recordChars (c : BlockContent) :
    c.recordChars.getLast? = if c.evidences = [] then none else some ';' := by
  have perm := EvidenceRecord.sortById_perm c.evidences
  obtain nil | ⟨front, r, sorted⟩ := List.eq_nil_or_concat (EvidenceRecord.sortById c.evidences)
  · have records : c.recordChars = [] := by simp [recordChars, nil]
    rw [records, if_pos (List.perm_nil.mp (nil ▸ perm.symm))]
    rfl
  · have notNil : c.evidences ≠ [] := by
      rintro nil
      simp [nil, EvidenceRecord.sortById] at sorted
    simp [recordChars, sorted, notNil, EvidenceRecord.canonicalText]

/-- The last character of a canonical form says whether there is any evidence. -/
theorem getLast?_canonicalText (c : BlockContent) :
    c.canonicalText.toList.getLast? = some (if c.evidences = [] then '=' else ';') := by
  rw [toList_canonicalText, linkChars, proposerChars]
  simp only [List.getLast?_append, List.getLast?_cons, getLast?_recordChars]
  by_cases nil : c.evidences = []
  · simp [nil]
  · simp [nil]

/-- A canonical form gives away whether there is any evidence. -/
theorem evidences_eq_nil_iff {a b : BlockContent} (h : a.canonicalText = b.canonicalText) :
    a.evidences = [] ↔ b.evidences = [] := by
  have last := getLast?_canonicalText a
  rw [h, getLast?_canonicalText b] at last
  by_cases nilA : a.evidences = [] <;> by_cases nilB : b.evidences = [] <;> simp_all

end BlockContent

end EvidenceLedger
