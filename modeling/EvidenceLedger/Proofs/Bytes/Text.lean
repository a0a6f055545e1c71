import EvidenceLedger.Bytes.Basic

/-!
# Texts as bytes

The bytes of a text are read as that text. Each character of ASCII is one byte, and any other one
has a byte that is not of ASCII.
-/

namespace EvidenceLedger.Bytes

@[simp] theorem toString?_ofString (s : String) : toString? (ofString s) = some s := by
  have bytes : (⟨(ofString s).toArray⟩ : ByteArray) = s.toByteArray := by
    simp [ofString]
  rw [toString?, bytes, String.fromUTF8?, dif_pos s.isValidUTF8]
  rfl

/-- The bytes of a text are those of its characters, one character after the other. -/
theorem ofString_eq_flatMap (s : String) :
    ofString s = s.toList.flatMap String.utf8EncodeChar := by
  rw [← String.ofList_toList (s := s)]
  show (String.ofList s.toList).toByteArray.data.toList = _
  rw [String.toByteArray_ofList, List.utf8Encode]
  simp

theorem ofString_of_ascii {s : String} (ascii : ∀ c ∈ s.toList, c.val ≤ 127) :
    ofString s = s.toList.map Char.toUInt8 := by
  rw [ofString_eq_flatMap]
  generalize s.toList = cs at ascii
  induction cs with
  | nil => rfl
  | cons c cs ih =>
    have single : String.utf8EncodeChar c = [c.toUInt8] :=
      String.utf8EncodeChar_eq_singleton
        (Char.utf8Size_eq_one_iff.mpr (ascii c List.mem_cons_self))
    rw [List.flatMap_cons, single, ih fun d member => ascii d (List.mem_cons_of_mem c member)]
    rfl

theorem ofString_ofList_of_ascii {cs : List Char} (ascii : ∀ c ∈ cs, c.val ≤ 127) :
    ofString (String.ofList cs) = cs.map Char.toUInt8 := by
  have chars : (String.ofList cs).toList = cs := String.toList_ofList
  rw [ofString_of_ascii (chars.symm ▸ ascii), chars]

/-- A character beyond ASCII has a byte beyond ASCII: the last one. -/
theorem exists_mem_utf8EncodeChar {c : Char} (beyond : ¬c.val ≤ 127) :
    ∃ b ∈ String.utf8EncodeChar c, 128 ≤ b.toNat := by
  have more : ¬c.val.toNat ≤ 127 := beyond
  refine ⟨UInt8.ofNat (c.val.toNat % 64 + 128), ?_, ?_⟩
  · simp only [String.utf8EncodeChar, if_neg more]
    split
    · simp
    · split
      · simp
      · simp
  · rw [UInt8.toNat_ofNat_of_lt' (show _ < 256 by omega)]
    exact Nat.le_add_left 128 _

/-- Where all bytes are of ASCII, all characters are. -/
theorem ascii_of_ofString {s : String} (ascii : ∀ b ∈ ofString s, b.toNat < 128) :
    ∀ c ∈ s.toList, c.val ≤ 127 := by
  intro c member
  apply Decidable.byContradiction
  intro beyond
  obtain ⟨b, isByte, high⟩ := exists_mem_utf8EncodeChar beyond
  rw [ofString_eq_flatMap] at ascii
  exact absurd (ascii b (List.mem_flatMap.mpr ⟨c, member, isByte⟩)) (Nat.not_lt.mpr high)

end EvidenceLedger.Bytes
