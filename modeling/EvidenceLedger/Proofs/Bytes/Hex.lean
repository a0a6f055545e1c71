import EvidenceLedger.Hash.Digest
import EvidenceLedger.Proofs.Bytes.Text

/-!
# Digests and their text

Reading the hexadecimal form of bytes gives the bytes back, so a digest has one lower-case text
and is known by it. The text of a digest has 64 characters, all of them hexadecimal digits. A
text of 64 bytes that are such digits has no other characters, since every byte is one of them.
-/

namespace EvidenceLedger

namespace Bytes

theorem hexValue?_hexDigit {n : Nat} (h : n < 16) : hexValue? (hexDigit n) = some n := by
  revert n
  decide

theorem isHexDigit_hexDigit {n : Nat} (h : n < 16) : isHexDigit (hexDigit n) := by
  revert n
  decide

theorem toNat_lt_of_isHexDigit {c : Char} (digit : isHexDigit c = true) :
    c.toNat < 'g'.toNat := by
  simp only [isHexDigit, Bool.or_eq_true, Bool.and_eq_true, decide_eq_true_eq] at digit
  rcases digit with (⟨_, last⟩ | ⟨_, last⟩) | ⟨_, last⟩
  · exact Nat.lt_of_le_of_lt last (by decide)
  · exact Nat.lt_of_le_of_lt last (by decide)
  · exact Nat.lt_of_le_of_lt last (by decide)

theorem isHexDigit_of_mem_toHexChars {bytes : Bytes} {c : Char} (h : c ∈ toHexChars bytes) :
    isHexDigit c := by
  obtain ⟨b, _, member⟩ := List.mem_flatMap.mp h
  have low : b.toNat < 256 := UInt8.toNat_lt b
  simp only [hexPair, List.mem_cons, List.not_mem_nil, or_false] at member
  rcases member with rfl | rfl
  · exact isHexDigit_hexDigit (by omega)
  · exact isHexDigit_hexDigit (by omega)

theorem ofHexChars?_toHexChars (bytes : Bytes) : ofHexChars? (toHexChars bytes) = some bytes := by
  induction bytes with
  | nil => rfl
  | cons b bytes ih =>
    have low : b.toNat < 256 := UInt8.toNat_lt b
    have whole : UInt8.ofNat (16 * (b.toNat / 16) + b.toNat % 16) = b := by
      rw [Nat.div_add_mod, UInt8.ofNat_toNat]
    rw [toHexChars_cons, hexPair]
    simp only [List.cons_append, List.nil_append, ofHexChars?, ih,
      hexValue?_hexDigit (show b.toNat / 16 < 16 by omega),
      hexValue?_hexDigit (show b.toNat % 16 < 16 by omega), whole]

theorem ofHex?_toHex (bytes : Bytes) : ofHex? (toHex bytes) = some bytes := by
  rw [ofHex?, toList_toHex, ofHexChars?_toHexChars]

end Bytes

namespace Digest

@[simp] theorem length_toText (digest : Octets 32) : (toText digest).toList.length = 64 := by
  simp [toText, digest.length_eq]

theorem isText_eq_true_iff {s : String} :
    isText s = true ↔ s.toList.length = 64 ∧ ∀ c ∈ s.toList, Bytes.isHexDigit c = true := by
  have same {c : Char} (ascii : c.val ≤ 127) : Char.ofUInt8 c.toUInt8 = c := by
    apply Char.ext
    apply UInt32.toNat_inj.mp
    have small : c.val.toNat ≤ 127 := ascii
    show c.val.toNat % 256 = c.val.toNat
    exact Nat.mod_eq_of_lt (by omega)
  simp only [isText, Bool.and_eq_true, beq_iff_eq, List.all_eq_true]
  constructor
  · rintro ⟨length, digits⟩
    have ascii : ∀ c ∈ s.toList, c.val ≤ 127 := Bytes.ascii_of_ofString fun b member =>
      Nat.lt_trans (Bytes.toNat_lt_of_isHexDigit (digits b member)) (by decide)
    rw [Bytes.ofString_of_ascii ascii, List.length_map] at length
    refine ⟨length, fun c member => ?_⟩
    rw [Bytes.ofString_of_ascii ascii] at digits
    exact same (ascii c member) ▸ digits _ (List.mem_map_of_mem member)
  · rintro ⟨length, digits⟩
    have ascii : ∀ c ∈ s.toList, c.val ≤ 127 := fun c member =>
      Nat.le_of_lt_succ (Nat.lt_trans (Bytes.toNat_lt_of_isHexDigit (digits c member)) (by decide))
    rw [Bytes.ofString_of_ascii ascii, List.length_map]
    refine ⟨length, fun b member => ?_⟩
    obtain ⟨c, isChar, rfl⟩ := List.mem_map.mp member
    exact (same (ascii c isChar)).symm ▸ digits c isChar

theorem isHexDigit_of_mem_toText {digest : Octets 32} {c : Char}
    (h : c ∈ (toText digest).toList) : Bytes.isHexDigit c := by
  rw [toText, Bytes.toList_toHex] at h
  exact Bytes.isHexDigit_of_mem_toHexChars h

/-- The text of a digest is read as that digest. -/
@[simp] theorem ofText?_toText (digest : Octets 32) : ofText? (toText digest) = some digest := by
  have digits : isText (toText digest) :=
    isText_eq_true_iff.mpr ⟨length_toText digest, fun c member => isHexDigit_of_mem_toText member⟩
  rw [ofText?, if_pos digits, toText, Bytes.ofHex?_toHex]
  exact Octets.ofBytes?_bytes digest

theorem toText_inj {a b : Octets 32} : toText a = toText b ↔ a = b := by
  constructor
  · intro h
    exact Option.some.inj (by rw [← ofText?_toText a, h, ofText?_toText])
  · rintro rfl
    rfl

end Digest

end EvidenceLedger
