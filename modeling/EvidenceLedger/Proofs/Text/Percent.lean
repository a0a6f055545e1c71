import EvidenceLedger.Proofs.Bytes.Hex
import EvidenceLedger.Proofs.Bytes.Text
import EvidenceLedger.Proofs.Text.Case
import EvidenceLedger.Text.Percent

/-!
# Any text fits into an address

A text can be written as a part of an address, whatever is in it: every byte of it as a percent sign
and two digits. Nothing in that has a meaning of its own in an address, and decoding gives the bytes
of the text back.
-/

namespace EvidenceLedger.Percent

open Bytes

/-- Every byte as a percent sign and two digits. -/
def encode (bytes : Bytes) : List Char :=
  bytes.flatMap fun b => '%' :: hexPair b

/-- The characters that are written are of ASCII, and end neither a path nor a part of it. -/
structure Plain (c : Char) : Prop where
  ascii : c.val ≤ 127
  inSegment : c ≠ '/'
  inPath : c ≠ '?' ∧ c ≠ '#'

instance (c : Char) : Decidable (Plain c) :=
  decidable_of_iff (c.val ≤ 127 ∧ c ≠ '/' ∧ c ≠ '?' ∧ c ≠ '#')
    ⟨fun h => ⟨h.1, h.2.1, h.2.2⟩, fun h => ⟨h.ascii, h.inSegment, h.inPath⟩⟩

theorem plain_of_isHexDigit {c : Char} (digit : isHexDigit c = true) : Plain c :=
  @forall_isHexDigit Plain (by decide) c digit

theorem plain_of_mem_encode {bytes : Bytes} {c : Char} (member : c ∈ encode bytes) : Plain c := by
  obtain ⟨b, _, written⟩ := List.mem_flatMap.mp member
  rcases List.mem_cons.mp written with rfl | digit
  · decide
  · have inHex : c ∈ toHexChars [b] := by simpa using digit
    exact plain_of_isHexDigit (isHexDigit_of_mem_toHexChars inHex)

theorem encode_eq_nil_iff {bytes : Bytes} : encode bytes = [] ↔ bytes = [] := by
  cases bytes with
  | nil => exact iff_of_true rfl rfl
  | cons b bytes => exact iff_of_false (List.cons_ne_nil '%' _) (List.cons_ne_nil b bytes)

/-- A digit that is sent as a byte has the value that it has. -/
theorem hexValue?_byte {n : Nat} (small : n < 16) :
    hexValue? (Char.ofUInt8 (hexDigit n).toUInt8) = some n := by
  revert n
  decide

theorem decode_map_encode (bytes : Bytes) :
    decode ((encode bytes).map Char.toUInt8) = bytes := by
  induction bytes with
  | nil => rfl
  | cons b bytes ih =>
    have low : b.toNat < 256 := UInt8.toNat_lt b
    have whole : UInt8.ofNat (16 * (b.toNat / 16) + b.toNat % 16) = b := by
      rw [Nat.div_add_mod, UInt8.ofNat_toNat]
    have high := hexValue?_byte (show b.toNat / 16 < 16 by omega)
    have low := hexValue?_byte (show b.toNat % 16 < 16 by omega)
    rw [encode, List.flatMap_cons, ← encode, hexPair]
    simp only [List.cons_append, List.nil_append, List.map_cons, decode, if_true, high, low, whole,
      ih]

/-- A text is read as it was from its written form. -/
theorem toString?_decode_encode (s : String) :
    Bytes.toString? (decode (Bytes.ofString (String.ofList (encode (Bytes.ofString s))))) =
      some s := by
  have ascii : ∀ c ∈ encode (Bytes.ofString s), c.val ≤ 127 :=
    fun c member => (plain_of_mem_encode member).ascii
  rw [Bytes.ofString_ofList_of_ascii ascii, decode_map_encode, Bytes.toString?_ofString]

end EvidenceLedger.Percent
