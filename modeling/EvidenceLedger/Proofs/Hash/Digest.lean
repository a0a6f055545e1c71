import EvidenceLedger.Proofs.Bytes.Hex
import EvidenceLedger.Proofs.Text.Case

/-!
# The two forms of a digest

A block is sealed with the written form of a digest, and checked with the bytes that are read from
it. Both are forms of one thing. What is written of a message's digest is read as that digest, and
it is read from any other text only if that text has the same digits, in whatever case.

A text is read exactly if it consists of 64 digits. That its bytes are counted, and not its
characters, makes no difference, since a character of several bytes is no digit.
-/

namespace EvidenceLedger

namespace Bytes

/-- A digit has a value, and the value is written as that digit in lower case. -/
theorem exists_hexValue? {c : Char} (digit : isHexDigit c = true) :
    ∃ n < 16, hexValue? c = some n ∧ hexDigit n = c.toLower :=
  @forall_isHexDigit (fun c => ∃ n < 16, hexValue? c = some n ∧ hexDigit n = c.toLower)
    (by decide) c digit

theorem hexPair_ofNat {high low : Nat} (h : high < 16) (l : low < 16) :
    hexPair (UInt8.ofNat (16 * high + low)) = [hexDigit high, hexDigit low] := by
  have byte : (UInt8.ofNat (16 * high + low)).toNat = 16 * high + low :=
    UInt8.toNat_ofNat_of_lt' (show _ < 256 by omega)
  have first : (16 * high + low) / 16 = high := by omega
  have second : (16 * high + low) % 16 = low := by omega
  rw [hexPair, byte, first, second]

/-- Digits in pairs are read as one byte a pair, and the bytes are written with the same digits. -/
theorem exists_ofHexChars? {count : Nat} {cs : List Char} (length : cs.length = 2 * count)
    (digits : ∀ c ∈ cs, isHexDigit c = true) :
    ∃ bytes, ofHexChars? cs = some bytes ∧ bytes.length = count ∧
      toHexChars bytes = cs.map Char.toLower := by
  induction count generalizing cs with
  | zero =>
    obtain rfl := List.length_eq_zero_iff.mp length
    exact ⟨[], rfl, rfl, rfl⟩
  | succ count ih =>
    match cs, length with
    | high :: low :: rest, length =>
      obtain ⟨h, smallH, valueH, writtenH⟩ := exists_hexValue? (digits high List.mem_cons_self)
      obtain ⟨l, smallL, valueL, writtenL⟩ :=
        exists_hexValue? (digits low (List.mem_cons_of_mem high List.mem_cons_self))
      have others : rest.length = 2 * count := by
        simp only [List.length_cons] at length
        omega
      obtain ⟨bytes, read, size, written⟩ := ih others fun c member =>
        digits c (List.mem_cons_of_mem high (List.mem_cons_of_mem low member))
      refine ⟨UInt8.ofNat (16 * h + l) :: bytes, ?_, ?_, ?_⟩
      · simp only [ofHexChars?, valueH, valueL, read]
      · rw [List.length_cons, size]
      · rw [toHexChars_cons, hexPair_ofNat smallH smallL, writtenH, writtenL, written]
        rfl

end Bytes

namespace Digest

/-- A text of 64 digits is read as a digest that is written with these digits. -/
theorem exists_ofText? {s : String} (isDigest : isText s = true) :
    ∃ digest, ofText? s = some digest ∧
      toText digest = String.ofList (s.toList.map Char.toLower) := by
  obtain ⟨length, digits⟩ := isText_eq_true_iff.mp isDigest
  obtain ⟨bytes, read, size, written⟩ := @Bytes.exists_ofHexChars? 32 s.toList length digits
  refine ⟨⟨bytes, size⟩, ?_, ?_⟩
  · rw [ofText?, if_pos isDigest, Bytes.ofHex?, read]
    exact Octets.ofBytes?_bytes ⟨bytes, size⟩
  · rw [toText, Bytes.toHex, written]

theorem isText_of_ofText? {s : String} {digest : Octets 32} (read : ofText? s = some digest) :
    isText s = true := by
  apply Decidable.byContradiction
  intro noDigest
  rw [ofText?, if_neg noDigest] at read
  cases read

theorem isSome_ofText?_iff {s : String} :
    (ofText? s).isSome = true ↔
      s.toList.length = 64 ∧ ∀ c ∈ s.toList, Bytes.isHexDigit c = true := by
  rw [← isText_eq_true_iff]
  constructor
  · intro some
    obtain ⟨digest, read⟩ := Option.isSome_iff_exists.mp some
    exact isText_of_ofText? read
  · intro isDigest
    obtain ⟨digest, read, _⟩ := exists_ofText? isDigest
    exact Option.isSome_iff_exists.mpr ⟨digest, read⟩

theorem toText_of_ofText? {s : String} {digest : Octets 32} (read : ofText? s = some digest) :
    toText digest = String.ofList (s.toList.map Char.toLower) := by
  obtain ⟨other, same, written⟩ := exists_ofText? (isText_of_ofText? read)
  obtain rfl := Option.some.inj (read.symm.trans same)
  exact written

/-- The written digest of a message is read as its digest, and is what that is written as. Read are
the texts of exactly 64 digits and no others, as the digest that is written with the same digits in
lower case; and every digest is read from its own text. -/
theorem forms_agree :
    (∀ message : Bytes, ofText? (textOf message) = some (Sha256.hash message) ∧
      toText (Sha256.hash message) = textOf message) ∧
    (∀ s : String,
      ((ofText? s).isSome = true ↔
        s.toList.length = 64 ∧ ∀ c ∈ s.toList, Bytes.isHexDigit c = true) ∧
      ∀ digest, ofText? s = some digest →
        toText digest = String.ofList (s.toList.map Char.toLower)) ∧
    ∀ digest : Octets 32, ofText? (toText digest) = some digest := by
  refine ⟨fun message => ⟨?_, rfl⟩, fun s => ⟨isSome_ofText?_iff, ?_⟩, ofText?_toText⟩
  · exact ofText?_toText (Sha256.hash message)
  · intro digest read
    exact toText_of_ofText? read

/-- A digest in digits of both cases. -/
def mixedText : String :=
  "0123456789abcdefABCDEF0123456789aBcDeFfEdCbA9876543210ffFFfFFfa0"

/-- The digest that `mixedText` writes. -/
def mixedDigest : Octets 32 :=
  ⟨[0x01, 0x23, 0x45, 0x67, 0x89, 0xab, 0xcd, 0xef, 0xab, 0xcd, 0xef, 0x01, 0x23, 0x45, 0x67, 0x89,
    0xab, 0xcd, 0xef, 0xfe, 0xdc, 0xba, 0x98, 0x76, 0x54, 0x32, 0x10, 0xff, 0xff, 0xff, 0xff, 0xa0],
    rfl⟩

theorem forms_agree_of_mixed :
    ofText? mixedText = some mixedDigest ∧
      toText mixedDigest =
        "0123456789abcdefabcdef0123456789abcdeffedcba9876543210ffffffffa0" := by
  have read : ofText? mixedText = some mixedDigest := by decide +kernel
  have written := (forms_agree.2.1 mixedText).2 mixedDigest read
  exact ⟨read, written.trans (by decide +kernel)⟩

-- These are 64 bytes too, but of 32 characters.
example : ofText? (String.ofList (List.replicate 32 'é')) = none := by decide +kernel

end Digest

end EvidenceLedger
