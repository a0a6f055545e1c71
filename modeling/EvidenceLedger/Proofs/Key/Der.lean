import EvidenceLedger.Key.Der
import Mathlib.Algebra.Ring.Nat

/-!
# Elements are read where they are written

Writing an element and reading one are inverse, and what follows the element does not matter. That
reading is strict carries the way back: a length is compared with its own shortest form, so no
element has a second one.

Lengths are written up to four bytes. A longer element cannot be read back, and an element whose tag
is not known cannot either; all others are `Writable`.
-/

namespace EvidenceLedger

namespace Bytes

theorem bigEndian_reverse (bytes : Bytes) : bigEndian bytes.reverse = littleEndian bytes := by
  rw [bigEndian, List.foldl_reverse, littleEndian]
  congr 1
  funext b n
  exact Nat.add_comm _ _

theorem littleEndian_lt (bytes : Bytes) : littleEndian bytes < 256 ^ bytes.length := by
  induction bytes with
  | nil => decide
  | cons b bytes ih =>
    have low : b.toNat < 256 := b.toNat_lt
    rw [littleEndian_cons, List.length_cons, Nat.pow_succ]
    omega

theorem bigEndian_lt (bytes : Bytes) : bigEndian bytes < 256 ^ bytes.length := by
  have bound := littleEndian_lt bytes.reverse
  rwa [← bigEndian_reverse, List.reverse_reverse, List.length_reverse] at bound

theorem littleEndian_ofLittleEndian {width n : Nat} (fits : n < 256 ^ width) :
    littleEndian (ofLittleEndian width n) = n := by
  induction width generalizing n with
  | zero =>
    obtain rfl : n = 0 := Nat.lt_one_iff.mp fits
    rfl
  | succ width ih =>
    rw [Nat.pow_succ, Nat.mul_comm] at fits
    have low : (UInt8.ofNat (n % 256)).toNat = n % 256 :=
      UInt8.toNat_ofNat_of_lt' (Nat.mod_lt n (by decide))
    rw [ofLittleEndian, littleEndian_cons, ih (Nat.div_lt_of_lt_mul fits), low]
    exact Nat.mod_add_div n 256

theorem bigEndian_ofBigEndian {width n : Nat} (fits : n < 256 ^ width) :
    bigEndian (ofBigEndian width n) = n := by
  rw [ofBigEndian, bigEndian_reverse, littleEndian_ofLittleEndian fits]

end Bytes

namespace Der

theorem minimalBytes_spec {n : Nat} (fits : n < 2 ^ 32) :
    Bytes.bigEndian (minimalBytes n) = n ∧ (minimalBytes n).length ≤ 4 := by
  unfold minimalBytes
  split
  · next small =>
    have byte : (UInt8.ofNat n).toNat = n := UInt8.toNat_ofNat_of_lt' small
    refine ⟨?_, by simp⟩
    simpa [Bytes.bigEndian] using byte
  · split
    · next small => exact ⟨Bytes.bigEndian_ofBigEndian small, by simp⟩
    · split
      · next small => exact ⟨Bytes.bigEndian_ofBigEndian small, by simp⟩
      · exact ⟨Bytes.bigEndian_ofBigEndian fits, by simp⟩

theorem readLength?_lengthBytes {n : Nat} (fits : n < 2 ^ 32) (rest : Bytes) :
    readLength? (lengthBytes n ++ rest) = some (n, rest) := by
  unfold lengthBytes
  split
  · next short =>
    have byte : (UInt8.ofNat n).toNat = n :=
      UInt8.toNat_ofNat_of_lt' (Nat.lt_trans short (by decide))
    have below : UInt8.ofNat n < 0x80 := by
      rw [UInt8.lt_iff_toNat_lt, byte]
      exact short
    simp only [List.cons_append, List.nil_append, readLength?, if_pos below, byte]
  · next long =>
    obtain ⟨value, count⟩ := minimalBytes_spec fits
    have first : (UInt8.ofNat (0x80 + (minimalBytes n).length)).toNat =
        0x80 + (minimalBytes n).length := UInt8.toNat_ofNat_of_lt' (show _ < 256 by omega)
    have above : ¬UInt8.ofNat (0x80 + (minimalBytes n).length) < 0x80 := by
      rw [UInt8.lt_iff_toNat_lt, first, Nat.not_lt]
      exact Nat.le_add_right _ _
    have written : lengthBytes n =
        UInt8.ofNat (0x80 + (minimalBytes n).length) :: minimalBytes n := if_neg long
    simp only [List.cons_append, readLength?, if_neg above, first, Nat.add_sub_cancel_left,
      List.take_left, List.drop_left, value, written]
    simp [count]

/-- What is read as a length is its shortest form. -/
theorem eq_of_readLength? {bytes rest : Bytes} {n : Nat}
    (read : readLength? bytes = some (n, rest)) :
    n < 2 ^ 32 ∧ bytes = lengthBytes n ++ rest := by
  cases bytes with
  | nil => cases read
  | cons first tail =>
    simp only [readLength?, Bool.and_eq_true, decide_eq_true_eq, beq_iff_eq] at read
    split at read
    · next below =>
      obtain ⟨rfl, rfl⟩ := Prod.mk.inj (Option.some.inj read)
      have small : first.toNat < 0x80 := by
        rw [UInt8.lt_iff_toNat_lt] at below
        exact below
      have written : lengthBytes first.toNat = [first] := by
        rw [lengthBytes, if_pos small, UInt8.ofNat_toNat]
      exact ⟨by omega, by rw [written]; rfl⟩
    · split at read
      · next checked =>
        obtain ⟨⟨short, length⟩, written⟩ := checked
        obtain ⟨value, after⟩ := Prod.mk.inj (Option.some.inj read)
        rw [value] at written
        constructor
        · rw [← value]
          refine Nat.lt_of_lt_of_le (Bytes.bigEndian_lt _) ?_
          rw [length]
          exact Nat.pow_le_pow_right (by decide) short
        · rw [← written, ← after, List.cons_append, List.take_append_drop]
      · exact nomatch read

/-- An element that can be written so that it is read back. -/
structure Element.Writable (e : Element) : Prop where
  tag : isTag e.tag = true
  fits : e.content.length < 2 ^ 32

/-- An element is read exactly where it is written. -/
theorem read?_eq_some_iff {bytes rest : Bytes} {e : Element} :
    read? bytes = some (e, rest) ↔ e.Writable ∧ bytes = e.toBytes ++ rest := by
  constructor
  · intro read
    cases bytes with
    | nil => cases read
    | cons tag tail =>
      simp only [read?] at read
      split at read
      · next known =>
        split at read
        · cases read
        · next n after length =>
          obtain ⟨fits, rfl⟩ := eq_of_readLength? length
          split at read
          · next inside =>
            obtain ⟨rfl, rfl⟩ := Prod.mk.inj (Option.some.inj read)
            have count : (after.take n).length = n := List.length_take_of_le inside
            refine ⟨⟨known, by rwa [count]⟩, ?_⟩
            simp only [Element.toBytes, count, List.cons_append, List.append_assoc,
              List.take_append_drop]
          · cases read
      · cases read
  · rintro ⟨writable, rfl⟩
    have length := readLength?_lengthBytes writable.fits (e.content ++ rest)
    simp only [Element.toBytes, List.cons_append, List.append_assoc, read?, writable.tag, length]
    simp

/-- Contents are found behind a tag exactly where the element of both is written. -/
theorem expect?_eq_some_iff {tag : UInt8} {bytes content rest : Bytes} :
    expect? tag bytes = some (content, rest) ↔
      (Element.mk tag content).Writable ∧ bytes = (Element.mk tag content).toBytes ++ rest := by
  rw [← read?_eq_some_iff, expect?]
  cases read? bytes with
  | none => simp
  | some found =>
    obtain ⟨⟨other, inside⟩, after⟩ := found
    simp only [Option.ite_none_right_eq_some, Option.some.injEq, Prod.mk.injEq, Element.mk.injEq]
    exact and_assoc.symm

theorem readAll?_eq_some_iff {tag : UInt8} {bytes content : Bytes} :
    readAll? tag bytes = some content ↔
      (Element.mk tag content).Writable ∧ bytes = (Element.mk tag content).toBytes := by
  have whole := @expect?_eq_some_iff tag bytes content []
  rw [List.append_nil] at whole
  rw [← whole, readAll?]
  split
  · next inside found =>
    rw [found]
    simp
  · next other =>
    simp only [reduceCtorEq, false_iff]
    exact other content

/-! The tags of key files are known, and the elements behind them have fewer than 128 bytes. -/

theorem isTag_integerTag : isTag integerTag = true := by decide

theorem isTag_bitStringTag : isTag bitStringTag = true := by decide

theorem isTag_octetStringTag : isTag octetStringTag = true := by decide

theorem isTag_identifierTag : isTag identifierTag = true := by decide

theorem isTag_sequenceTag : isTag sequenceTag = true := by decide

theorem Element.Writable.of_short {e : Element} (known : isTag e.tag = true)
    (short : e.content.length < 0x80) : e.Writable :=
  ⟨known, Nat.lt_trans short (by decide)⟩

theorem length_toBytes_of_short {e : Element} (short : e.content.length < 0x80) :
    e.toBytes.length = e.content.length + 2 := by
  rw [Element.toBytes, lengthBytes, if_pos short]
  rfl

end Der

end EvidenceLedger
