import EvidenceLedger.Text.Numeral

/-!
# Reading numerals back

A numeral holds nothing but digits, and reading it gives the number that it was written for.
Zeros in front do not change that.
-/

namespace EvidenceLedger.Text

theorem digitsValue_eq_ofDigitChars (cs : List Char) :
    digitsValue cs = Nat.ofDigitChars 10 cs 0 := by
  unfold digitsValue Nat.ofDigitChars
  rfl

@[simp] theorem digitsValue_toDigits (n : Nat) : digitsValue (Nat.toDigits 10 n) = n := by
  rw [digitsValue_eq_ofDigitChars, Nat.ofDigitChars_ten_toDigits]

@[simp] theorem digitsValue_zeros_append (count : Nat) (cs : List Char) :
    digitsValue (List.replicate count '0' ++ cs) = digitsValue cs := by
  rw [digitsValue_eq_ofDigitChars, Nat.ofDigitChars_append, Nat.ofDigitChars_replicate_zero]
  simp [digitsValue_eq_ofDigitChars]

theorem isDigit_of_mem_toDigits {n : Nat} {c : Char} (h : c ∈ Nat.toDigits 10 n) : c.isDigit :=
  Nat.isDigit_of_mem_toDigits (by decide) (by decide) h

/-- A character that is no digit does not occur in a numeral. -/
theorem notMem_decimal {n : Nat} {c : Char} (h : c.isDigit = false) : c ∉ (decimal n).toList := by
  intro member
  rw [toList_decimal] at member
  simp [isDigit_of_mem_toDigits member] at h

theorem decimal_inj {m n : Nat} : decimal m = decimal n ↔ m = n := by
  constructor
  · intro h
    have chars := congrArg String.toList h
    rw [toList_decimal, toList_decimal] at chars
    rw [← digitsValue_toDigits m, chars, digitsValue_toDigits]
  · rintro rfl
    rfl

theorem length_toDigits_le {n width : Nat} (h : n < Nat.pow 10 width) (some : 0 < width) :
    (Nat.toDigits 10 n).length ≤ width :=
  (Nat.length_toDigits_le_iff (by decide) some).mpr h

end EvidenceLedger.Text
