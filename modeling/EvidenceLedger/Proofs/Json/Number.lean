import EvidenceLedger.Json.Scan
import EvidenceLedger.Json.Tree
import EvidenceLedger.Proofs.Text.Numeral

/-!
# Reading whole numbers back

A whole number is written with its digits and, if it is negative, a sign in front. The numeral
is scanned up to its end and gives the number, if the number has 64 bits. What follows must not
go on with the numeral, which no comma and no closing bracket does.
-/

namespace EvidenceLedger

namespace Text

/-- A numeral for a number other than zero does not begin with a zero. -/
theorem head?_toDigits {n : Nat} (positive : 0 < n) : (Nat.toDigits 10 n).head? ≠ some '0' := by
  induction n using Nat.strongRecOn with
  | ind n ih =>
    by_cases small : n < 10
    · have notZero : ∀ n < 10, 0 < n → [n.digitChar].head? ≠ some '0' := by decide
      rw [Nat.toDigits_of_lt_base small]
      exact notZero n small positive
    · have shorter := ih (n / 10) (by omega) (by omega)
      obtain ⟨digit, digits, isCons⟩ := List.exists_cons_of_ne_nil
        (@Nat.toDigits_ne_nil (n / 10) 10)
      rw [Nat.toDigits_of_base_le (by decide) (by omega), isCons, List.cons_append]
      rw [isCons] at shorter
      exact shorter

end Text

namespace Json

def digitBytes (n : Nat) : Bytes :=
  (Nat.toDigits 10 n).map Char.toUInt8

theorem toNat_toUInt8_of_isDigit {c : Char} (h : c.isDigit) : c.toUInt8.toNat = c.toNat := by
  obtain ⟨_, high⟩ := Char.isDigit_iff_toNat.mp h
  have small : c.toNat < 256 := Nat.lt_of_le_of_lt high (by decide)
  have low : c.toUInt8.toNat = c.toNat % 256 := UInt32.toNat_toUInt8 c.val
  rw [low, Nat.mod_eq_of_lt small]

theorem isDigit_toUInt8 {c : Char} (h : c.isDigit) : isDigit c.toUInt8 = true := by
  obtain ⟨low, high⟩ := Char.isDigit_iff_toNat.mp h
  have same := toNat_toUInt8_of_isDigit h
  simp only [isDigit, Bool.and_eq_true, decide_eq_true_eq, UInt8.le_iff_toNat_le, same]
  exact ⟨low, high⟩

theorem isDigit_of_mem_digitBytes {n : Nat} {b : UInt8} (h : b ∈ digitBytes n) :
    isDigit b = true := by
  obtain ⟨c, member, rfl⟩ := List.mem_map.mp h
  exact isDigit_toUInt8 (Text.isDigit_of_mem_toDigits member)

theorem digitsValue_map_toUInt8 {cs : List Char} (digits : ∀ c ∈ cs, c.isDigit) (start : Nat) :
    (cs.map Char.toUInt8).foldl (fun n b => 10 * n + digitValue b) start =
      cs.foldl (fun n c => 10 * n + Text.digitValue c) start := by
  induction cs generalizing start with
  | nil => rfl
  | cons c cs ih =>
    have value : digitValue c.toUInt8 = Text.digitValue c := by
      rw [digitValue, toNat_toUInt8_of_isDigit (digits c List.mem_cons_self)]
      rfl
    rw [List.map_cons, List.foldl_cons, List.foldl_cons, value]
    exact ih (fun d member => digits d (List.mem_cons_of_mem c member)) _

theorem digitsValue_digitBytes (n : Nat) : digitsValue (digitBytes n) = n := by
  have value : digitsValue (digitBytes n) = Text.digitsValue (Nat.toDigits 10 n) :=
    digitsValue_map_toUInt8 (fun _ member => Text.isDigit_of_mem_toDigits member) 0
  rw [value, Text.digitsValue_toDigits]

theorem digitBytes_ne_nil (n : Nat) : digitBytes n ≠ [] := by
  simp [digitBytes, Nat.toDigits_ne_nil]

/-- A numeral of more than one digit does not begin with a zero. -/
theorem ne_zero_of_digitBytes_eq {n : Nat} {first second : UInt8} {more : Bytes}
    (isCons : digitBytes n = first :: second :: more) : first ≠ '0'.toUInt8 := by
  obtain ⟨c, cs, chars, rfl, rest⟩ := List.map_eq_cons_iff.mp isCons
  have positive : 0 < n := by
    rcases Nat.eq_zero_or_pos n with rfl | positive
    · simp [digitBytes] at isCons
    · exact positive
  have isDigit : c.isDigit := Text.isDigit_of_mem_toDigits (chars ▸ List.mem_cons_self)
  intro zero
  have same : c.toNat = '0'.toNat := by
    rw [← toNat_toUInt8_of_isDigit isDigit, zero]
    rfl
  have notZero := Text.head?_toDigits positive
  rw [chars] at notZero
  exact notZero (congrArg some (Char.toNat_inj.mp same))

/-- What follows does not go on with a numeral. -/
def EndsNumeral (rest : Bytes) : Prop :=
  ∀ b, rest.head? = some b →
    isDigit b = false ∧ b ≠ '.'.toUInt8 ∧ b ≠ 'e'.toUInt8 ∧ b ≠ 'E'.toUInt8

theorem EndsNumeral.nil : EndsNumeral [] := by
  intro b none
  simp at none

theorem EndsNumeral.cons {b : UInt8} (rest : Bytes)
    (h : isDigit b = false ∧ b ≠ '.'.toUInt8 ∧ b ≠ 'e'.toUInt8 ∧ b ≠ 'E'.toUInt8) :
    EndsNumeral (b :: rest) := by
  intro c first
  obtain rfl := Option.some.inj first
  exact h

namespace Numeral

theorem scanDigits_append {digits rest : Bytes} (some : digits ≠ [])
    (areDigits : ∀ b ∈ digits, isDigit b = true) (ends : EndsNumeral rest) :
    scanDigits (digits ++ rest) = .ok (digits, rest) := by
  have stops : rest.takeWhile isDigit = [] ∧ rest.dropWhile isDigit = rest := by
    cases rest with
    | nil => exact ⟨rfl, rfl⟩
    | cons b rest => simp [(ends b rfl).1]
  have taken : (digits ++ rest).takeWhile isDigit = digits := by
    rw [List.takeWhile_append_of_pos areDigits, stops.1, List.append_nil]
  have left : (digits ++ rest).dropWhile isDigit = rest := by
    rw [List.dropWhile_append_of_pos areDigits, stops.2]
  obtain ⟨digit, digits, rfl⟩ := List.exists_cons_of_ne_nil some
  simp only [scanDigits, taken, left]

theorem scanWhole_digitBytes (n : Nat) {rest : Bytes} (ends : EndsNumeral rest) :
    scanWhole (digitBytes n ++ rest) = .ok (digitBytes n, rest) := by
  have scanned := scanDigits_append (digitBytes_ne_nil n)
    (fun _ member => isDigit_of_mem_digitBytes member) ends
  simp only [scanWhole, scanned, bind, Except.bind]
  split
  · next first second more isCons =>
    rw [if_neg (ne_zero_of_digitBytes_eq isCons)]
  · rfl

theorem scanFraction_of_ends {rest : Bytes} (ends : EndsNumeral rest) :
    scanFraction rest = .ok (none, rest) := by
  cases rest with
  | nil => rfl
  | cons b rest =>
    obtain ⟨_, notPoint, _⟩ := ends b rfl
    exact if_neg notPoint

theorem scanExponent_of_ends {rest : Bytes} (ends : EndsNumeral rest) :
    scanExponent rest = .ok (none, rest) := by
  cases rest with
  | nil => rfl
  | cons b rest =>
    obtain ⟨_, _, notMark, notCapital⟩ := ends b rfl
    exact if_neg (by simp [notMark, notCapital])

/-- The sign and the digits of a number are scanned up to their end. -/
theorem scan_of_sign {bytes rest : Bytes} {negative : Bool} (n : Nat) (ends : EndsNumeral rest)
    (sign : scanSign bytes = (negative, digitBytes n ++ rest)) :
    scan bytes = .ok (⟨negative, digitBytes n, none, none⟩, rest) := by
  simp only [scan, sign, scanWhole_digitBytes n ends, scanFraction_of_ends ends,
    scanExponent_of_ends ends, bind, Except.bind, pure, Except.pure]

theorem scanSign_minus (bytes : Bytes) : scanSign ('-'.toUInt8 :: bytes) = (true, bytes) := by
  rw [scanSign, if_pos rfl]

theorem scanSign_digitBytes (n : Nat) (rest : Bytes) :
    scanSign (digitBytes n ++ rest) = (false, digitBytes n ++ rest) := by
  obtain ⟨first, more, isCons⟩ := List.exists_cons_of_ne_nil (digitBytes_ne_nil n)
  have digit : isDigit first = true :=
    isDigit_of_mem_digitBytes (n := n) (isCons ▸ List.mem_cons_self)
  have notMinus : first ≠ '-'.toUInt8 := by
    rintro rfl
    exact absurd digit (by decide)
  rw [isCons, List.cons_append]
  exact if_neg notMinus

theorem toInt?_of_fits {n : Int} (fits : fitsWord n = true) :
    toInt? ⟨n < 0, digitBytes n.natAbs, none, none⟩ = some n := by
  simp only [toInt?, digitsValue_digitBytes]
  by_cases negative : n < 0
  · have value : -(n.natAbs : Int) = n := by omega
    have notZero : (n.natAbs != 0) = true := bne_iff_ne.mpr (by omega)
    simp only [decide_eq_true_eq, if_pos negative, value, notZero, fits, Bool.and_self, if_true]
  · have value : (n.natAbs : Int) = n := by omega
    simp only [decide_eq_true_eq, if_neg negative, value, if_pos fits]

end Numeral

/-- A whole number of 64 bits is read as that number. -/
theorem scanNumber_decimal {n : Int} (fits : fitsWord n = true) {rest : Bytes}
    (ends : EndsNumeral rest) : scanNumber (decimal n ++ rest) = (.int n, rest) := by
  have scanned : Numeral.scan (decimal n ++ rest) =
      .ok (⟨n < 0, digitBytes n.natAbs, none, none⟩, rest) := by
    by_cases negative : n < 0
    · have written : decimal n = '-'.toUInt8 :: digitBytes n.natAbs := if_pos negative
      rw [written, List.cons_append, decide_eq_true negative]
      exact Numeral.scan_of_sign n.natAbs ends (Numeral.scanSign_minus _)
    · have written : decimal n = digitBytes n.natAbs := if_neg negative
      rw [written, decide_eq_false negative]
      exact Numeral.scan_of_sign n.natAbs ends (Numeral.scanSign_digitBytes n.natAbs rest)
  simp only [scanNumber, scanned, Numeral.toSource, Numeral.toInt?_of_fits fits]

end Json

end EvidenceLedger
