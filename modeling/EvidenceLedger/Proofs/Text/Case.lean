import EvidenceLedger.Proofs.Bytes.Hex
import EvidenceLedger.Proofs.Text.LowerCase

/-!
# The case of hexadecimal digits

Putting a text into lower case may change how long it is, and it may depend on what stands next to
a character. Nothing of that happens to hexadecimal digits. Each of them has one counterpart, the
one that ASCII knows, which is a digit again and not a capital letter; and a digit that is no
capital letter stays as it is.
-/

namespace EvidenceLedger

namespace Bytes

/-- Is `c` a hexadecimal digit that is no capital letter? -/
def isLowerHexDigit (c : Char) : Bool :=
  ('0' ≤ c && c ≤ '9') || ('a' ≤ c && c ≤ 'f')

theorem isHexDigit_of_isLowerHexDigit {c : Char} (lower : isLowerHexDigit c = true) :
    isHexDigit c = true := by
  rw [isHexDigit, ← isLowerHexDigit, lower, Bool.true_or]

/-- What is true of the hexadecimal digits below the letter g is true of all of them. -/
theorem forall_isHexDigit {P : Char → Prop}
    (table : ∀ n < 'g'.toNat, isHexDigit (Char.ofNat n) = true → P (Char.ofNat n)) {c : Char}
    (digit : isHexDigit c = true) : P c := by
  have whole := table c.toNat (toNat_lt_of_isHexDigit digit)
  rw [Char.ofNat_toNat] at whole
  exact whole digit

end Bytes

namespace Text

open Bytes

theorem isSpace_of_isHexDigit {c : Char} (digit : isHexDigit c = true) : isSpace c = false :=
  @forall_isHexDigit (fun c => isSpace c = false) (by decide) c digit

/-- The counterpart of a digit is the one of the ASCII letters, or the digit itself. -/
theorem lowerOf_of_isHexDigit {c : Char} (digit : isHexDigit c = true) :
    lowerOf c = [c.toLower] ∧ c ≠ 'Σ' :=
  @forall_isHexDigit (fun c => lowerOf c = [c.toLower] ∧ c ≠ 'Σ') (by decide +kernel) c digit

theorem isLowerHexDigit_toLower {c : Char} (digit : isHexDigit c = true) :
    isLowerHexDigit c.toLower = true :=
  @forall_isHexDigit (fun c => isLowerHexDigit c.toLower = true) (by decide) c digit

/-- A digit that is no capital letter is its own counterpart. -/
theorem lowerOf_of_isLowerHexDigit {c : Char} (lower : isLowerHexDigit c = true) :
    lowerOf c = [c] :=
  @forall_isHexDigit (fun c => isLowerHexDigit c = true → lowerOf c = [c]) (by decide +kernel) c
    (isHexDigit_of_isLowerHexDigit lower) lower

theorem lowerFrom_of_isHexDigit (before : List Char) {cs : List Char}
    (digits : ∀ c ∈ cs, isHexDigit c = true) : lowerFrom before cs = cs.map Char.toLower := by
  induction cs generalizing before with
  | nil => rfl
  | cons c cs ih =>
    obtain ⟨one, notSigma⟩ := lowerOf_of_isHexDigit (digits c List.mem_cons_self)
    have rest := ih (c :: before) fun d member => digits d (List.mem_cons_of_mem c member)
    rw [lowerFrom, if_neg notSigma, one, rest, List.map_cons, List.singleton_append]

/-- Hexadecimal digits are put into lower case one by one, as ASCII letters are. -/
theorem toLower_of_isHexDigit {s : String} (digits : ∀ c ∈ s.toList, isHexDigit c = true) :
    toLower s = String.ofList (s.toList.map Char.toLower) := by
  rw [toLower, lowerFrom_of_isHexDigit [] digits]

/-- Hexadecimal digits without capital letters are in lower case. -/
theorem toLower_of_isLowerHexDigit {s : String}
    (lower : ∀ c ∈ s.toList, isLowerHexDigit c = true) : toLower s = s := by
  rw [toLower, lowerFrom_of_forall [] fun c member => lowerOf_of_isLowerHexDigit (lower c member),
    String.ofList_toList]

end Text

end EvidenceLedger
