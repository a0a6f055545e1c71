import EvidenceLedger.Json.Escape
import EvidenceLedger.Json.Value
import EvidenceLedger.Proofs.Bytes.Hex
import EvidenceLedger.Proofs.Bytes.Text

/-!
# Reading texts back

What is written between quotes is read as the text that was written, whatever characters it
holds. Writing escapes bytes one by one, so the argument is about one byte and then about rows
of them: the escape of a byte is scanned as one piece, and the piece gives the byte again. A
numbered escape is only written for a control character, which is no half of a pair.
-/

namespace EvidenceLedger.Json

/-- Is the byte written as a numbered escape? -/
def isNumbered (b : UInt8) : Bool :=
  b < 0x20 && b != 0x08 && b != 0x09 && b != 0x0A && b != 0x0C && b != 0x0D

/-- The piece that the escape of a byte is scanned as. -/
def pieceOf (b : UInt8) : Piece :=
  if isNumbered b then .unit b.toNat else .byte b

theorem hexValue?_hexDigit_toUInt8 {n : Nat} (h : n < 16) :
    Bytes.hexValue? (Char.ofUInt8 (Bytes.hexDigit n).toUInt8) = some n := by
  revert n
  decide

theorem hexUnit?_hexPair (b : UInt8) :
    hexUnit? '0'.toUInt8 '0'.toUInt8 (Bytes.hexDigit (b.toNat / 16)).toUInt8
      (Bytes.hexDigit (b.toNat % 16)).toUInt8 = some b.toNat := by
  have size : b.toNat < 256 := UInt8.toNat_lt b
  have zero : Bytes.hexValue? (Char.ofUInt8 '0'.toUInt8) = some 0 := by decide
  simp only [hexUnit?, zero, hexValue?_hexDigit_toUInt8 (show b.toNat / 16 < 16 by omega),
    hexValue?_hexDigit_toUInt8 (show b.toNat % 16 < 16 by omega), Option.bind_eq_bind,
    Option.bind_some, Option.some.injEq]
  omega

theorem scanPieces_plain {b : UInt8} (notQuote : b ≠ '"'.toUInt8) (notControl : ¬ b < 0x20)
    (notBackslash : b ≠ '\\'.toUInt8) (rest : Bytes) :
    scanPieces (b :: rest) = (.byte b :: (scanPieces rest).1, (scanPieces rest).2) := by
  rw [scanPieces.eq_def]
  simp only [notQuote, notControl, notBackslash, if_false]

theorem scanPieces_short {e b : UInt8} (short : shortEscape? e = some b) (notUnit : e ≠ 'u'.toUInt8)
    (rest : Bytes) :
    scanPieces ('\\'.toUInt8 :: e :: rest) =
      (.byte b :: (scanPieces rest).1, (scanPieces rest).2) := by
  rw [scanPieces.eq_def]
  simp only [short, notUnit, if_false]
  rfl

theorem scanPieces_unit {a b c d : UInt8} {n : Nat} (unit : hexUnit? a b c d = some n)
    (rest : Bytes) :
    scanPieces ('\\'.toUInt8 :: 'u'.toUInt8 :: a :: b :: c :: d :: rest) =
      (.unit n :: (scanPieces rest).1, (scanPieces rest).2) := by
  rw [scanPieces.eq_def]
  simp only [unit]
  rfl

/-- The escape of a byte is scanned as its piece. -/
theorem scanPieces_escapeByte (b : UInt8) (rest : Bytes) :
    scanPieces (escapeByte b ++ rest) =
      (pieceOf b :: (scanPieces rest).1, (scanPieces rest).2) := by
  unfold escapeByte
  iterate 7
    split
    · subst b
      exact scanPieces_short rfl (by decide) rest
  split
  · next control =>
    have numbered : isNumbered b = true := by
      simp [isNumbered, *]
    rw [pieceOf, if_pos numbered]
    exact scanPieces_unit (hexUnit?_hexPair b) rest
  · next plain =>
    have notNumbered : isNumbered b = false := by
      simp [isNumbered, plain]
    rw [pieceOf, if_neg (by simp [notNumbered])]
    exact scanPieces_plain ‹_› plain ‹_› rest

/-- What is between the quotes is scanned up to the closing quote. -/
theorem scanPieces_escaped (bytes rest : Bytes) :
    scanPieces (bytes.flatMap escapeByte ++ '"'.toUInt8 :: rest) =
      (bytes.map pieceOf, .ok rest) := by
  induction bytes with
  | nil =>
    rw [List.flatMap_nil, List.nil_append, scanPieces.eq_def]
    exact if_pos rfl
  | cons b bytes ih =>
    rw [List.flatMap_cons, List.append_assoc, scanPieces_escapeByte, ih]
    rfl

theorem utf8EncodeChar_ofNat {n : Nat} (control : n < 0x20) :
    String.utf8EncodeChar (Char.ofNat n) = [UInt8.ofNat n] := by
  revert n
  decide

theorem assemble_pieceOf (atEnd : Fault) (b : UInt8) (pieces : List Piece) :
    assemble atEnd (pieceOf b :: pieces) = (b :: ·) <$> assemble atEnd pieces := by
  by_cases numbered : isNumbered b = true
  · have control : b.toNat < 0x20 := by
      simp only [isNumbered, Bool.and_eq_true, decide_eq_true_eq] at numbered
      obtain ⟨⟨⟨⟨⟨control, _⟩, _⟩, _⟩, _⟩, _⟩ := numbered
      exact UInt8.lt_iff_toNat_lt.mp control
    have notLow : isLowHalf b.toNat = false := by
      simp [isLowHalf]
      omega
    have notHigh : isHighHalf b.toNat = false := by
      simp [isHighHalf]
      omega
    rw [pieceOf, if_pos numbered]
    rw [assemble.eq_def]
    simp only [notLow, notHigh, utf8EncodeChar_ofNat control, UInt8.ofNat_toNat]
    rfl
  · rw [pieceOf, if_neg numbered]
    rfl

/-- The pieces of a row of bytes make these bytes. -/
theorem assemble_map_pieceOf (atEnd : Fault) (bytes : Bytes) :
    assemble atEnd (bytes.map pieceOf) = .ok bytes := by
  induction bytes with
  | nil => rfl
  | cons b bytes ih =>
    rw [List.map_cons, assemble_pieceOf, ih]
    rfl

/-- A written text is read as that text, up to its closing quote. -/
theorem scanText_escaped (s : String) (rest : Bytes) :
    scanText ((Bytes.ofString s).flatMap escapeByte ++ '"'.toUInt8 :: rest) = (.ok s, rest) := by
  rw [scanText, scanPieces_escaped]
  simp only [assemble_map_pieceOf, Bytes.toString?_ofString]

end EvidenceLedger.Json
