import EvidenceLedger.Proofs.Json.Number
import EvidenceLedger.Proofs.Json.Text

/-!
# Reading values back

The written form of a value is scanned as the tree of the value, up to its end, whatever follows
it, as long as that does not go on with a numeral. The one thing that is asked of the value is
that its numbers have 64 bits; others are read as real numbers.

The number of steps counts down with the nesting, and a step of the scan takes at least half a
byte, which is how long a written form is at least.
-/

namespace EvidenceLedger.Json

/-- All numbers in the value have 64 bits. -/
inductive Words : Json → Prop where
  | null : Words .null
  | bool (b : Bool) : Words (.bool b)
  | num {n : Int} (fits : fitsWord n = true) : Words (.num n)
  | str (s : String) : Words (.str s)
  | arr {items : List Json} (h : ∀ v ∈ items, Words v) : Words (.arr items)
  | obj {members : List (String × Json)} (h : ∀ m ∈ members, Words m.2) : Words (.obj members)

@[simp] theorem itemsToSource_eq_map (items : List Json) :
    itemsToSource items = items.map toSource := by
  induction items with
  | nil => rw [itemsToSource, List.map_nil]
  | cons v rest ih => rw [itemsToSource, ih, List.map_cons]

@[simp] theorem membersToSource_eq_map (members : List (String × Json)) :
    membersToSource members = members.map fun m => (.ok m.1, m.2.toSource) := by
  induction members with
  | nil => rw [membersToSource, List.map_nil]
  | cons m rest ih => rw [membersToSource, ih, List.map_cons]

theorem skipBlanks_cons {b : UInt8} (notBlank : isBlankByte b = false) (rest : Bytes) :
    skipBlanks (b :: rest) = b :: rest := by
  rw [skipBlanks, List.dropWhile_cons_of_neg (by simp [notBlank])]

theorem scanWord_append (word : Bytes) (value : Source) (rest : Bytes) :
    scanWord word value (word ++ rest) = (value, rest) := by
  induction word with
  | nil => rw [List.nil_append, scanWord.eq_def]
  | cons w word ih => rw [List.cons_append, scanWord, if_pos rfl, ih]

theorem exists_cons_decimal (n : Int) :
    ∃ b rest, decimal n = b :: rest ∧ (b = '-'.toUInt8 ∨ isDigit b = true) := by
  by_cases negative : n < 0
  · exact ⟨_, _, if_pos negative, .inl rfl⟩
  · obtain ⟨b, rest, isCons⟩ := List.exists_cons_of_ne_nil (digitBytes_ne_nil n.natAbs)
    have digit : isDigit b = true :=
      isDigit_of_mem_digitBytes (n := n.natAbs) (isCons ▸ List.mem_cons_self)
    exact ⟨b, rest, (if_neg negative).trans isCons, .inr digit⟩

theorem ne_of_isDigit {b c : UInt8} (digit : isDigit b = true) (other : isDigit c = false) :
    b ≠ c := by
  rintro rfl
  exact absurd (digit.symm.trans other) (by decide)

theorem isBlankByte_of_isDigit {b : UInt8} (digit : isDigit b = true) : isBlankByte b = false := by
  have ne (c : UInt8) (other : isDigit c = false) : b ≠ c := ne_of_isDigit digit other
  simp [isBlankByte, ne 0x20 (by decide), ne 0x0A (by decide), ne 0x0D (by decide),
    ne 0x09 (by decide)]

/-- A written form is not empty, and begins neither with a blank nor with a closing bracket. -/
theorem exists_cons_toBytes (v : Json) :
    ∃ b rest, v.toBytes = b :: rest ∧ isBlankByte b = false ∧ b ≠ ']'.toUInt8 := by
  cases v with
  | null => exact ⟨'n'.toUInt8, Bytes.ofString "ull", by decide, by decide, by decide⟩
  | bool b =>
    cases b with
    | true => exact ⟨'t'.toUInt8, Bytes.ofString "rue", by decide, by decide, by decide⟩
    | false => exact ⟨'f'.toUInt8, Bytes.ofString "alse", by decide, by decide, by decide⟩
  | num n =>
    obtain ⟨b, rest, isCons, sign | digit⟩ := exists_cons_decimal n
    · exact ⟨b, rest, isCons, by rw [sign]; decide, by rw [sign]; decide⟩
    · exact ⟨b, rest, isCons, isBlankByte_of_isDigit digit, ne_of_isDigit digit (by decide)⟩
  | str s => exact ⟨'"'.toUInt8, _, rfl, by decide, by decide⟩
  | arr items => exact ⟨'['.toUInt8, _, rfl, by decide, by decide⟩
  | obj members => exact ⟨'\x7b'.toUInt8, _, rfl, by decide, by decide⟩

/-- With enough steps the written form of the value is scanned as its tree. -/
def Scans (v : Json) : Prop :=
  ∀ steps rest, 2 * v.toBytes.length ≤ steps → EndsNumeral rest →
    scanValue steps (v.toBytes ++ rest) = (v.toSource, rest)

section Value

variable {steps : Nat} {rest : Bytes}

theorem quoted_append (s : String) (rest : Bytes) :
    quoted s ++ rest =
      '"'.toUInt8 :: ((Bytes.ofString s).flatMap escapeByte ++ '"'.toUInt8 :: rest) := by
  simp [quoted]

theorem scanValue_quoted (steps : Nat) (s : String) (rest : Bytes) :
    scanValue (steps + 1) (quoted s ++ rest) = (.str s, rest) := by
  rw [quoted_append, scanValue, skipBlanks_cons (by decide)]
  simp only [if_true, scanText_escaped]

theorem scanValue_number {b : UInt8} (h : b = '-'.toUInt8 ∨ isDigit b = true) :
    scanValue (steps + 1) (b :: rest) = scanNumber (b :: rest) := by
  have ne (c : UInt8) (other : isDigit c = false) (notMinus : '-'.toUInt8 ≠ c) : b ≠ c := by
    rcases h with rfl | digit
    · exact notMinus
    · exact ne_of_isDigit digit other
  have notBlank : isBlankByte b = false := by
    rcases h with rfl | digit
    · decide
    · exact isBlankByte_of_isDigit digit
  have isNumber : (b = '-'.toUInt8 || isDigit b) = true := by
    simpa using h
  rw [scanValue, skipBlanks_cons notBlank]
  simp only [ne '"'.toUInt8 (by decide) (by decide), ne '['.toUInt8 (by decide) (by decide),
    ne '\x7b'.toUInt8 (by decide) (by decide), ne 'n'.toUInt8 (by decide) (by decide),
    ne 't'.toUInt8 (by decide) (by decide), ne 'f'.toUInt8 (by decide) (by decide), isNumber,
    if_true, if_false]

end Value

/-- Everything that may follow a value in an array or in an object ends a numeral. -/
theorem EndsNumeral.separator {b : UInt8} (rest : Bytes)
    (h : b ∈ [','.toUInt8, ']'.toUInt8, '\x7d'.toUInt8]) : EndsNumeral (b :: rest) := by
  simp only [List.mem_cons, List.not_mem_nil, or_false] at h
  rcases h with rfl | rfl | rfl
  · exact .cons rest (by decide)
  · exact .cons rest (by decide)
  · exact .cons rest (by decide)

section Items

theorem exists_cons_itemsToBytes (v : Json) (items : List Json) :
    ∃ b rest, itemsToBytes (v :: items) = b :: rest ∧ isBlankByte b = false ∧
      b ≠ ']'.toUInt8 := by
  obtain ⟨b, rest, isCons, notBlank, notEnd⟩ := exists_cons_toBytes v
  cases items with
  | nil => exact ⟨b, rest, by rw [itemsToBytes, isCons], notBlank, notEnd⟩
  | cons w items =>
    exact ⟨b, _, by rw [itemsToBytes, isCons, List.cons_append], notBlank, notEnd⟩

theorem scanItems_itemsToBytes {items : List Json} (scans : ∀ v ∈ items, Scans v)
    (nonempty : items ≠ []) {steps : Nat} (enough : 2 * (itemsToBytes items).length < steps)
    (rest : Bytes) :
    scanItems steps (itemsToBytes items ++ ']'.toUInt8 :: rest) =
      (items.map toSource, none, rest) := by
  induction items generalizing steps with
  | nil => exact absurd rfl nonempty
  | cons v items ih =>
    cases steps with
    | zero => omega
    | succ steps =>
      cases items with
      | nil =>
        rw [itemsToBytes] at enough ⊢
        have item := scans v List.mem_cons_self steps (']'.toUInt8 :: rest) (by omega)
          (.separator rest (by decide))
        rw [scanItems, item]
        simp only [skipBlanks_cons (show isBlankByte ']'.toUInt8 = false by decide), if_true,
          List.map_cons, List.map_nil]
      | cons w items =>
        rw [itemsToBytes, List.length_append, List.length_cons] at enough
        rw [itemsToBytes, List.append_assoc, List.cons_append]
        have item := scans v List.mem_cons_self steps
          (','.toUInt8 :: (itemsToBytes (w :: items) ++ ']'.toUInt8 :: rest)) (by omega)
          (.separator _ (by decide))
        have scansOthers : ∀ u ∈ w :: items, Scans u :=
          fun u member => scans u (List.mem_cons_of_mem v member)
        have others := @ih scansOthers (List.cons_ne_nil w items) steps (by omega)
        obtain ⟨b, tail, isCons, notBlank, notEnd⟩ := exists_cons_itemsToBytes w items
        have goesOn : (skipBlanks (itemsToBytes (w :: items) ++ ']'.toUInt8 :: rest)).head? ≠
            some ']'.toUInt8 := by
          rw [isCons, List.cons_append, skipBlanks_cons notBlank, List.head?_cons]
          exact fun h => notEnd (Option.some.inj h)
        rw [scanItems, item]
        simp only [skipBlanks_cons (show isBlankByte ','.toUInt8 = false by decide),
          show ','.toUInt8 ≠ ']'.toUInt8 by decide, if_true, if_false, goesOn, others,
          List.map_cons]

end Items

section Members

theorem exists_cons_membersToBytes (m : String × Json) (members : List (String × Json)) :
    ∃ rest, membersToBytes (m :: members) = '"'.toUInt8 :: rest := by
  obtain ⟨key, v⟩ := m
  cases members with
  | nil => exact ⟨_, by rw [membersToBytes, quoted_append]⟩
  | cons n members => exact ⟨_, by rw [membersToBytes, List.append_assoc, quoted_append]⟩

/-- A member is scanned, and the separator after it says what comes next. -/
theorem scanMembers_member {v : Json} (scans : Scans v) (key : String) {steps : Nat}
    (enough : 2 * v.toBytes.length ≤ steps) {b : UInt8}
    (separator : b = ','.toUInt8 ∨ b = '\x7d'.toUInt8) (rest : Bytes) :
    scanMembers (steps + 1) (quoted key ++ ':'.toUInt8 :: (v.toBytes ++ b :: rest)) =
      if b = '\x7d'.toUInt8 then ([(.ok key, v.toSource)], none, rest)
      else
        ((.ok key, v.toSource) :: (scanMembers steps rest).1, (scanMembers steps rest).2) := by
  have value : scanValue steps (v.toBytes ++ b :: rest) = (v.toSource, b :: rest) := by
    refine scans steps (b :: rest) enough (.separator rest ?_)
    rcases separator with rfl | rfl
    · decide
    · decide
  have colon : isBlankByte ':'.toUInt8 = false := by decide
  have notBlank : isBlankByte b = false := by
    rcases separator with rfl | rfl
    · decide
    · decide
  rw [quoted_append, scanMembers, skipBlanks_cons (by decide)]
  simp only [if_true, scanText_escaped, skipBlanks_cons colon, value, skipBlanks_cons notBlank]
  rcases separator with rfl | rfl
  · rfl
  · rfl

theorem scanMembers_membersToBytes {members : List (String × Json)}
    (scans : ∀ m ∈ members, Scans m.2) (nonempty : members ≠ []) {steps : Nat}
    (enough : 2 * (membersToBytes members).length < steps) (rest : Bytes) :
    scanMembers steps (membersToBytes members ++ '\x7d'.toUInt8 :: rest) =
      (members.map fun m => (.ok m.1, m.2.toSource), none, rest) := by
  induction members generalizing steps with
  | nil => exact absurd rfl nonempty
  | cons m members ih =>
    cases steps with
    | zero => omega
    | succ steps =>
      obtain ⟨key, v⟩ := m
      have scansValue : Scans v := scans (key, v) List.mem_cons_self
      cases members with
      | nil =>
        rw [membersToBytes, List.length_append, List.length_cons] at enough
        rw [membersToBytes, List.append_assoc, List.cons_append,
          scanMembers_member scansValue key (by omega) (.inr rfl), if_pos rfl]
        rfl
      | cons n members =>
        rw [membersToBytes, List.append_assoc, List.length_append, List.cons_append,
          List.length_cons, List.length_append, List.length_cons] at enough
        have scansOthers : ∀ m ∈ n :: members, Scans m.2 :=
          fun m member => scans m (List.mem_cons_of_mem (key, v) member)
        have others := @ih scansOthers (List.cons_ne_nil n members) steps (by omega)
        rw [membersToBytes]
        simp only [List.append_assoc, List.cons_append]
        rw [scanMembers_member scansValue key (by omega) (.inl rfl), if_neg (by decide), others]
        rfl

end Members

namespace Scans

/-- There is always a step, because a written form is not empty. -/
theorem of_succ {v : Json}
    (h : ∀ steps rest, 2 * v.toBytes.length ≤ steps + 1 → EndsNumeral rest →
      scanValue (steps + 1) (v.toBytes ++ rest) = (v.toSource, rest)) : Scans v := by
  intro steps rest enough ends
  obtain ⟨b, tail, isCons, _⟩ := exists_cons_toBytes v
  cases steps with
  | zero => simp [isCons] at enough
  | succ steps => exact h steps rest enough ends

theorem null : Scans .null := by
  refine of_succ fun steps rest _ _ => ?_
  have written : toBytes .null = 'n'.toUInt8 :: Bytes.ofString "ull" := by decide
  rw [written, List.cons_append, scanValue, skipBlanks_cons (by decide)]
  exact scanWord_append _ _ _

theorem bool (b : Bool) : Scans (.bool b) := by
  refine of_succ fun steps rest _ _ => ?_
  cases b with
  | true =>
    have written : toBytes (.bool true) = 't'.toUInt8 :: Bytes.ofString "rue" := by decide
    rw [written, List.cons_append, scanValue, skipBlanks_cons (by decide)]
    exact scanWord_append _ _ _
  | false =>
    have written : toBytes (.bool false) = 'f'.toUInt8 :: Bytes.ofString "alse" := by decide
    rw [written, List.cons_append, scanValue, skipBlanks_cons (by decide)]
    exact scanWord_append _ _ _

theorem num {n : Int} (fits : fitsWord n = true) : Scans (.num n) := by
  refine of_succ fun steps rest _ ends => ?_
  obtain ⟨b, tail, isCons, isNumber⟩ := exists_cons_decimal n
  have scanned := scanNumber_decimal fits ends
  rw [toBytes, toSource, if_pos fits]
  rw [isCons, List.cons_append] at scanned ⊢
  rw [scanValue_number isNumber, scanned]

theorem str (s : String) : Scans (.str s) := by
  refine of_succ fun steps rest _ _ => ?_
  rw [toBytes, toSource]
  exact scanValue_quoted steps s rest

theorem arr {items : List Json} (h : ∀ v ∈ items, Scans v) : Scans (.arr items) := by
  refine of_succ fun steps rest enough _ => ?_
  rw [toBytes, List.length_append, List.length_cons, List.length_cons, List.length_nil] at enough
  rw [toBytes, toSource, itemsToSource_eq_map, List.append_assoc, List.cons_append, scanValue,
    skipBlanks_cons (by decide)]
  cases items with
  | nil => rfl
  | cons v items =>
    have scanned := scanItems_itemsToBytes h (List.cons_ne_nil v items)
      (show 2 * (itemsToBytes (v :: items)).length < steps by omega) rest
    obtain ⟨b, tail, isCons, notBlank, notEnd⟩ := exists_cons_itemsToBytes v items
    rw [isCons, List.cons_append] at scanned
    rw [isCons, List.cons_append, List.singleton_append]
    simp only [show '['.toUInt8 ≠ '"'.toUInt8 by decide, if_true, if_false,
      skipBlanks_cons notBlank, notEnd, scanned]

theorem obj {members : List (String × Json)} (h : ∀ m ∈ members, Scans m.2) :
    Scans (.obj members) := by
  refine of_succ fun steps rest enough _ => ?_
  rw [toBytes, List.length_append, List.length_cons, List.length_cons, List.length_nil] at enough
  rw [toBytes, toSource, membersToSource_eq_map, List.append_assoc, List.cons_append, scanValue,
    skipBlanks_cons (by decide)]
  cases members with
  | nil => rfl
  | cons m members =>
    have quote : isBlankByte '"'.toUInt8 = false := by decide
    have scanned := scanMembers_membersToBytes h (List.cons_ne_nil m members)
      (show 2 * (membersToBytes (m :: members)).length < steps by omega) rest
    obtain ⟨tail, isCons⟩ := exists_cons_membersToBytes m members
    rw [isCons, List.cons_append] at scanned
    rw [isCons, List.cons_append, List.singleton_append]
    simp only [show '\x7b'.toUInt8 ≠ '"'.toUInt8 by decide, if_true, if_false,
      show '\x7b'.toUInt8 ≠ '['.toUInt8 by decide, skipBlanks_cons quote,
      show '"'.toUInt8 ≠ '\x7d'.toUInt8 by decide, scanned]

end Scans

theorem Words.scans {v : Json} (words : v.Words) : Scans v := by
  induction words with
  | null => exact .null
  | bool b => exact .bool b
  | num fits => exact .num fits
  | str s => exact .str s
  | arr _ ih => exact .arr ih
  | obj _ ih => exact .obj ih

/-- A value is read back from its written form, whatever follows that. -/
theorem scan_toBytes {v : Json} (words : v.Words) {rest : Bytes} (ends : EndsNumeral rest) :
    Source.scan (v.toBytes ++ rest) = (v.toSource, rest) := by
  refine words.scans _ rest ?_ ends
  rw [List.length_append]
  omega

end EvidenceLedger.Json
