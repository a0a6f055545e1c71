import EvidenceLedger.Proofs.Text.Numeral
import EvidenceLedger.Proofs.Time.Calendar
import EvidenceLedger.Time.Reader

/-!
# Reading timestamps back

The written form of an instant is read as that instant, so instants are known by their written
forms. Each part is read from the front of what is left: a row of digits ends where it is as long
as the reader wants it, or where something stands that is no digit.
-/

namespace EvidenceLedger.Timestamp

open Text (trimStart isSpace digitsValue)

theorem isSpace_of_isDigit {c : Char} (h : c.isDigit) : isSpace c = false := by
  have bounds : 48 ≤ c.toNat ∧ c.toNat ≤ 57 := by
    simpa [Char.isDigit, Char.le_def, UInt32.le_iff_toNat_le] using h
  simp [isSpace, Text.spaces]
  and_intros <;> omega

theorem isDigit_of_mem_padded {width n : Nat} {c : Char} (h : c ∈ padded width n) : c.isDigit := by
  rcases List.mem_append.mp h with zero | digit
  · rw [List.eq_of_mem_replicate zero]
    decide
  · exact Text.isDigit_of_mem_toDigits digit

@[simp] theorem digitsValue_padded (width n : Nat) : digitsValue (padded width n) = n := by
  simp [padded]

theorem padded_ne_nil (width n : Nat) : padded width n ≠ [] := by
  simp [padded]

theorem length_padded {width n : Nat} (h : n < Nat.pow 10 width) (some : 0 < width) :
    (padded width n).length = width := by
  have := Text.length_toDigits_le h some
  simp [padded]
  omega

/-- A row of as many digits as are wanted is read as a whole. -/
theorem readDigits?_append {digits : List Char} (nonempty : digits ≠ [])
    (isDigits : ∀ c ∈ digits, c.isDigit) (rest : List Char) :
    readDigits? (some digits.length) (digits ++ rest) = some (digitsValue digits, rest) := by
  have whole : digits.takeWhile Char.isDigit = digits := by
    simpa using @List.takeWhile_append_of_pos _ Char.isDigit digits [] isDigits
  simp [readDigits?, whole, nonempty]

/-- A row of digits is read as a whole if all digits are wanted and something else follows. -/
theorem readDigits?_append_of_stop {digits rest : List Char} (nonempty : digits ≠ [])
    (isDigits : ∀ c ∈ digits, c.isDigit) (stop : rest.head?.all (!·.isDigit)) :
    readDigits? none (digits ++ rest) = some (digitsValue digits, rest) := by
  have whole : (digits ++ rest).takeWhile Char.isDigit = digits := by
    rw [List.takeWhile_append_of_pos isDigits]
    cases rest with
    | nil => simp
    | cons c rest =>
      have notDigit : c.isDigit = false := by simpa using stop
      simp [notDigit]
  simp [readDigits?, whole, nonempty]

/-- A number that was filled up with zeros is read as it was written. -/
theorem readDigits?_padded {width n : Nat} (h : n < Nat.pow 10 width) (some : 0 < width)
    (rest : List Char) :
    readDigits? (.some width) (padded width n ++ rest) = .some (n, rest) := by
  have read := readDigits?_append (padded_ne_nil width n) (fun _ => isDigit_of_mem_padded) rest
  rwa [length_padded h some, digitsValue_padded] at read

theorem trimStart_of_isDigit {c : Char} {cs : List Char} (h : c.isDigit) :
    trimStart (c :: cs) = c :: cs := by
  simp [trimStart, isSpace_of_isDigit h]

theorem trimStart_padded_append (width n : Nat) (rest : List Char) :
    trimStart (padded width n ++ rest) = padded width n ++ rest := by
  obtain ⟨c, cs, isPadded⟩ := List.exists_cons_of_ne_nil (padded_ne_nil width n)
  have digit : c.isDigit := isDigit_of_mem_padded (isPadded ▸ List.mem_cons_self)
  rw [isPadded, List.cons_append, trimStart_of_isDigit digit]

/-- A field of two digits is read as it was written. -/
theorem readField?_padded {n : Nat} (h : n < 100) (rest : List Char) :
    readField? (padded 2 n ++ rest) = some (n, rest) := by
  rw [readField?, trimStart_padded_append, readDigits?_padded h (by decide)]

/-- A year is read as it was written, if something follows that is no digit. -/
theorem readYear?_yearText (year : Int) {rest : List Char} (stop : rest.head?.all (!·.isDigit)) :
    readYear? (yearText year ++ rest) = some (year, rest) := by
  have all (n : Nat) :
      readDigits? none (padded 4 n ++ rest) = some (n, rest) := by
    rw [readDigits?_append_of_stop (padded_ne_nil 4 n) (fun _ => isDigit_of_mem_padded) stop,
      digitsValue_padded]
  unfold yearText
  by_cases negative : year < 0
  · have sign : -(year.natAbs : Int) = year := by omega
    have shown : trimStart ('-' :: padded 4 year.natAbs ++ rest) =
        '-' :: (padded 4 year.natAbs ++ rest) := rfl
    rw [if_pos negative, readYear?, shown]
    simp only [all, Option.map_some, sign]
  · have sign : (year.natAbs : Int) = year := by omega
    by_cases short : year ≤ 9999
    · rw [if_neg negative, if_pos short, readYear?, trimStart_padded_append]
      obtain ⟨c, cs, isPadded⟩ := List.exists_cons_of_ne_nil (padded_ne_nil 4 year.natAbs)
      have digit : c.isDigit := isDigit_of_mem_padded (isPadded ▸ List.mem_cons_self)
      have read : readDigits? (some 4) (padded 4 year.natAbs ++ rest) = some (year.natAbs, rest) :=
        readDigits?_padded (show year.natAbs < 10000 by omega) (by decide) rest
      rw [isPadded] at read ⊢
      split
      · next minus => simp_all
      · next plus => simp_all
      · simp only [read, Option.map_some, sign]
    · have shown : trimStart ('+' :: padded 4 year.natAbs ++ rest) =
          '+' :: (padded 4 year.natAbs ++ rest) := rfl
      rw [if_neg negative, if_neg short, readYear?, shown]
      simp only [all, Option.map_some, sign]

theorem fractionValue_padded {width n : Nat} (h : n < Nat.pow 10 width) (some : 0 < width)
    (short : width ≤ 9) : fractionValue (padded width n) = n * Nat.pow 10 (9 - width) := by
  have length := length_padded h some
  rw [fractionValue, List.take_of_length_le (by omega), length, digitsValue_padded]

theorem readFraction?_padded {width n : Nat} (h : n < Nat.pow 10 width) (some : 0 < width)
    (short : width ≤ 9) {rest : List Char} (stop : rest.head?.all (!·.isDigit)) :
    readFraction? ('.' :: padded width n ++ rest) = .some (n * Nat.pow 10 (9 - width), rest) := by
  have whole : (padded width n ++ rest).takeWhile Char.isDigit = padded width n := by
    rw [List.takeWhile_append_of_pos fun _ => isDigit_of_mem_padded]
    cases rest with
    | nil => simp
    | cons c rest =>
      have notDigit : c.isDigit = false := by simpa using stop
      simp [notDigit]
  simp [readFraction?, whole, padded_ne_nil, fractionValue_padded h some short]

/-- The fraction of a second is read as it was written, before the mark of the zone. -/
theorem readFraction?_fractionText {nanos : Nat} (h : nanos < nanosPerSecond) (rest : List Char) :
    readFraction? (fractionText nanos ++ 'Z' :: rest) = some (nanos, 'Z' :: rest) := by
  have stop : ('Z' :: rest).head?.all (!·.isDigit) := rfl
  unfold nanosPerSecond at h
  unfold fractionText
  split
  · next none =>
    rw [none]
    rfl
  · split
    · next milli =>
      have small : nanos / 1000000 < 1000 := by omega
      have whole : nanos / 1000000 * 1000000 = nanos := by omega
      rw [readFraction?_padded small (by decide) (by decide) stop]
      exact congrArg (fun n => some (n, 'Z' :: rest)) whole
    · split
      · next micro =>
        have small : nanos / 1000 < 1000000 := by omega
        have whole : nanos / 1000 * 1000 = nanos := by omega
        rw [readFraction?_padded small (by decide) (by decide) stop]
        exact congrArg (fun n => some (n, 'Z' :: rest)) whole
      · rw [readFraction?_padded h (by decide) (by decide) stop]
        exact congrArg (fun n => some (n, 'Z' :: rest)) (Nat.mul_one nanos)

/-- A date whose month and day have two digits is read as it was written. -/
theorem readDate?_text (date : Calendar.Date) (month : date.month < 100) (day : date.day < 100)
    (rest : List Char) :
    readDate?
        (yearText date.year ++ '-' :: padded 2 date.month ++ '-' :: padded 2 date.day ++ rest) =
      some (date, rest) := by
  have dash (cs : List Char) : readChar? '-' (trimStart ('-' :: cs)) = some cs := rfl
  have stop (cs : List Char) : ('-' :: cs).head?.all (!·.isDigit) := rfl
  simp only [List.append_assoc, List.cons_append, readDate?, readYear?_yearText _ (stop _),
    Option.bind_eq_bind, Option.bind_some, dash, readField?_padded month, readField?_padded day]

/-- A time of day whose parts have two digits is read as it was written. -/
theorem readTime?_text {hour minute second nanos : Nat} (hours : hour < 100)
    (minutes : minute < 100) (seconds : second < 100) (fraction : nanos < nanosPerSecond)
    (rest : List Char) :
    readTime? (padded 2 hour ++ ':' :: padded 2 minute ++ ':' :: padded 2 second ++
        fractionText nanos ++ 'Z' :: rest) =
      some ((hour, minute, second, nanos), 'Z' :: rest) := by
  have colon (cs : List Char) : readChar? ':' (trimStart (':' :: cs)) = some cs := rfl
  simp only [List.append_assoc, List.cons_append, readTime?, readField?_padded hours,
    readField?_padded minutes, readField?_padded seconds, readFraction?_fractionText fraction,
    Option.bind_eq_bind, Option.bind_some, colon]

/-- The bounds of the parts of an instant. A leap second is the only second 60. -/
theorem toCivil_bounds (t : Timestamp) :
    t.toCivil.date.isValid ∧ -262143 ≤ t.toCivil.date.year ∧ t.toCivil.date.year ≤ 262142 ∧
      t.toCivil.hour < 24 ∧ t.toCivil.minute < 60 ∧ t.toCivil.second ≤ 60 ∧
      t.toCivil.nanos < nanosPerSecond := by
  obtain ⟨first, last, fits⟩ := t.exists_
  unfold firstSecond at first
  unfold lastSecond at last
  unfold nanosPerSecond at fits
  have years : -262143 ≤ (Calendar.Date.ofDays (t.seconds / 86400)).year ∧ _ :=
    Calendar.Date.year_ofDays (by omega) (by omega)
  refine ⟨Calendar.Date.isValid_ofDays _, years.1, years.2, ?_, ?_, ?_, ?_⟩ <;>
    simp only [toCivil, nanosPerSecond]
  all_goals omega

/-- The date and the time of day of an instant give that instant. -/
theorem ofParts?_toCivil (t : Timestamp) :
    ofParts? t.toCivil.date
        (t.toCivil.hour, t.toCivil.minute, t.toCivil.second, t.toCivil.nanos) 0 =
      some t := by
  obtain ⟨valid, firstYear, lastYear, hour, minute, second, _⟩ := toCivil_bounds t
  have fits := t.exists_.2.2
  unfold nanosPerSecond at fits
  have leap : t.toCivil.second / 60 = t.nanos / nanosPerSecond := by
    simp only [toCivil, nanosPerSecond]
    omega
  have seconds : 86400 * t.toCivil.date.toDays +
      ((3600 * t.toCivil.hour + 60 * t.toCivil.minute +
        (t.toCivil.second - t.nanos / nanosPerSecond) : Nat) : Int) - 60 * 0 = t.seconds := by
    simp only [toCivil, Calendar.Date.toDays_ofDays]
    omega
  have nanos : t.toCivil.nanos + t.nanos / nanosPerSecond * nanosPerSecond = t.nanos := by
    simp only [toCivil]
    exact Nat.mod_add_div' _ _
  simp only [ofParts?, valid, firstYear, lastYear, hour, minute, second, decide_true, Bool.and_self,
    if_true, leap, seconds, nanos, ofUnix?_self]

/-- The written form of an instant is read as that instant. -/
@[simp] theorem ofText?_toText (t : Timestamp) : ofText? t.toText = some t := by
  obtain ⟨valid, _, _, hour, minute, second, nanos⟩ := toCivil_bounds t
  have month : t.toCivil.date.month < 100 ∧ t.toCivil.date.day < 100 := by
    simp only [Calendar.Date.isValid, Bool.and_eq_true, decide_eq_true_eq] at valid
    have days : Calendar.daysInMonth t.toCivil.date.year t.toCivil.date.month ≤ 31 := by
      unfold Calendar.daysInMonth
      split <;> try split
      all_goals decide
    omega
  have mark (cs : List Char) : readMark? ('T' :: cs) = some cs := rfl
  have zone : readZone? (trimStart ['Z']) = some (0, []) := rfl
  have date := readDate?_text t.toCivil.date month.1 month.2
  have time := @readTime?_text t.toCivil.hour t.toCivil.minute t.toCivil.second t.toCivil.nanos
    (by omega) (by omega) (by omega) nanos []
  simp only [List.append_assoc, List.cons_append] at date time
  rw [ofText?, toList_toText, Civil.text, ofChars?]
  simp only [List.append_assoc, List.cons_append, date, mark, time, zone, Option.bind_eq_bind,
    Option.bind_some, ofParts?_toCivil, Text.trimStart_nil, List.isEmpty_nil, if_true]

/-- Instants with the same written form are the same. -/
theorem toText_inj {a b : Timestamp} : a.toText = b.toText ↔ a = b := by
  constructor
  · intro h
    exact Option.some.inj (by rw [← ofText?_toText a, h, ofText?_toText])
  · rintro rfl
    rfl

theorem mem_yearText {year : Int} {c : Char} (h : c ∈ yearText year) :
    c.isDigit ∨ c = '-' ∨ c = '+' := by
  unfold yearText at h
  split at h
  · rcases List.mem_cons.mp h with sign | digit
    · exact .inr (.inl sign)
    · exact .inl (isDigit_of_mem_padded digit)
  · split at h
    · exact .inl (isDigit_of_mem_padded h)
    · rcases List.mem_cons.mp h with sign | digit
      · exact .inr (.inr sign)
      · exact .inl (isDigit_of_mem_padded digit)

theorem mem_fractionText {nanos : Nat} {c : Char} (h : c ∈ fractionText nanos) :
    c.isDigit ∨ c = '.' := by
  have point {width n : Nat} (h : c ∈ '.' :: padded width n) : c.isDigit ∨ c = '.' := by
    rcases List.mem_cons.mp h with isPoint | digit
    · exact .inr isPoint
    · exact .inl (isDigit_of_mem_padded digit)
  unfold fractionText at h
  split at h
  · simp at h
  · split at h
    · exact point h
    · split at h <;> exact point h

/-- What stands in a timestamp: digits, and the marks between and around them. -/
theorem mem_toText {t : Timestamp} {c : Char} (h : c ∈ t.toText.toList) :
    c.isDigit ∨ c ∈ ['-', '+', 'T', ':', '.', 'Z'] := by
  simp only [toList_toText, Civil.text, List.append_assoc, List.cons_append, List.mem_append,
    List.mem_cons] at h ⊢
  rcases h with year | mark | month | mark | day | mark | hour | mark | minute | mark | second |
    fraction | mark | none
  · rcases mem_yearText year with digit | minus | plus
    · exact .inl digit
    · exact .inr (.inl minus)
    · exact .inr (.inr (.inl plus))
  · simp [mark]
  · exact .inl (isDigit_of_mem_padded month)
  · simp [mark]
  · exact .inl (isDigit_of_mem_padded day)
  · simp [mark]
  · exact .inl (isDigit_of_mem_padded hour)
  · simp [mark]
  · exact .inl (isDigit_of_mem_padded minute)
  · simp [mark]
  · exact .inl (isDigit_of_mem_padded second)
  · rcases mem_fractionText fraction with digit | point
    · exact .inl digit
    · simp [point]
  · simp [mark]
  · simp at none

end EvidenceLedger.Timestamp
