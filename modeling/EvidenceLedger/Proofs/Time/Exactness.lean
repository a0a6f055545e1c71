import EvidenceLedger.Proofs.Time.RoundTrip
import EvidenceLedger.Time.Wire
import Mathlib.Logic.ExistsUnique

/-!
# The written form of an instant is exact

Every time of every day that a node can know is an instant, and leap seconds are among them. Its
written form is read as that instant and no other, so nothing is lost between nodes, and reading a
text and writing it again changes the instant no more, however freely the text was written.

Nor is more written than needed. The only point in a text that is read stands before the fraction of
the second, because no other part of it may hold one. So the digits behind the point are all that
the text says about what is less than a second, and the written form has as few of them as any text
with groups of three that is read as the instant.
-/

namespace EvidenceLedger

namespace Timestamp

open Text (trimStart isSpace digitsValue)

/-! ## Dates and times of day -/

/-- Is there such a time? A minute may have a second 60, for a leap second. -/
structure Civil.Exists (c : Civil) : Prop where
  date : c.date.isValid
  firstYear : -262143 ≤ c.date.year
  lastYear : c.date.year ≤ 262142
  hour : c.hour < 24
  minute : c.minute < 60
  second : c.second ≤ 60
  nanos : c.nanos < nanosPerSecond

theorem exists_toCivil (t : Timestamp) : t.toCivil.Exists := by
  obtain ⟨date, firstYear, lastYear, hour, minute, second, nanos⟩ := toCivil_bounds t
  exact ⟨date, firstYear, lastYear, hour, minute, second, nanos⟩

theorem toCivil_inj {a b : Timestamp} (same : a.toCivil = b.toCivil) : a = b := by
  apply Option.some.inj
  rw [← ofParts?_toCivil a, same, ofParts?_toCivil]

/-- Every time that there is belongs to an instant. -/
theorem Civil.Exists.exists_timestamp {c : Civil} (there : c.Exists) :
    ∃ t : Timestamp, t.toCivil = c := by
  obtain ⟨first, last⟩ := Calendar.Date.toDays_bounds there.date there.firstYear there.lastYear
  obtain ⟨valid, _, _, hours, minutes, seconds, fraction⟩ := there
  obtain ⟨date, hour, minute, second, nanos⟩ := c
  dsimp only at first last valid hours minutes seconds fraction
  -- The second of the day, and whether it is followed by a leap second.
  obtain ⟨ofDay, leap, isOfDay, isLeap, isSecond⟩ : ∃ ofDay leap : Nat,
      ofDay = 3600 * hour + 60 * minute + (second - leap) ∧ (leap = 0 ∨ leap = 1 ∧ second = 60) ∧
        second - leap < 60 := by
    by_cases sixty : second = 60
    · exact ⟨_, 1, rfl, .inr ⟨rfl, sixty⟩, by omega⟩
    · exact ⟨_, 0, rfl, .inl rfl, by omega⟩
  have fits : Timestamp.Exists (86400 * date.toDays + ofDay) (nanos + leap * nanosPerSecond) := by
    unfold Timestamp.Exists firstSecond lastSecond
    unfold nanosPerSecond at fraction ⊢
    omega
  have day : (86400 * date.toDays + (ofDay : Int)) / 86400 = date.toDays := by omega
  have time : ((86400 * date.toDays + (ofDay : Int)) % 86400).toNat = ofDay := by omega
  refine ⟨⟨_, _, fits⟩, ?_⟩
  unfold nanosPerSecond at fraction
  simp only [toCivil, day, time, Calendar.Date.ofDays_toDays valid, nanosPerSecond,
    Civil.mk.injEq, true_and]
  omega

/-! ## Where the point stands -/

/-- Is `rest` what is left of `cs` behind characters that are no points? -/
def PointFree (cs rest : List Char) : Prop :=
  ∃ front, '.' ∉ front ∧ cs = front ++ rest

namespace PointFree

variable {cs mid rest : List Char}

theorem refl (cs : List Char) : PointFree cs cs :=
  ⟨[], List.not_mem_nil, rfl⟩

theorem trans (first : PointFree cs mid) (second : PointFree mid rest) : PointFree cs rest := by
  obtain ⟨front, noPoint, rfl⟩ := first
  obtain ⟨back, noPoint', rfl⟩ := second
  refine ⟨front ++ back, ?_, (List.append_assoc front back rest).symm⟩
  rw [List.mem_append]
  rintro (here | later)
  · exact noPoint here
  · exact noPoint' later

theorem cons {c : Char} (other : c ≠ '.') (cs : List Char) : PointFree (c :: cs) cs :=
  ⟨[c], fun member => other (List.mem_singleton.mp member).symm, rfl⟩

theorem of_takeWhile {p : Char → Bool} (other : p '.' = false) {cs front : List Char}
    (start : front <+: cs) (taken : front.all p = true) :
    PointFree cs (cs.drop front.length) := by
  refine ⟨front, fun member => ?_, (List.prefix_iff_eq_append.mp start).symm⟩
  have point : p '.' = true := List.all_eq_true.mp taken '.' member
  rw [other] at point
  cases point

theorem dropWhile {p : Char → Bool} (other : p '.' = false) (cs : List Char) :
    PointFree cs (cs.dropWhile p) := by
  refine ⟨cs.takeWhile p, fun member => ?_, List.takeWhile_append_dropWhile.symm⟩
  have point : p '.' = true := List.all_eq_true.mp List.all_takeWhile '.' member
  rw [other] at point
  cases point

theorem of_trimStart (cs : List Char) : PointFree cs (trimStart cs) :=
  dropWhile (by decide) cs

theorem of_readDigits? {limit : Option Nat} {n : Nat}
    (read : readDigits? limit cs = some (n, rest)) : PointFree cs rest := by
  unfold readDigits? at read
  dsimp only at read
  split at read
  all_goals
    simp only [Option.ite_none_left_eq_some, Option.some.injEq, Prod.mk.injEq] at read
    obtain ⟨_, _, rfl⟩ := read
  · exact of_takeWhile rfl ((List.takeWhile_prefix _).trans (List.take_prefix _ _)) List.all_takeWhile
  · exact of_takeWhile rfl (List.takeWhile_prefix _) List.all_takeWhile

theorem of_readChar? {c : Char} (other : c ≠ '.') (read : readChar? c cs = some rest) :
    PointFree cs rest := by
  cases cs with
  | nil => cases read
  | cons d cs =>
    simp only [readChar?, Option.ite_none_right_eq_some, Option.some.injEq] at read
    obtain ⟨rfl, rfl⟩ := read
    exact cons other cs

theorem of_readField? {n : Nat} (read : readField? cs = some (n, rest)) : PointFree cs rest :=
  (of_trimStart cs).trans (of_readDigits? read)

/-- What is made of the value that was read changes nothing about what is left. -/
theorem of_map {α β : Type} {f : α × List Char → β × List Char} {b : β}
    {left? : Option (α × List Char)} (read : left?.map f = some (b, rest))
    (keeps : ∀ left, (f left).2 = left.2)
    (all : ∀ a, left? = some (a, rest) → PointFree cs rest) : PointFree cs rest := by
  obtain ⟨⟨a, left⟩, isLeft, same⟩ := Option.map_eq_some_iff.mp read
  have kept : rest = left := (congrArg Prod.snd same).symm.trans (keeps (a, left))
  exact all a (kept ▸ isLeft)

theorem of_readYear? {year : Int} (read : readYear? cs = some (year, rest)) :
    PointFree cs rest := by
  have start := of_trimStart cs
  unfold readYear? at read
  split at read
  · next minus =>
    rw [minus] at start
    exact of_map read (fun _ => rfl) fun n digits =>
      (start.trans (cons (by decide) _)).trans (of_readDigits? digits)
  · next plus =>
    rw [plus] at start
    exact of_map read (fun _ => rfl) fun n digits =>
      (start.trans (cons (by decide) _)).trans (of_readDigits? digits)
  · exact of_map read (fun _ => rfl) fun n digits => start.trans (of_readDigits? digits)

theorem of_readDate? {date : Calendar.Date} (read : readDate? cs = some (date, rest)) :
    PointFree cs rest := by
  simp only [readDate?, Option.bind_eq_bind, Option.bind_eq_some_iff, Option.some.injEq,
    Prod.mk.injEq, Prod.exists] at read
  obtain ⟨year, cs₁, readYear, cs₂, dash, month, cs₃, readMonth, cs₄, dash', day, cs₅, readDay, _,
    rfl⟩ := read
  have year := of_readYear? readYear
  have mark := (of_trimStart cs₁).trans (of_readChar? (by decide) dash)
  have mark' := (of_trimStart cs₃).trans (of_readChar? (by decide) dash')
  exact (((year.trans mark).trans (of_readField? readMonth)).trans mark').trans
    (of_readField? readDay)

theorem of_readMark? (read : readMark? cs = some rest) : PointFree cs rest := by
  unfold readMark? at read
  split at read
  · obtain rfl := Option.some.inj read
    exact cons (by decide) _
  · obtain rfl := Option.some.inj read
    exact cons (by decide) _
  · obtain rfl := Option.some.inj read
    exact cons (by decide) _
  · cases read

theorem of_readPair? {n : Nat} (read : readPair? cs = some (n, rest)) : PointFree cs rest := by
  unfold readPair? at read
  split at read
  · next a b cs =>
    simp only [Option.ite_none_right_eq_some, Bool.and_eq_true, Option.some.injEq,
      Prod.mk.injEq] at read
    obtain ⟨⟨first, second⟩, _, rfl⟩ := read
    have other {c : Char} (digit : c.isDigit = true) : c ≠ '.' := by
      rintro rfl
      cases digit
    exact (cons (other first) (b :: cs)).trans (cons (other second) cs)
  · cases read

theorem of_readOffset? {n : Nat} (read : readOffset? cs = some (n, rest)) :
    PointFree cs rest := by
  simp only [readOffset?, Option.bind_eq_bind, Option.bind_eq_some_iff,
    Option.ite_none_right_eq_some, Option.some.injEq, Prod.mk.injEq, Prod.exists] at read
  obtain ⟨hours, cs₁, readHours, minutes, cs₂, readMinutes, _, _, rfl⟩ := read
  have between : PointFree cs₁ (cs₁.dropWhile fun c => c == ':' || isSpace c) :=
    dropWhile (by decide) cs₁
  exact ((of_readPair? readHours).trans between).trans (of_readPair? readMinutes)

theorem of_readZone? {zone : Int} (read : readZone? cs = some (zone, rest)) :
    PointFree cs rest := by
  unfold readZone? at read
  split at read
  · obtain ⟨_, rfl⟩ := Prod.mk.inj (Option.some.inj read)
    exact cons (by decide) _
  · obtain ⟨_, rfl⟩ := Prod.mk.inj (Option.some.inj read)
    exact cons (by decide) _
  · exact of_map read (fun _ => rfl) fun n offset => (cons (by decide) _).trans (of_readOffset? offset)
  · exact of_map read (fun _ => rfl) fun n offset => (cons (by decide) _).trans (of_readOffset? offset)
  · exact of_map read (fun _ => rfl) fun n offset => (cons (by decide) _).trans (of_readOffset? offset)
  · next u t c left _ _ _ _ _ =>
    simp only [Option.ite_none_right_eq_some, Option.some.injEq, Prod.mk.injEq] at read
    obtain ⟨word, _, rfl⟩ := read
    have other {d : Char} (member : d ∈ [u, t, c]) : d ≠ '.' := by
      rintro rfl
      have upper : '.' ∈ ['U', 'T', 'C'] := word ▸ List.mem_map_of_mem member
      exact absurd upper (by decide)
    exact ⟨[u, t, c], fun member => other member rfl, rfl⟩
  · cases read

end PointFree

/-! ## The fraction of a second -/

/-- The digits behind the first point. -/
def fraction (cs : List Char) : List Char :=
  ((cs.dropWhile (· != '.')).drop 1).takeWhile Char.isDigit

/-- How many digits a text has behind its point. -/
def fractionDigits (s : String) : Nat :=
  (fraction s.toList).length

theorem PointFree.fraction_eq {cs rest : List Char} (free : PointFree cs rest) :
    fraction cs = fraction rest := by
  obtain ⟨front, noPoint, rfl⟩ := free
  have before : ∀ c ∈ front, (c != '.') = true := fun c member =>
    bne_iff_ne.mpr fun same => noPoint (same ▸ member)
  rw [fraction, List.dropWhile_append_of_pos before, fraction]

/-- A fraction that is read is that of the digits behind the point, if no point follows. -/
theorem value_of_readFraction? {cs rest : List Char} {n : Nat}
    (read : readFraction? cs = some (n, rest)) (free : PointFree rest []) :
    n = fractionValue (fraction cs) := by
  unfold readFraction? at read
  split at read
  · simp only [Option.ite_none_left_eq_some, Option.some.injEq, Prod.mk.injEq] at read
    exact read.2.1.symm
  · obtain ⟨rfl, rfl⟩ := Prod.mk.inj (Option.some.inj read)
    rw [free.fraction_eq]
    rfl

theorem exists_readFraction? {cs rest : List Char} {hour minute second n : Nat}
    (read : readTime? cs = some ((hour, minute, second, n), rest)) :
    ∃ mid, PointFree cs mid ∧ readFraction? mid = some (n, rest) := by
  simp only [readTime?, Option.bind_eq_bind, Option.bind_eq_some_iff, Option.some.injEq,
    Prod.mk.injEq, Prod.exists] at read
  obtain ⟨_, cs₁, readHour, cs₂, colon, _, cs₃, readMinute, cs₄, colon', _, cs₅, readSecond, _, _,
    readFraction, ⟨_, _, _, rfl⟩, rfl⟩ := read
  have mark := (PointFree.of_trimStart cs₁).trans (.of_readChar? (by decide) colon)
  have mark' := (PointFree.of_trimStart cs₃).trans (.of_readChar? (by decide) colon')
  have hour := (PointFree.of_readField? readHour).trans mark
  have minute := (PointFree.of_readField? readMinute).trans mark'
  exact ⟨cs₅, (hour.trans minute).trans (.of_readField? readSecond), readFraction⟩

theorem nanos_of_ofParts? {date : Calendar.Date} {hour minute second nanos : Nat} {zone : Int}
    {t : Timestamp} (made : ofParts? date (hour, minute, second, nanos) zone = some t) :
    t.nanos % nanosPerSecond = nanos % nanosPerSecond := by
  simp only [ofParts?, ofUnix?, Option.ite_none_right_eq_some, Option.dite_none_right_eq_some,
    Option.some.injEq] at made
  obtain ⟨_, _, rfl⟩ := made
  exact Nat.add_mul_mod_self_right _ _ _

/-- A text that is read says what is less than a second with the digits behind its point. -/
theorem nanos_of_ofChars? {cs : List Char} {t : Timestamp} (read : ofChars? cs = some t) :
    t.nanos % nanosPerSecond = fractionValue (fraction cs) % nanosPerSecond := by
  simp only [ofChars?, Option.bind_eq_bind, Option.bind_eq_some_iff, Option.ite_none_right_eq_some,
    List.isEmpty_iff, Prod.exists] at read
  obtain ⟨_, cs₁, readDate, cs₂, readMark, hour, minute, second, n, cs₃, readTime, _, cs₄, readZone,
    ended, made⟩ := read
  obtain ⟨mid, free, readFraction⟩ := exists_readFraction? readTime
  have before := ((PointFree.of_readDate? readDate).trans (.of_readMark? readMark)).trans free
  have zone := (PointFree.of_trimStart cs₃).trans (.of_readZone? readZone)
  have after : PointFree cs₃ [] := ended ▸ zone.trans (.of_trimStart cs₄)
  rw [nanos_of_ofParts? made, before.fraction_eq, value_of_readFraction? readFraction after]

theorem dvd_fractionValue {digits : List Char} (short : digits.length ≤ 9) :
    Nat.pow 10 (9 - digits.length) ∣ fractionValue digits := by
  rw [fractionValue, List.take_of_length_le short]
  exact Nat.dvd_mul_left _ _

theorem noPoint_padded (width n : Nat) : '.' ∉ padded width n := fun member =>
  absurd (isDigit_of_mem_padded member) (by decide)

theorem noPoint_yearText (year : Int) : '.' ∉ yearText year := by
  intro member
  rcases mem_yearText member with digit | minus | plus
  · cases digit
  · cases minus
  · cases plus

theorem pointFree_toText (t : Timestamp) :
    PointFree t.toText.toList (fractionText t.toCivil.nanos ++ ['Z']) := by
  let c := t.toCivil
  refine ⟨yearText c.date.year ++ '-' :: padded 2 c.date.month ++ '-' :: padded 2 c.date.day ++
    'T' :: padded 2 c.hour ++ ':' :: padded 2 c.minute ++ ':' :: padded 2 c.second, ?_, ?_⟩
  · simp [noPoint_yearText, noPoint_padded]
  · simp [c, Civil.text]

theorem fraction_padded {width n : Nat} (small : n < Nat.pow 10 width) (some : 0 < width) :
    (fraction ('.' :: padded width n ++ ['Z'])).length = width := by
  have digits : fraction ('.' :: padded width n ++ ['Z']) =
      (padded width n ++ ['Z']).takeWhile Char.isDigit := rfl
  rw [digits, List.takeWhile_append_of_pos fun _ => isDigit_of_mem_padded, List.length_append,
    length_padded small some]
  rfl

/-- The least of 0, 3, 6 and 9 digits of a fraction that lose nothing. -/
def fewestDigits (nanos : Nat) : Nat :=
  if nanos = 0 then 0
  else if nanos % 1000000 = 0 then 3
  else if nanos % 1000 = 0 then 6
  else 9

theorem fewestDigits_mem (nanos : Nat) : fewestDigits nanos ∈ [0, 3, 6, 9] := by
  fun_cases fewestDigits nanos <;> decide

theorem fewestDigits_le {nanos count : Nat} (small : nanos < nanosPerSecond)
    (groups : count ∈ [0, 3, 6, 9]) (divides : Nat.pow 10 (9 - count) ∣ nanos) :
    fewestDigits nanos ≤ count := by
  unfold nanosPerSecond at small
  simp only [List.mem_cons, List.not_mem_nil, or_false] at groups
  rcases groups with rfl | rfl | rfl | rfl
  · have whole : 1000000000 ∣ nanos := divides
    fun_cases fewestDigits nanos <;> omega
  · have milli : 1000000 ∣ nanos := divides
    fun_cases fewestDigits nanos <;> omega
  · have micro : 1000 ∣ nanos := divides
    fun_cases fewestDigits nanos <;> omega
  · fun_cases fewestDigits nanos <;> decide

theorem fractionDigits_toText (t : Timestamp) :
    fractionDigits t.toText = fewestDigits t.toCivil.nanos := by
  have small : t.toCivil.nanos < 1000000000 := (exists_toCivil t).nanos
  rw [fractionDigits, (pointFree_toText t).fraction_eq, fractionText, fewestDigits]
  split
  · rfl
  · split
    · exact fraction_padded (show t.toCivil.nanos / 1000000 < 1000 by omega) (by decide)
    · split
      · exact fraction_padded (show t.toCivil.nanos / 1000 < 1000000 by omega) (by decide)
      · exact fraction_padded small (by decide)

/-- No text with groups of three digits says with fewer of them which instant it means. -/
theorem fractionDigits_le {t : Timestamp} {s : String} (read : ofText? s = some t)
    (groups : fractionDigits s ∈ [0, 3, 6, 9]) : fractionDigits t.toText ≤ fractionDigits s := by
  have short : (fraction s.toList).length ≤ 9 := by
    have all : ∀ count ∈ [0, 3, 6, 9], count ≤ 9 := by decide
    exact all _ groups
  have nanos : t.toCivil.nanos = fractionValue (fraction s.toList) % nanosPerSecond :=
    nanos_of_ofChars? read
  have second : Nat.pow 10 (9 - fractionDigits s) ∣ nanosPerSecond :=
    Nat.pow_dvd_pow 10 (Nat.sub_le 9 _)
  rw [fractionDigits_toText]
  apply fewestDigits_le (exists_toCivil t).nanos groups
  rw [nanos, Nat.dvd_mod_iff second]
  exact dvd_fractionValue short

/-! ## Exactness -/

open Json

/-- A text on the wire is read as an instant exactly if it is one. -/
theorem decode_eq_ok_iff {s : String} {t : Timestamp} :
    (decode (.str s) : Checked Timestamp) = .ok t ↔ ofText? s = some t := by
  show Reader.ofText ofText? (.str s) = .ok t ↔ ofText? s = some t
  cases read : ofText? s with
  | none =>
    simp only [Reader.ofText, Reader.text, bind, Except.bind, read]
    exact ⟨nofun, nofun⟩
  | some other =>
    simp only [Reader.ofText, Reader.text, bind, Except.bind, read, Except.ok.injEq,
      Option.some.injEq]

theorem notMem_toText_of_separator (t : Timestamp) : ∀ c ∈ [',', ';', '|'], c ∉ t.toText.toList := by
  intro separator isSeparator member
  simp only [List.mem_cons, List.not_mem_nil, or_false] at isSeparator
  rcases mem_toText member with digit | mark
  · rcases isSeparator with rfl | rfl | rfl <;> cases digit
  · rcases isSeparator with rfl | rfl | rfl <;> exact absurd mark (by decide)

/-- Every time of every day that there is belongs to one instant. The written form of an instant is
read as that instant, with as few groups of three fraction digits as any text that is; it holds no
separator of the canonical form; and what was read of any text is not changed by writing and reading
it again. Different instants have different written forms. -/
theorem toText_exact :
    (∀ c : Civil, c.Exists ↔ ∃! t : Timestamp, t.toCivil = c) ∧
    (∀ t : Timestamp,
      decode (.str t.toText) = .ok t ∧
      fractionDigits t.toText ∈ [0, 3, 6, 9] ∧
      (∀ s, decode (.str s) = .ok t → fractionDigits s ∈ [0, 3, 6, 9] →
        fractionDigits t.toText ≤ fractionDigits s) ∧
      ∀ c ∈ [',', ';', '|'], c ∉ t.toText.toList) ∧
    (∀ s, (do
        let t : Timestamp ← decode (.str s)
        decode (.str t.toText)) = (decode (.str s) : Checked Timestamp)) ∧
    Function.Injective toText := by
  refine ⟨fun c => ⟨fun there => ?_, ?_⟩, fun t => ⟨?_, ?_, fun s read groups => ?_, ?_⟩,
    fun s => ?_, fun a b => toText_inj.mp⟩
  · obtain ⟨t, same⟩ := there.exists_timestamp
    exact ⟨t, same, fun other same' => toCivil_inj (same'.trans same.symm)⟩
  · rintro ⟨t, rfl, _⟩
    exact exists_toCivil t
  · exact decode_eq_ok_iff.mpr (ofText?_toText t)
  · rw [fractionDigits_toText]
    exact fewestDigits_mem _
  · exact fractionDigits_le (decode_eq_ok_iff.mp read) groups
  · exact notMem_toText_of_separator t
  · cases read : (decode (.str s) : Checked Timestamp) with
    | error flaw => rfl
    | ok t =>
      have again : (decode (.str t.toText) : Checked Timestamp) = .ok t :=
        decode_eq_ok_iff.mpr (ofText?_toText t)
      simp only [bind, Except.bind, again]

/-- The middle of the leap second at the end of 2016. -/
def leapSecond : Timestamp :=
  ⟨1483228799, 1500000000, by decide⟩

/-- The same instant as somebody an hour further east may write it. -/
def leapSecondText : String :=
  " 2017 - 1-1 00:59:60.500000 +01 : 00"

theorem toText_exact_of_leapSecond :
    decode (.str leapSecondText) = .ok leapSecond ∧
      fractionDigits leapSecondText ∈ [0, 3, 6, 9] ∧
        fractionDigits leapSecond.toText ≤ fractionDigits leapSecondText ∧
          leapSecond.toText = "2016-12-31T23:59:60.500Z" := by
  have read : decode (.str leapSecondText) = .ok leapSecond :=
    decode_eq_ok_iff.mpr (by decide +kernel)
  have groups : fractionDigits leapSecondText ∈ [0, 3, 6, 9] := by decide +kernel
  obtain ⟨_, _, fewest, _⟩ := toText_exact.2.1 leapSecond
  exact ⟨read, groups, fewest leapSecondText read groups, by decide +kernel⟩

end Timestamp

end EvidenceLedger
