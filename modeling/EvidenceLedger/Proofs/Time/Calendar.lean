import EvidenceLedger.Time.Calendar

/-!
# Days and dates

Day numbers and dates belong together one to one: every day number has a date that there is, and
every date that there is has a day number.

A day is known by its parts: its cycle of four centuries, its year in the cycle, and its month and
its day in that year, which begins in March. Between which bounds these lie is said by `IsDay`, and
everything about the date and about the day number follows from them. That the last day of such a
year is there only in leap years is what makes the date exist. The parts of a day number are unique,
since every part is less than what the next greater one counts.
-/

namespace EvidenceLedger.Calendar.Date

/-- The day of the year with which a month begins, the months counted from March. -/
def monthStart (month : Nat) : Nat := (153 * month + 2) / 5

/-- The day of the cycle with which a year begins. -/
def yearStart (year : Nat) : Nat := 365 * year + year / 4 - year / 100

theorem yearStart_mono {year later : Nat} (le : year ≤ later) :
    yearStart year ≤ yearStart later := by
  induction le with
  | refl => exact Nat.le_refl _
  | step _ ih =>
    apply Nat.le_trans ih
    unfold yearStart
    omega

/-- Is there a day with these parts? -/
structure IsDay (cycle : Int) (year month day : Nat) : Prop where
  inCycle : year < 400
  inYear : day < 365 ∨ day = 365 ∧ isLeapYear (cycle * 400 + year + 1)
  monthOfYear : month ≤ 11
  started : monthStart month ≤ day
  goesOn : day < monthStart (month + 1)

/-- The day number of the parts of a day, counted from the first of March of the year zero. -/
def daysOfParts (cycle : Int) (year day : Nat) : Int :=
  cycle * daysPerCycle + (yearStart year + day : Nat)

/-- The date of the parts of a day. -/
def ofParts (cycle : Int) (year month day : Nat) : Date :=
  if month < 10 then ⟨cycle * 400 + year, month + 3, day - monthStart month + 1⟩
  else ⟨cycle * 400 + year + 1, month - 9, day - monthStart month + 1⟩

variable {cycle : Int} {year month day : Nat}

theorem year_ofParts : (ofParts cycle year month day).year =
    if month < 10 then cycle * 400 + year else cycle * 400 + year + 1 := by
  rw [ofParts]
  split <;> rfl

/-- The parts of a day number. -/
theorem exists_parts (days : Int) :
    ∃ cycle year month day, IsDay cycle year month day ∧
      days + epochOffset = daysOfParts cycle year day ∧
        ofDays days = ofParts cycle year month day := by
  have low : 0 ≤ (days + epochOffset) % daysPerCycle := Int.emod_nonneg _ (by decide)
  have high : (days + epochOffset) % daysPerCycle < daysPerCycle := Int.emod_lt_of_pos _ (by decide)
  obtain ⟨dayOfCycle, isDay⟩ := Int.eq_ofNat_of_zero_le low
  have total :
      days + epochOffset = (days + epochOffset) / daysPerCycle * daysPerCycle + dayOfCycle := by
    rw [← isDay, Int.mul_comm]
    exact (Int.mul_ediv_add_emod _ _).symm
  have bound : dayOfCycle < 146097 := by
    rw [isDay, daysPerCycle] at high
    omega
  obtain ⟨century, isCentury⟩ : ∃ century, century = min (dayOfCycle / 36524) 3 := ⟨_, rfl⟩
  obtain ⟨group, isGroup⟩ : ∃ group, group = (dayOfCycle - 36524 * century) / 1461 := ⟨_, rfl⟩
  obtain ⟨year, isYear⟩ : ∃ year, year = min ((dayOfCycle - 36524 * century) % 1461 / 365) 3 :=
    ⟨_, rfl⟩
  obtain ⟨day, isDayOfYear⟩ :
      ∃ day, day = (dayOfCycle - 36524 * century) % 1461 - 365 * year := ⟨_, rfl⟩
  have quarters : (100 * century + 4 * group + year) / 4 = 25 * century + group := by omega
  have hundreds : (100 * century + 4 * group + year) / 100 = century := by omega
  -- Only a group of four whole years has a day 365, and only the last century ends in one.
  have leap : day < 365 ∨ day = 365 ∧ isLeapYear
      ((days + epochOffset) / daysPerCycle * 400 +
        (100 * century + 4 * group + year : Nat) + 1) := by
    simp only [isLeapYear, Bool.and_eq_true, Bool.or_eq_true, beq_iff_eq, bne_iff_ne]
    omega
  refine ⟨(days + epochOffset) / daysPerCycle, 100 * century + 4 * group + year,
    (5 * day + 2) / 153, day, ⟨by omega, leap, by omega, ?_, ?_⟩, ?_, ?_⟩
  · unfold monthStart
    omega
  · unfold monthStart
    omega
  · refine total.trans (congrArg _ ?_)
    rw [yearStart, quarters, hundreds]
    omega
  · subst isCentury isGroup isYear isDayOfYear
    simp only [ofDays, ofParts, isDay, Int.toNat_natCast, monthStart]

namespace IsDay

/-- The date of the parts has the day number of the parts. -/
theorem toDays_ofParts (isDay : IsDay cycle year month day) :
    (ofParts cycle year month day).toDays + epochOffset = daysOfParts cycle year day := by
  obtain ⟨bound, _, _, start, _⟩ := isDay
  have years : ((cycle * 400 + (year : Int)) % 400).toNat = year := by omega
  have cycles : (cycle * 400 + (year : Int)) / 400 = cycle := by omega
  have dayOfYear : (153 * month + 2) / 5 + (day - monthStart month) = day := by
    unfold monthStart at start ⊢
    omega
  suffices cycle * daysPerCycle + (365 * year + year / 4 - year / 100 +
      ((153 * month + 2) / 5 + (day - monthStart month)) : Nat) - epochOffset + epochOffset =
        daysOfParts cycle year day by
    by_cases early : month < 10
    · have march : ¬ month + 3 ≤ 2 := by omega
      simpa only [ofParts, if_pos early, toDays, if_neg march, years, cycles, Nat.add_sub_cancel]
        using this
    · have january : month - 9 ≤ 2 := by omega
      have counted : month - 9 + 9 = month := by omega
      simpa only [ofParts, if_neg early, toDays, if_pos january, Int.add_sub_cancel, years, cycles,
        counted, Nat.add_sub_cancel] using this
  rw [dayOfYear, Int.sub_add_cancel]
  rfl

/-- The date of the parts exists. -/
theorem isValid_ofParts (isDay : IsDay cycle year month day) :
    (ofParts cycle year month day).isValid := by
  obtain ⟨_, last, m, start, ending⟩ := isDay
  have twelve : month = 0 ∨ month = 1 ∨ month = 2 ∨ month = 3 ∨ month = 4 ∨ month = 5 ∨
      month = 6 ∨ month = 7 ∨ month = 8 ∨ month = 9 ∨ month = 10 ∨ month = 11 := by omega
  rcases twelve with rfl | rfl | rfl | rfl | rfl | rfl | rfl | rfl | rfl | rfl | rfl | rfl <;>
    simp [ofParts, isValid, daysInMonth, monthStart] at start ending ⊢
  case inr.inr.inr.inr.inr.inr.inr.inr.inr.inr.inr =>
    rcases last with common | ⟨_, leap⟩
    · split <;> omega
    · rw [if_pos leap]
      omega
  all_goals omega

/-- A day comes before all later years of its cycle. -/
theorem lt_yearStart (isDay : IsDay cycle year month day) {later : Nat} (less : year < later)
    (inCycle : later < 400) : yearStart year + day < yearStart later := by
  have last := isDay.inYear
  simp only [isLeapYear, Bool.and_eq_true, Bool.or_eq_true, beq_iff_eq, bne_iff_ne] at last
  have next : yearStart year + day < yearStart (year + 1) := by
    unfold yearStart
    omega
  exact Nat.lt_of_lt_of_le next (yearStart_mono less)

theorem lt_daysPerCycle (isDay : IsDay cycle year month day) :
    (yearStart year + day : Nat) < daysPerCycle := by
  have bound := isDay.inCycle
  have last : day ≤ 365 := by
    rcases isDay.inYear with common | ⟨leap, _⟩
    · exact Nat.le_of_lt common
    · exact Nat.le_of_eq leap
  unfold yearStart daysPerCycle
  omega

/-- Days with the same day number have the same parts. -/
theorem unique {cycle' : Int} {year' month' day' : Nat} (isDay : IsDay cycle year month day)
    (isDay' : IsDay cycle' year' month' day')
    (same : daysOfParts cycle year day = daysOfParts cycle' year' day') :
    cycle = cycle' ∧ year = year' ∧ month = month' ∧ day = day' := by
  have sameCycle : cycle = cycle' := by
    have bound := isDay.lt_daysPerCycle
    have bound' := isDay'.lt_daysPerCycle
    unfold daysOfParts at same
    unfold daysPerCycle at bound bound' same
    omega
  have sameDay : yearStart year + day = yearStart year' + day' := by
    unfold daysOfParts at same
    rw [sameCycle] at same
    omega
  have sameYear : year = year' := by
    rcases Nat.lt_trichotomy year year' with earlier | same | later
    · have before := isDay.lt_yearStart earlier isDay'.inCycle
      omega
    · exact same
    · have before := isDay'.lt_yearStart later isDay.inCycle
      omega
  have sameDayOfYear : day = day' := by
    rw [sameYear] at sameDay
    exact Nat.add_left_cancel sameDay
  refine ⟨sameCycle, sameYear, ?_, sameDayOfYear⟩
  have months := And.intro isDay.started isDay.goesOn
  have months' := And.intro isDay'.started isDay'.goesOn
  unfold monthStart at months months'
  omega

end IsDay

/-- The months that begin in March are as long as those of the calendar, but for February. -/
theorem monthStart_add_daysInMonth (y : Int) {m : Nat} (march : 3 ≤ m) (december : m ≤ 12) :
    monthStart (m - 3) + daysInMonth y m = monthStart (m - 3 + 1) := by
  have ten : m = 3 ∨ m = 4 ∨ m = 5 ∨ m = 6 ∨ m = 7 ∨ m = 8 ∨ m = 9 ∨ m = 10 ∨ m = 11 ∨ m = 12 := by
    omega
  rcases ten with rfl | rfl | rfl | rfl | rfl | rfl | rfl | rfl | rfl | rfl <;> rfl

theorem le_daysInMonth_of_le_two {y : Int} {m d : Nat} (first : 1 ≤ m) (early : m ≤ 2)
    (last : d ≤ daysInMonth y m) :
    m = 1 ∧ d ≤ 31 ∨ m = 2 ∧ (d ≤ 28 ∨ d = 29 ∧ isLeapYear y) := by
  have two : m = 1 ∨ m = 2 := by omega
  rcases two with rfl | rfl
  · exact .inl ⟨rfl, last⟩
  · refine .inr ⟨rfl, ?_⟩
    simp only [daysInMonth] at last
    split at last
    · next leap => exact (Nat.lt_or_eq_of_le last).imp Nat.le_of_lt_succ fun same => ⟨same, leap⟩
    · exact .inl last

/-- Every date that there is has parts. -/
theorem exists_parts_of_isValid {date : Date} (valid : date.isValid) :
    ∃ cycle year month day, IsDay cycle year month day ∧ date = ofParts cycle year month day := by
  obtain ⟨y, m, d⟩ := date
  simp only [isValid, Bool.and_eq_true, decide_eq_true_eq] at valid
  obtain ⟨⟨⟨firstMonth, lastMonth⟩, firstDay⟩, lastDay⟩ := valid
  by_cases early : m ≤ 2
  · have whole : (y - 1) / 400 * 400 + (((y - 1) % 400).toNat : Int) + 1 = y := by omega
    have last : m = 1 ∧ d ≤ 31 ∨ m = 2 ∧ (d ≤ 28 ∨ d = 29 ∧ isLeapYear y) :=
      le_daysInMonth_of_le_two firstMonth early lastDay
    refine ⟨(y - 1) / 400, ((y - 1) % 400).toNat, m + 9, monthStart (m + 9) + (d - 1),
      ⟨by omega, ?_, by omega, Nat.le_add_right _ _, ?_⟩, ?_⟩
    · rw [whole]
      rcases last with ⟨rfl, short⟩ | ⟨rfl, common | ⟨rfl, leap⟩⟩
      · exact .inl (show 306 + (d - 1) < 365 by omega)
      · exact .inl (show 337 + (d - 1) < 365 by omega)
      · exact .inr ⟨rfl, leap⟩
    · unfold monthStart
      omega
    · have late : ¬m + 9 < 10 := by omega
      rw [ofParts, if_neg late, whole, Date.mk.injEq]
      omega
  · have whole : y / 400 * 400 + ((y % 400).toNat : Int) = y := by omega
    have length := monthStart_add_daysInMonth y (show 3 ≤ m by omega) lastMonth
    have last : monthStart (m - 3 + 1) ≤ 337 := by
      unfold monthStart
      omega
    refine ⟨y / 400, (y % 400).toNat, m - 3, monthStart (m - 3) + (d - 1),
      ⟨by omega, .inl (by omega), by omega, Nat.le_add_right _ _, by omega⟩, ?_⟩
    have march : m - 3 < 10 := by omega
    rw [ofParts, if_pos march, whole, Date.mk.injEq]
    omega

/-- The date of a day number is that of no other one. -/
@[simp] theorem toDays_ofDays (days : Int) : (ofDays days).toDays = days := by
  obtain ⟨cycle, year, month, day, isDay, sum, date⟩ := exists_parts days
  have same := isDay.toDays_ofParts
  rw [date]
  omega

/-- A day number gives a date that there is. -/
theorem isValid_ofDays (days : Int) : (ofDays days).isValid := by
  obtain ⟨cycle, year, month, day, isDay, _, date⟩ := exists_parts days
  rw [date]
  exact isDay.isValid_ofParts

/-- The day number of a date that there is belongs to no other date. -/
theorem ofDays_toDays {date : Date} (valid : date.isValid) : ofDays date.toDays = date := by
  obtain ⟨cycle, year, month, day, isDay, rfl⟩ := exists_parts_of_isValid valid
  obtain ⟨cycle', year', month', day', isDay', sum, same⟩ :=
    exists_parts (ofParts cycle year month day).toDays
  rw [isDay.toDays_ofParts] at sum
  obtain ⟨rfl, rfl, rfl, rfl⟩ := isDay.unique isDay' sum
  exact same

/-- The days of the years between the first and the last one. -/
theorem toDays_bounds {date : Date} (valid : date.isValid) (first : -262143 ≤ date.year)
    (last : date.year ≤ 262142) : -96465292 ≤ date.toDays ∧ date.toDays ≤ 95026236 := by
  obtain ⟨cycle, year, month, day, isDay, rfl⟩ := exists_parts_of_isValid valid
  have sum := isDay.toDays_ofParts
  have ofYear := isDay.lt_daysPerCycle
  obtain ⟨bound, _, m, start, ending⟩ := isDay
  rw [year_ofParts] at first last
  unfold daysOfParts at sum
  unfold epochOffset at sum
  unfold daysPerCycle at sum ofYear
  unfold monthStart at start ending
  constructor
  · have low : -656 < cycle ∨ cycle = -656 ∧ 256 ≤ year ∧ (month < 10 → 257 ≤ year) := by
      split at first <;> omega
    rcases low with later | ⟨rfl, le, march⟩
    · omega
    · by_cases early : month < 10
      · have began : 93867 ≤ yearStart year := yearStart_mono (march early)
        omega
      · have began : 93502 ≤ yearStart year := yearStart_mono le
        omega
  · have high : cycle < 655 ∨ cycle = 655 ∧ year ≤ 142 ∧ (10 ≤ month → year ≤ 141) := by
      split at last <;> omega
    rcases high with earlier | ⟨rfl, le, march⟩
    · omega
    · by_cases early : month < 10
      · have began : yearStart year ≤ 51864 := yearStart_mono le
        omega
      · have began : yearStart year ≤ 51499 := yearStart_mono (march (Nat.le_of_not_lt early))
        omega

/-- The years of the days between the first and the last second. -/
theorem year_ofDays {days : Int} (first : -96465292 ≤ days) (last : days ≤ 95026236) :
    -262143 ≤ (ofDays days).year ∧ (ofDays days).year ≤ 262142 := by
  obtain ⟨cycle, year, month, day, ⟨bound, _, m, start, ending⟩, sum, date⟩ := exists_parts days
  unfold daysOfParts at sum
  have firstCycle : cycle = -656 ∨ -655 ≤ cycle := by
    unfold epochOffset daysPerCycle yearStart at sum
    omega
  have lastCycle : cycle = 655 ∨ cycle ≤ 654 := by
    unfold epochOffset daysPerCycle yearStart at sum
    omega
  have low : -262144 ≤ cycle * 400 + year ∧ (month < 10 → -262143 ≤ cycle * 400 + year) := by
    rcases firstCycle with rfl | later
    · unfold epochOffset daysPerCycle yearStart at sum
      unfold monthStart at ending
      omega
    · omega
  have high : cycle * 400 + year ≤ 262142 ∧ (10 ≤ month → cycle * 400 + year ≤ 262141) := by
    rcases lastCycle with rfl | earlier
    · unfold epochOffset daysPerCycle yearStart at sum
      unfold monthStart at start
      omega
    · omega
  rw [date, year_ofParts]
  split <;> omega

end EvidenceLedger.Calendar.Date
