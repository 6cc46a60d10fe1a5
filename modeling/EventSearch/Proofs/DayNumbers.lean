/-
# `EventSearch.Proofs.DayNumbers` — dates and day numbers are one calendar

`Date.toDays` and `Date.ofDays` are inverse to each other: every day number is the number of a
valid date (`ofDays_isValid`, `toDays_ofDays`), and a valid date is found again from its number
(`ofDays_toDays`).  The second half rests on the order: a later date has a larger number
(`toDays_lt_toDays`).

Both conversions count years from March, so the lemmas do too.  `marchYear` and `dayOfMarchYear`
are the two coordinates, and a date is told by them alone.
-/
import EventSearch.Calendar.Date

namespace EventSearch.Calendar.Date

/-! ## Years that begin in March -/

/-- The year of a date when years begin in March. -/
def marchYear (d : Date) : Int := if d.month ≤ 2 then d.year - 1 else d.year

/-- Months since March. -/
def marchMonth (d : Date) : Int := if d.month ≤ 2 then d.month + 9 else d.month - 3

/-- Days since the first of March. -/
def dayOfMarchYear (d : Date) : Int := (153 * d.marchMonth + 2) / 5 + d.day - 1

/-- Days from 0000-03-01 to the first of March of a year. -/
def daysBefore (y : Int) : Int := 365 * y + y / 4 - y / 100 + y / 400

theorem toDays_eq (d : Date) :
    d.toDays = daysBefore d.marchYear + d.dayOfMarchYear - epochShift := by
  have hyear : d.marchYear = 400 * (d.marchYear / 400) + d.marchYear % 400 := by omega
  show d.marchYear / 400 * 146097 + (d.marchYear % 400 * 365 + d.marchYear % 400 / 4 -
    d.marchYear % 400 / 100 + d.dayOfMarchYear) - epochShift = _
  unfold daysBefore
  omega

theorem daysBefore_lt {y y' : Int} (h : y < y') : daysBefore y + 365 ≤ daysBefore y' := by
  unfold daysBefore
  omega

theorem daysBefore_le (y : Int) : daysBefore y ≤ daysBefore (y - 1) + 366 := by
  unfold daysBefore
  omega

/-- The calendar repeats every 400 years. -/
theorem daysBefore_add_era (y era : Int) :
    daysBefore (y + era * 400) = daysBefore y + era * 146097 := by
  have hfour : (y + era * 400) / 4 = y / 4 + era * 100 := by omega
  have hhundred : (y + era * 400) / 100 = y / 100 + era * 4 := by omega
  have hall : (y + era * 400) / 400 = y / 400 + era := by omega
  unfold daysBefore
  rw [hfour, hhundred, hall]
  omega

/-- The leap day is the last day of a March year. -/
theorem monthLength_february (y : Int) :
    (monthLength y 2 : Int) = daysBefore y - daysBefore (y - 1) - 337 := by
  simp only [monthLength, daysBefore, isLeapYear, if_true, Bool.and_eq_true, Bool.or_eq_true,
    decide_eq_true_eq]
  split <;> omega

/-! ## Valid dates -/

theorem isValid_iff {d : Date} :
    d.isValid = true ↔
      1 ≤ d.month ∧ d.month ≤ 12 ∧ 1 ≤ d.day ∧ d.day ≤ monthLength d.year d.month := by
  simp only [isValid, Bool.and_eq_true, decide_eq_true_eq]
  omega

/-- The days of a month end where the next month begins, those of February with the year. -/
theorem dayOfMarchYear_lt {d : Date} (h : d.isValid = true) :
    d.dayOfMarchYear < (153 * (d.marchMonth + 1) + 2) / 5 ∧
      d.dayOfMarchYear < daysBefore (d.marchYear + 1) - daysBefore d.marchYear := by
  obtain ⟨hm, hm', -, hday⟩ := isValid_iff.mp h
  obtain ⟨y, m, day⟩ := d
  have hyear := daysBefore_lt (show marchYear ⟨y, m, day⟩ < marchYear ⟨y, m, day⟩ + 1 by omega)
  have hmonth : m = 2 ∨ m = 1 ∨ m = 3 ∨ m = 4 ∨ m = 5 ∨ m = 6 ∨ m = 7 ∨ m = 8 ∨ m = 9 ∨
      m = 10 ∨ m = 11 ∨ m = 12 := by
    simp only at hm hm'
    omega
  rcases hmonth with rfl | hmonth
  · have hfebruary := monthLength_february y
    have hlong := daysBefore_le y
    simp [dayOfMarchYear, marchMonth, marchYear] at hday hyear ⊢
    omega
  · rcases hmonth with rfl | rfl | rfl | rfl | rfl | rfl | rfl | rfl | rfl | rfl | rfl <;>
      simp [dayOfMarchYear, marchMonth, marchYear, monthLength] at hday hyear ⊢ <;> omega

theorem marchMonth_bounds {d : Date} (h : d.isValid = true) :
    0 ≤ d.marchMonth ∧ d.marchMonth ≤ 11 := by
  obtain ⟨hm, hm', -, -⟩ := isValid_iff.mp h
  unfold marchMonth
  split <;> omega

theorem dayOfMarchYear_nonneg {d : Date} (h : d.isValid = true) :
    (153 * d.marchMonth + 2) / 5 ≤ d.dayOfMarchYear ∧ 0 ≤ d.dayOfMarchYear := by
  obtain ⟨-, -, hday, -⟩ := isValid_iff.mp h
  have hm := (marchMonth_bounds h).1
  unfold dayOfMarchYear
  omega

/-! ## The order of dates -/

/-- Earlier by year, then month, then day. -/
def Before (a b : Date) : Prop :=
  a.year < b.year ∨ a.year = b.year ∧ (a.month < b.month ∨ a.month = b.month ∧ a.day < b.day)

/-- A later date has a larger day number. -/
theorem toDays_lt_toDays {a b : Date} (ha : a.isValid = true) (hb : b.isValid = true)
    (h : a.Before b) : a.toDays < b.toDays := by
  have ⟨hend, hyear⟩ := dayOfMarchYear_lt ha
  have ⟨hstart, hnonneg⟩ := dayOfMarchYear_nonneg hb
  have hma := (isValid_iff.mp ha).2.1
  have hmb := (isValid_iff.mp hb).1
  rw [toDays_eq, toDays_eq]
  -- either a March year lies between the two, or the March months decide, or the days do
  have hcases : a.marchYear < b.marchYear ∨ a.marchYear = b.marchYear ∧
      (a.marchMonth < b.marchMonth ∨ a.marchMonth = b.marchMonth ∧ a.day < b.day) := by
    unfold Before at h
    unfold marchYear marchMonth
    split <;> split <;> omega
  rcases hcases with hlt | ⟨heq, hlt | ⟨hmonth, hday⟩⟩
  · have hmono : daysBefore (a.marchYear + 1) ≤ daysBefore b.marchYear := by
      rcases Int.lt_or_eq_of_le (show a.marchYear + 1 ≤ b.marchYear from hlt) with hlt' | heq
      · have := daysBefore_lt hlt'
        omega
      · exact Int.le_of_eq (congrArg daysBefore heq)
    omega
  · rw [heq]
    omega
  · rw [heq]
    unfold dayOfMarchYear
    rw [hmonth]
    omega

theorem before_trichotomy (a b : Date) : a.Before b ∨ a = b ∨ b.Before a := by
  obtain ⟨y, m, d⟩ := a
  obtain ⟨y', m', d'⟩ := b
  simp only [Before, mk.injEq]
  omega

/-- Different dates have different numbers. -/
theorem toDays_injective {a b : Date} (ha : a.isValid = true) (hb : b.isValid = true)
    (h : a.toDays = b.toDays) : a = b := by
  rcases before_trichotomy a b with hlt | heq | hgt
  · have := toDays_lt_toDays ha hb hlt
    omega
  · exact heq
  · have := toDays_lt_toDays hb ha hgt
    omega

/-! ## From numbers back to dates -/

/-- The year of an era that one of its days falls in, years and days counted from 0. -/
def yearOfEra (day : Int) : Int := (day - day / 1460 + day / 36524 - day / 146096) / 365

theorem yearOfEra_bounds {day : Int} (h : 0 ≤ day ∧ day < 146097) :
    (0 ≤ yearOfEra day ∧ yearOfEra day < 400) ∧
      365 * yearOfEra day + yearOfEra day / 4 - yearOfEra day / 100 ≤ day ∧
      day < 365 * (yearOfEra day + 1) + (yearOfEra day + 1) / 4 - (yearOfEra day + 1) / 100 +
        (yearOfEra day + 1) / 400 := by
  generalize hy : yearOfEra day = y
  unfold yearOfEra at hy
  have hcentury : day / 36524 = 0 ∨ day / 36524 = 1 ∨ day / 36524 = 2 ∨ day / 36524 = 3 ∨
      day = 146096 := by omega
  -- the division counts four years in 1460 days, and is off by a year at most
  have hoff : y - 4 * (day / 1460) = -1 ∨ y - 4 * (day / 1460) = 0 ∨ y - 4 * (day / 1460) = 1 ∨
      y - 4 * (day / 1460) = 2 ∨ y - 4 * (day / 1460) = 3 ∨ y - 4 * (day / 1460) = 4 := by omega
  rcases hcentury with h | h | h | h | rfl <;> rcases hoff with h' | h' | h' | h' | h' | h' <;>
    omega

theorem dayOfEra_bounds (n : Int) :
    0 ≤ (n + epochShift) % 146097 ∧ (n + epochShift) % 146097 < 146097 := by
  omega

/-- The March year of a day number. -/
def yearOfDay (n : Int) : Int :=
  yearOfEra ((n + epochShift) % 146097) + (n + epochShift) / 146097 * 400

/-- A day number lies in the March year found for it. -/
theorem yearOfDay_bounds (n : Int) :
    daysBefore (yearOfDay n) ≤ n + epochShift ∧ n + epochShift < daysBefore (yearOfDay n + 1) := by
  have ⟨⟨hy, hy'⟩, hlow, hhigh⟩ :=
    yearOfEra_bounds (dayOfEra_bounds n)
  have hnext : yearOfDay n + 1 =
      yearOfEra ((n + epochShift) % 146097) + 1 + (n + epochShift) / 146097 * 400 := by
    unfold yearOfDay
    omega
  rw [hnext, yearOfDay, daysBefore_add_era, daysBefore_add_era]
  unfold daysBefore
  omega

/-- The date on a day of a March year. -/
def ofMarch (y day : Int) : Date :=
  let month := (5 * day + 2) / 153
  let dayOfMonth := day - (153 * month + 2) / 5 + 1
  if month < 10 then ⟨y, (month + 3).toNat, dayOfMonth.toNat⟩
  else ⟨y + 1, (month - 9).toNat, dayOfMonth.toNat⟩

theorem ofDays_eq (n : Int) :
    ofDays n = ofMarch (yearOfDay n) (n + epochShift - daysBefore (yearOfDay n)) := by
  have ⟨⟨hy, hy'⟩, _⟩ := yearOfEra_bounds (dayOfEra_bounds n)
  have hday : n + epochShift - daysBefore (yearOfDay n) = (n + epochShift) % 146097 -
      (365 * yearOfEra ((n + epochShift) % 146097) +
        yearOfEra ((n + epochShift) % 146097) / 4 -
        yearOfEra ((n + epochShift) % 146097) / 100) := by
    rw [yearOfDay, daysBefore_add_era]
    unfold daysBefore
    omega
  rw [hday]
  rfl

theorem marchYear_ofMarch {y day : Int} (h : 0 ≤ day) (h' : day ≤ 365) :
    (ofMarch y day).marchYear = y ∧ (ofMarch y day).dayOfMarchYear = day := by
  unfold ofMarch
  simp only [marchYear, dayOfMarchYear, marchMonth]
  split <;> simp only <;> split <;> omega

/-- A day number is the number of its date. -/
theorem toDays_ofDays (n : Int) : (ofDays n).toDays = n := by
  have ⟨hlow, hhigh⟩ := yearOfDay_bounds n
  have hlong := daysBefore_le (yearOfDay n + 1)
  rw [Int.add_sub_cancel] at hlong
  have ⟨hyear, hday⟩ := marchYear_ofMarch (y := yearOfDay n)
    (show 0 ≤ n + epochShift - daysBefore (yearOfDay n) by omega) (by omega)
  rw [toDays_eq, ofDays_eq, hyear, hday]
  omega

theorem ofMarch_isValid {y day : Int} (h : 0 ≤ day) (h' : day < daysBefore (y + 1) - daysBefore y) :
    (ofMarch y day).isValid = true := by
  have hlong := daysBefore_le (y + 1)
  have hfebruary := monthLength_february (y + 1)
  rw [Int.add_sub_cancel] at hlong hfebruary
  rw [isValid_iff]
  have hmonth : (5 * day + 2) / 153 = 11 ∨ (5 * day + 2) / 153 = 0 ∨ (5 * day + 2) / 153 = 1 ∨
      (5 * day + 2) / 153 = 2 ∨ (5 * day + 2) / 153 = 3 ∨ (5 * day + 2) / 153 = 4 ∨
      (5 * day + 2) / 153 = 5 ∨ (5 * day + 2) / 153 = 6 ∨ (5 * day + 2) / 153 = 7 ∨
      (5 * day + 2) / 153 = 8 ∨ (5 * day + 2) / 153 = 9 ∨ (5 * day + 2) / 153 = 10 := by omega
  rcases hmonth with hm | hmonth
  · -- February, as long as the year allows
    simp [ofMarch, hm]
    omega
  · rcases hmonth with hm | hm | hm | hm | hm | hm | hm | hm | hm | hm | hm <;>
      simp [ofMarch, hm, monthLength] <;> omega

/-- Every day number is that of a valid date. -/
theorem ofDays_isValid (n : Int) : (ofDays n).isValid = true := by
  have ⟨hlow, hhigh⟩ := yearOfDay_bounds n
  rw [ofDays_eq]
  exact ofMarch_isValid (by omega) (by omega)

/-- A valid date is found again from its number. -/
theorem ofDays_toDays {d : Date} (h : d.isValid = true) : ofDays d.toDays = d :=
  toDays_injective (ofDays_isValid _) h (toDays_ofDays _)

end EventSearch.Calendar.Date
