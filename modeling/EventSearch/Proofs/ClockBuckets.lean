/-
# `EventSearch.Proofs.ClockBuckets` — buckets on the clock

What `TimeUnit.floor` means for the reading it is given: it goes back (`floor_seconds_le`), and no
further than one unit (`lt_later_floor`).  Both are statements about readings alone; where the
zone puts a reading among the instants is the subject of `EventSearch.Proofs.ZoneReadings`.
-/
import EventSearch.Calendar.TimeUnit
import EventSearch.Proofs.DayNumbers

namespace EventSearch.Calendar

namespace Clock

/-! ## A reading by its date and second of the day -/

theorem secondOfDay_lt (t : Clock) : t.secondOfDay < 86400 := by
  unfold secondOfDay
  omega

theorem seconds_eq (t : Clock) : t.seconds = t.date.toDays * 86400 + t.secondOfDay := by
  rw [date, Date.toDays_ofDays]
  unfold dayNumber secondOfDay
  omega

theorem date_isValid (t : Clock) : t.date.isValid = true := Date.ofDays_isValid _

theorem date_ofDate {d : Date} (h : d.isValid = true) {second : Nat} (hs : second < 86400)
    (nanos : Nat) : (ofDate d second nanos).date = d := by
  have hday : (d.toDays * 86400 + second) / 86400 = d.toDays := by omega
  show Date.ofDays ((d.toDays * 86400 + second) / 86400) = d
  rw [hday]
  exact Date.ofDays_toDays h

/-- The parts of a second of the day. -/
theorem secondOfDay_eq (t : Clock) : t.secondOfDay = t.hour * 3600 + t.minute * 60 + t.second := by
  unfold hour minute second
  omega

theorem hour_lt (t : Clock) : t.hour < 24 := by
  have h := t.secondOfDay_lt
  unfold hour
  omega

theorem minute_lt (t : Clock) : t.minute < 60 := by
  unfold minute
  omega

theorem second_lt (t : Clock) : t.second < 60 := by
  unfold second
  omega

/-! ## Years in use -/

/-- A later reading is not of an earlier year. -/
theorem year_le {a b : Clock} (h : a.seconds ≤ b.seconds) : a.date.year ≤ b.date.year := by
  refine Int.not_lt.1 fun hlt => ?_
  have hdays := Date.toDays_lt_toDays b.date_isValid a.date_isValid (.inl hlt)
  have ha := a.seconds_eq
  have hb := b.seconds_eq
  have hsecond := b.secondOfDay_lt
  omega

theorem inRange_iff {c : Clock} :
    c.inRange = true ↔ minYear ≤ c.date.year ∧ c.date.year ≤ maxYear := by
  rw [inRange, Date.inRange, Bool.and_eq_true, decide_eq_true_eq, decide_eq_true_eq]

/-- A reading between two readings in use is in use. -/
theorem inRange_of_between {a b c : Clock} (ha : a.inRange = true) (hb : b.inRange = true)
    (hac : a.seconds ≤ c.seconds) (hcb : c.seconds ≤ b.seconds) : c.inRange = true := by
  rw [inRange_iff] at *
  have hlow := year_le hac
  have hhigh := year_le hcb
  omega

/-! ## Moving by seconds -/

/-- Forward by whole seconds, leap second or not. -/
theorem addSeconds_seconds {t : Clock} {n : Int} (h : 0 < n) :
    (t.addSeconds n).seconds = t.seconds + n := by
  unfold addSeconds
  split
  · omega
  · split
    · rfl
    · rfl

theorem addSeconds_of_nanos {t : Clock} (h : t.nanos = 0) (n : Int) :
    t.addSeconds n = ⟨t.seconds + n, 0⟩ := by
  obtain ⟨seconds, nanos⟩ := t
  simp only at h
  subst h
  unfold addSeconds
  split
  · simp_all
  · exact if_pos (by decide : 0 < billion)

/-- One second back from a leap second is the second it extends. -/
theorem addSeconds_neg_one (t : Clock) :
    (t.addSeconds (-1)).seconds = t.seconds - 1 ∨ (t.addSeconds (-1)).seconds = t.seconds := by
  unfold addSeconds
  rw [if_neg (by decide)]
  split
  · exact .inl rfl
  · rw [if_neg (by decide)]
    right
    show t.seconds + 1 + -1 = t.seconds
    omega

/-! ## Moving by months -/

/-- Where `addMonths?` arrives: the same day of that month, or its last. -/
theorem addMonths?_eq_some {d d' : Date} {count : Nat} (h : d.addMonths? count = some d') :
    d'.isValid = true ∧ d'.year = (d.year * 12 + (d.month - 1 : Nat) + count) / 12 ∧
      (d'.month : Int) = (d.year * 12 + (d.month - 1 : Nat) + count) % 12 + 1 := by
  simp only [Date.addMonths?, Date.ofYmd?] at h
  split at h
  case isFalse => exact nomatch h
  case isTrue hok =>
    simp only [Bool.and_eq_true] at hok
    simp only [Option.some.injEq] at h
    subst h
    refine ⟨hok.1, rfl, ?_⟩
    simp only
    omega

/-- Some months later is later. -/
theorem before_addMonths? {d d' : Date} (hd : d.isValid = true) {count : Nat} (hcount : 0 < count)
    (h : d.addMonths? count = some d') : d.Before d' := by
  obtain ⟨-, hyear, hmonth⟩ := addMonths?_eq_some h
  have ⟨hm, hm', _⟩ := Date.isValid_iff.mp hd
  unfold Date.Before
  omega

theorem addMonths?_seconds {t t' : Clock} {count : Nat} (hcount : 0 < count)
    (h : t.addMonths? count = some t') : t.seconds < t'.seconds := by
  unfold addMonths? at h
  obtain ⟨d, hd, rfl⟩ := Option.map_eq_some_iff.mp h
  have hlt := Date.toDays_lt_toDays t.date_isValid (addMonths?_eq_some hd).1
    (before_addMonths? t.date_isValid hcount hd)
  rw [t.seconds_eq]
  show _ < d.toDays * 86400 + t.secondOfDay
  have := t.secondOfDay_lt
  omega

end Clock

namespace TimeUnit

open Clock

/-! ## The first reading of a bucket -/

theorem floor_nanos (u : TimeUnit) (t : Clock) : (u.floor t).nanos = 0 := by
  cases u <;> rfl

/-- The first day of the month of a valid date. -/
theorem firstOfMonth_isValid {d : Date} (h : d.isValid = true) :
    (⟨d.year, d.month, 1⟩ : Date).isValid = true := by
  have ⟨hm, hm', hday, hlast⟩ := Date.isValid_iff.mp h
  exact Date.isValid_iff.mpr ⟨hm, hm', Nat.le_refl 1, Nat.le_trans hday hlast⟩

theorem firstOfYear_isValid (y : Int) : (⟨y, 1, 1⟩ : Date).isValid = true := by
  refine Date.isValid_iff.mpr ⟨Nat.le_refl 1, by simp only; omega, Nat.le_refl 1, ?_⟩
  simp [monthLength]

/-- A date is not before another, so neither is its day number. -/
theorem toDays_le_toDays {a b : Date} (ha : a.isValid = true) (hb : b.isValid = true)
    (h : ¬ b.Before a) : a.toDays ≤ b.toDays := by
  rcases Date.before_trichotomy a b with hlt | heq | hgt
  · exact Int.le_of_lt (Date.toDays_lt_toDays ha hb hlt)
  · exact Int.le_of_eq (congrArg Date.toDays heq)
  · exact absurd hgt h

/-- The first reading of a bucket is no later than any in it. -/
theorem floor_seconds_le (u : TimeUnit) (t : Clock) : (u.floor t).seconds ≤ t.seconds := by
  have hvalid := t.date_isValid
  have ⟨hm, _, hd, _⟩ := Date.isValid_iff.mp hvalid
  rw [t.seconds_eq]
  have hsecond := t.secondOfDay_eq
  cases u with
  | year =>
    have hle := toDays_le_toDays (firstOfYear_isValid t.date.year) hvalid (by
      simp only [Date.Before]
      omega)
    show _ * 86400 + ((0 : Nat) : Int) ≤ _
    omega
  | month =>
    have hle := toDays_le_toDays (firstOfMonth_isValid hvalid) hvalid (by
      simp only [Date.Before]
      omega)
    show _ * 86400 + ((0 : Nat) : Int) ≤ _
    omega
  | day =>
    show _ * 86400 + ((0 : Nat) : Int) ≤ _
    omega
  | hour =>
    show _ * 86400 + ((t.hour * 3600 : Nat) : Int) ≤ _
    omega
  | minute =>
    show _ * 86400 + ((t.hour * 3600 + t.minute * 60 : Nat) : Int) ≤ _
    omega

/-! ## The first reading of the next bucket -/

/-- The reading one unit later. -/
def later? : TimeUnit → Clock → Option Clock
  | .year, c => c.addMonths? 12
  | .month, c => c.addMonths? 1
  | .day, c => c.addSeconds? 86400
  | .hour, c => c.addSeconds? 3600
  | .minute, c => c.addSeconds? 60

theorem addSeconds?_eq_some {c n : Clock} {k : Int} (h : c.addSeconds? k = some n) :
    n = c.addSeconds k := by
  simp only [Clock.addSeconds?] at h
  split at h
  · exact (Option.some.inj h).symm
  · exact nomatch h

theorem later?_seconds {u : TimeUnit} {c n : Clock} (h : u.later? c = some n) :
    c.seconds < n.seconds := by
  cases u with
  | year => exact addMonths?_seconds (by decide) h
  | month => exact addMonths?_seconds (by decide) h
  | day | hour | minute =>
    rw [addSeconds?_eq_some h, addSeconds_seconds (by decide)]
    omega

theorem later?_nanos {u : TimeUnit} {c n : Clock} (hc : c.nanos = 0) (h : u.later? c = some n) :
    n.nanos = 0 := by
  cases u with
  | year | month =>
    obtain ⟨d, -, rfl⟩ := Option.map_eq_some_iff.mp h
    exact hc
  | day | hour | minute =>
    rw [addSeconds?_eq_some h, addSeconds_of_nanos hc]

/-- An hour and a minute are as long on the clock as they last. -/
theorem lt_floor_add {u : TimeUnit} (hu : u = .hour ∨ u = .minute) (c : Clock) :
    c.seconds < (u.floor c).seconds + u.approxSeconds := by
  have hsecond := c.secondOfDay_eq
  have hseconds := c.seconds_eq
  have hlast := c.second_lt
  rcases hu with rfl | rfl
  · have hminute := c.minute_lt
    show _ < c.date.toDays * 86400 + ((c.hour * 3600 : Nat) : Int) + 3600
    omega
  · show _ < c.date.toDays * 86400 + ((c.hour * 3600 + c.minute * 60 : Nat) : Int) + 60
    omega

/-- The next bucket begins after every reading of a bucket. -/
theorem lt_later_floor {u : TimeUnit} {c n : Clock} (h : u.later? (u.floor c) = some n) :
    c.seconds < n.seconds := by
  have hvalid := c.date_isValid
  have hm := Date.isValid_iff.mp hvalid
  have hlt := c.secondOfDay_lt
  have hseconds := c.seconds_eq
  cases u with
  | year =>
    obtain ⟨d, hd, rfl⟩ := Option.map_eq_some_iff.mp h
    rw [floor, date_ofDate (firstOfYear_isValid _) (by decide)] at hd
    obtain ⟨hdvalid, hyear, -⟩ := addMonths?_eq_some hd
    have hbefore := Date.toDays_lt_toDays hvalid hdvalid (by
      unfold Date.Before
      simp only at hyear
      omega)
    show _ < d.toDays * 86400 + _
    omega
  | month =>
    obtain ⟨d, hd, rfl⟩ := Option.map_eq_some_iff.mp h
    rw [floor, date_ofDate (firstOfMonth_isValid hvalid) (by decide)] at hd
    obtain ⟨hdvalid, hyear, hmonth⟩ := addMonths?_eq_some hd
    have hbefore := Date.toDays_lt_toDays hvalid hdvalid (by
      unfold Date.Before
      simp only at hyear hmonth
      omega)
    show _ < d.toDays * 86400 + _
    omega
  | day =>
    rw [addSeconds?_eq_some h, addSeconds_seconds (by decide)]
    show _ < c.date.toDays * 86400 + ((0 : Nat) : Int) + 86400
    omega
  | hour =>
    rw [addSeconds?_eq_some h, addSeconds_seconds (by decide)]
    exact lt_floor_add (.inl rfl) c
  | minute =>
    rw [addSeconds?_eq_some h, addSeconds_seconds (by decide)]
    exact lt_floor_add (.inr rfl) c

end TimeUnit

end EventSearch.Calendar
