/-
# `EventSearch.Proofs.BucketWindow` — when the window of a bucket holds an instant

The window of a bucket runs from `TimeUnit.truncate` to `Step.bucketEnd?`.  It is meant to hold
every instant of the bucket, and in a fixed zone it does.  In a named zone it need not: where
clocks are set back an hour the bucket of that hour is two hours long and its window one, and
where they skip less than an hour the window can open after the bucket does.

`Step.window_holds_iff` says exactly when an instant is held, in terms of what clocks show: the
bucket's first reading has come, and the bucket is not over, an hour or a minute by the time that
has passed and a day, a month or a year by the first reading of the next.
-/
import EventSearch.Proofs.ClockBuckets
import EventSearch.Proofs.ZoneReadings

namespace EventSearch.Calendar

/-! ## Conditions on the clock -/

namespace TimeUnit

/-- The first reading of the bucket an instant is in. -/
def opening (u : TimeUnit) (z : Zone) (t : Timestamp) : Clock := u.floor (z.toLocal t).clock

/-- By an instant the first reading of its bucket has come. -/
def Begun (u : TimeUnit) (z : Zone) (t : Timestamp) : Prop :=
  ∀ i, z.Resolves (u.opening z t).seconds i → i ≤ t.unixSeconds

/-- At an instant its bucket is not over: an hour and a minute last for their length, the other
units until the reading one unit after that at their start. -/
def NotOver (u : TimeUnit) (z : Zone) (t : Timestamp) : Prop :=
  match u with
  | .hour | .minute =>
    ∀ i, z.Resolves (u.opening z t).seconds i → t.unixSeconds < i + u.approxSeconds
  | .year | .month | .day =>
    ∀ next, u.later? (z.toLocal (u.truncate t z)).clock = some next →
      ∀ i, z.Resolves next.seconds i → t.unixSeconds < i

end TimeUnit

/-- The window of the bucket of an instant holds the instant. -/
def Step.Holds (u : TimeUnit) (z : Zone) (t stop : Timestamp) : Prop :=
  (u.truncate t z).unixSeconds ≤ t.unixSeconds ∧ t.unixSeconds ≤ stop.unixSeconds

/-! ## The start of a window -/

namespace TimeUnit

variable {u : TimeUnit} {z : Zone} {t s : Timestamp}

theorem truncate_eq (h : z.ofClock? (u.opening z t) = some s) : u.truncate t z = s := by
  show (z.ofClock? (u.opening z t)).getD t = s
  rw [h]
  rfl

theorem truncate_eq_self (h : z.ofClock? (u.opening z t) = none) : u.truncate t z = t := by
  show (z.ofClock? (u.opening z t)).getD t = t
  rw [h]
  rfl

theorem resolves_of_ofClock? (hz : z.Ordered) {c : Clock} (h : z.ofClock? c = some s) :
    z.Resolves c.seconds s.unixSeconds := by
  rw [← Zone.ofClock?_resolves hz, h]
  rfl

theorem not_resolves (hz : z.Ordered) {c : Clock} (h : z.ofClock? c = none) (i : Int) :
    ¬ z.Resolves c.seconds i := by
  rw [← Zone.ofClock?_resolves hz, h]
  exact fun hi => nomatch hi

/-- A window opens in time exactly when the first reading of the bucket has come. -/
theorem truncate_le_iff (hz : z.Ordered) :
    (u.truncate t z).unixSeconds ≤ t.unixSeconds ↔ u.Begun z t := by
  cases h : z.ofClock? (u.opening z t) with
  | none =>
    rw [truncate_eq_self h]
    exact ⟨fun _ i hi => absurd hi (not_resolves hz h i), fun _ => Int.le_refl _⟩
  | some s =>
    have hs := resolves_of_ofClock? hz h
    rw [truncate_eq h]
    exact ⟨fun hle i hi => hi.unique hz hs ▸ hle, fun hbegun => hbegun _ hs⟩

/-! ## Its end -/

/-- Days, months and years are counted on the clock. -/
theorem advance?_of_calendar (h : u = .year ∨ u = .month ∨ u = .day) :
    u.advance? s 1 z = (u.later? (z.toLocal s).clock).bind z.ofClock? := by
  rcases h with rfl | rfl | rfl <;> rfl

/-- Hours and minutes are durations. -/
theorem advance?_of_duration (h : u = .hour ∨ u = .minute) :
    u.advance? s 1 z = s.addSeconds? u.approxSeconds := by
  rcases h with rfl | rfl <;> rfl

end TimeUnit

theorem Timestamp.addSeconds?_eq_some {t t' : Timestamp} {n : Int} (h : t.addSeconds? n = some t') :
    t'.utc = t.utc.addSeconds n := by
  obtain ⟨utc, hutc, rfl⟩ := Option.map_eq_some_iff.mp h
  exact TimeUnit.addSeconds?_eq_some hutc

namespace Step

variable {u : TimeUnit} {z : Zone} {t s stop : Timestamp}

/-- The end of a window is a second before the next instant, unless that is in a leap second. -/
theorem bucketEnd?_eq_some (h : bucketEnd? ⟨u, 1⟩ s z = some stop) :
    ∃ next, u.advance? s 1 z = some next ∧
      (stop.unixSeconds = next.unixSeconds - 1 ∨ stop.unixSeconds = next.unixSeconds) ∧
      (next.utc.nanos = 0 → stop.unixSeconds = next.unixSeconds - 1) := by
  obtain ⟨next, hnext, hstop⟩ := Option.bind_eq_some_iff.mp h
  have hutc := Timestamp.addSeconds?_eq_some hstop
  refine ⟨next, hnext, ?_, fun hnanos => ?_⟩
  · rw [Timestamp.unixSeconds, hutc]
    exact Clock.addSeconds_neg_one next.utc
  · rw [Timestamp.unixSeconds, hutc, Clock.addSeconds_of_nanos hnanos]
    rfl

/-- A bucket that lasts for a time holds an instant before that time has passed. -/
theorem le_end_iff_of_duration (hz : z.Ordered) (hu : u = .hour ∨ u = .minute)
    (h : bucketEnd? ⟨u, 1⟩ (u.truncate t z) z = some stop) :
    t.unixSeconds ≤ stop.unixSeconds ↔ u.NotOver z t := by
  have hlong : 0 < u.approxSeconds := by rcases hu with rfl | rfl <;> decide
  have hnotOver : u.NotOver z t ↔ ∀ i, z.Resolves (u.opening z t).seconds i →
      t.unixSeconds < i + u.approxSeconds := by rcases hu with rfl | rfl <;> exact Iff.rfl
  obtain ⟨next, hnext, hstop, hexact⟩ := bucketEnd?_eq_some h
  rw [TimeUnit.advance?_of_duration hu] at hnext
  have hutc := Timestamp.addSeconds?_eq_some hnext
  have hseconds : next.unixSeconds = (u.truncate t z).unixSeconds + u.approxSeconds := by
    rw [Timestamp.unixSeconds, hutc]
    exact Clock.addSeconds_seconds hlong
  rw [hnotOver]
  cases hs : z.ofClock? (u.opening z t) with
  | none =>
    rw [TimeUnit.truncate_eq_self hs] at hseconds
    exact ⟨fun _ i hi => absurd hi (TimeUnit.not_resolves hz hs i), fun _ => by omega⟩
  | some s =>
    rw [TimeUnit.truncate_eq hs] at hseconds hutc
    have hnanos : s.utc.nanos = 0 := Zone.ofClock?_nanos (TimeUnit.floor_nanos u _) hs
    have hlast := hexact (by rw [hutc, Clock.addSeconds_of_nanos hnanos])
    have hresolves := TimeUnit.resolves_of_ofClock? hz hs
    constructor
    · intro hle i hi
      have hi := hi.unique hz hresolves
      omega
    · intro hnot
      have hlt := hnot _ hresolves
      omega

/-- The next bucket does not begin at an instant that has its own reading for the start. -/
theorem resolves_later_ne {next : Clock} {i : Int}
    (hlater : u.later? (z.toLocal t).clock = some next) (hi : z.Resolves next.seconds i) :
    t.unixSeconds ≠ i := by
  intro heq
  subst heq
  have hlt : t.utc.seconds + z.offsetAt t.utc < next.seconds := TimeUnit.later?_seconds hlater
  have hshown : t.utc.seconds + z.offsetAt t.utc = next.seconds ∨
      t.utc.seconds + z.offsetAt t.utc = next.seconds + 3600 := hi.shown t.utc.nanos
  omega

/-- A bucket of days, months or years holds an instant before the next bucket begins. -/
theorem le_end_iff_of_calendar (hz : z.Ordered) (hu : u = .year ∨ u = .month ∨ u = .day)
    (h : bucketEnd? ⟨u, 1⟩ (u.truncate t z) z = some stop) :
    t.unixSeconds ≤ stop.unixSeconds ↔ u.NotOver z t := by
  have hnotOver : u.NotOver z t ↔ ∀ next, u.later? (z.toLocal (u.truncate t z)).clock = some next →
      ∀ i, z.Resolves next.seconds i → t.unixSeconds < i := by
    rcases hu with rfl | rfl | rfl <;> exact Iff.rfl
  obtain ⟨next, hnext, hstop, hexact⟩ := bucketEnd?_eq_some h
  rw [TimeUnit.advance?_of_calendar hu] at hnext
  obtain ⟨reading, hreading, hnext⟩ := Option.bind_eq_some_iff.mp hnext
  have hresolves := TimeUnit.resolves_of_ofClock? hz hnext
  have hnext_iff : u.NotOver z t ↔ t.unixSeconds < next.unixSeconds := by
    rw [hnotOver]
    constructor
    · exact fun hnot => hnot reading hreading _ hresolves
    · intro hlt reading' hreading' i hi
      rw [hreading] at hreading'
      obtain rfl := Option.some.inj hreading'
      exact hi.unique hz hresolves ▸ hlt
  rw [hnext_iff]
  cases hs : z.ofClock? (u.opening z t) with
  | none =>
    rw [TimeUnit.truncate_eq_self hs] at hreading
    have hne := resolves_later_ne hreading hresolves
    omega
  | some s =>
    rw [TimeUnit.truncate_eq hs] at hreading
    have hnanos : s.utc.nanos = 0 := Zone.ofClock?_nanos (TimeUnit.floor_nanos u _) hs
    have hclock : (z.toLocal s).clock.nanos = 0 := hnanos
    have hlast := hexact (Zone.ofClock?_nanos (TimeUnit.later?_nanos hclock hreading) hnext)
    omega

/-! ## The window -/

/-- In a fixed zone the first reading of a bucket comes in time. -/
theorem begun_fixed (u : TimeUnit) (offset : Int) (t : Timestamp) : u.Begun (.fixed offset) t := by
  intro i hi
  have hfloor : (u.opening (.fixed offset) t).seconds ≤ t.utc.seconds + offset :=
    TimeUnit.floor_seconds_le u _
  have hi := hi.1
  show i ≤ t.utc.seconds
  omega

/-- In a fixed zone the next bucket comes later. -/
theorem notOver_fixed (u : TimeUnit) (offset : Int) (t : Timestamp) :
    u.NotOver (.fixed offset) t := by
  have hduration : u = .hour ∨ u = .minute → ∀ i,
      (Zone.fixed offset).Resolves (u.opening (.fixed offset) t).seconds i →
      t.unixSeconds < i + u.approxSeconds := by
    intro hu i hi
    have hlt : t.utc.seconds + offset < (u.opening (.fixed offset) t).seconds + u.approxSeconds :=
      TimeUnit.lt_floor_add hu ((Zone.fixed offset).toLocal t).clock
    have hi := hi.1
    show t.utc.seconds < i + u.approxSeconds
    omega
  have hcalendar : ∀ next, u.later? ((Zone.fixed offset).toLocal
      (u.truncate t (.fixed offset))).clock = some next →
      ∀ i, (Zone.fixed offset).Resolves next.seconds i → t.unixSeconds < i := by
    intro next hnext i hi
    have hlt : t.utc.seconds + offset < next.seconds := by
      cases hs : (Zone.fixed offset).ofClock? (u.opening (.fixed offset) t) with
      | none =>
        rw [TimeUnit.truncate_eq_self hs] at hnext
        exact TimeUnit.later?_seconds hnext
      | some s =>
        rw [TimeUnit.truncate_eq hs] at hnext
        rw [Zone.fixed_clock hs] at hnext
        exact TimeUnit.lt_later_floor hnext
    have hi := hi.1
    show t.utc.seconds < i
    omega
  cases u with
  | hour => exact hduration (.inl rfl)
  | minute => exact hduration (.inr rfl)
  | year | month | day => exact hcalendar

/-- The window of a bucket holds an instant exactly when, on the clocks of the zone, the bucket has
begun and is not over.  In a fixed zone that is always so. -/
theorem window_holds_iff (hz : z.Ordered) (u : TimeUnit)
    (h : bucketEnd? ⟨u, 1⟩ (u.truncate t z) z = some stop) :
    (Holds u z t stop ↔ u.Begun z t ∧ u.NotOver z t) ∧
      ((∃ offset, z = .fixed offset) → Holds u z t stop) := by
  have hiff : Holds u z t stop ↔ u.Begun z t ∧ u.NotOver z t := by
    refine and_congr (TimeUnit.truncate_le_iff hz) ?_
    cases u with
    | hour => exact le_end_iff_of_duration hz (.inl rfl) h
    | minute => exact le_end_iff_of_duration hz (.inr rfl) h
    | year => exact le_end_iff_of_calendar hz (.inl rfl) h
    | month => exact le_end_iff_of_calendar hz (.inr (.inl rfl)) h
    | day => exact le_end_iff_of_calendar hz (.inr (.inr rfl)) h
  refine ⟨hiff, ?_⟩
  rintro ⟨offset, rfl⟩
  exact hiff.mpr ⟨begun_fixed u offset t, notOver_fixed u offset t⟩

/-- Paris in the autumn of 2024: clocks are set back from 03:00 to 02:00 on the 27th of October. -/
def autumn : ZoneTable := ⟨"Europe/Paris", 7200, [(1729990800, 3600)]⟩

theorem autumn_ordered : autumn.Ordered := ⟨fun _ hs => absurd hs (Option.not_mem_none _), trivial⟩

/-- On the day the clocks are set back, 02:30 for the second time is in the window of the day. -/
theorem window_holds_iff_autumn_day :
    (Zone.named autumn).Ordered ∧
      bucketEnd? ⟨.day, 1⟩ (TimeUnit.day.truncate ⟨⟨1729992600, 0⟩, 3600⟩ (.named autumn))
        (.named autumn) = some ⟨⟨1730069999, 0⟩, 3600⟩ ∧
      Holds .day (.named autumn) ⟨⟨1729992600, 0⟩, 3600⟩ ⟨⟨1730069999, 0⟩, 3600⟩ ∧
      TimeUnit.day.Begun (.named autumn) ⟨⟨1729992600, 0⟩, 3600⟩ ∧
      TimeUnit.day.NotOver (.named autumn) ⟨⟨1729992600, 0⟩, 3600⟩ := by
  have hend : bucketEnd? ⟨.day, 1⟩ (TimeUnit.day.truncate ⟨⟨1729992600, 0⟩, 3600⟩ (.named autumn))
      (.named autumn) = some ⟨⟨1730069999, 0⟩, 3600⟩ := by decide +kernel
  have hholds : Holds .day (.named autumn) ⟨⟨1729992600, 0⟩, 3600⟩ ⟨⟨1730069999, 0⟩, 3600⟩ :=
    ⟨by decide +kernel, by decide +kernel⟩
  exact ⟨autumn_ordered, hend, hholds,
    (window_holds_iff (z := .named autumn) autumn_ordered .day hend).1.mp hholds⟩

/-- The hour from 02:00 to 03:00 comes twice then, and the window of the hour ends with the first:
02:30 for the second time is outside it. -/
theorem window_misses_repeated_hour :
    ∃ table : ZoneTable, table.Ordered ∧ ∃ u t stop,
      bucketEnd? ⟨u, 1⟩ (u.truncate t (.named table)) (.named table) = some stop ∧
        ¬ Holds u (.named table) t stop := by
  refine ⟨autumn, autumn_ordered, .hour, ⟨⟨1729992600, 0⟩, 3600⟩, ⟨⟨1729990799, 0⟩, 7200⟩, ?_, ?_⟩
  · decide +kernel
  · rintro ⟨-, hend⟩
    exact absurd hend (by decide)

end Step

end EventSearch.Calendar
