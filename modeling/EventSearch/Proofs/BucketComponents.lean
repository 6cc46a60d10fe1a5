/-
# `EventSearch.Proofs.BucketComponents` — a bucket by its calendar components

A bucket is told in two ways: by the calendar components from the year down to its unit, and by its
first reading, `TimeUnit.floor`.  The first reading is made from the components again
(`timestampOf?_components`), and readings are in the order of their components, compared from the year
on, exactly as the first readings of their buckets are in order of time (`orderComponents_eq`).  So
equal components mean one bucket.
-/
import EventSearch.Proofs.ClockBuckets
import EventSearch.Search.Rebuild

namespace EventSearch.Calendar

/-! ## Components -/

/-- The calendar components of a reading down to a unit. -/
def TimeUnit.components (u : TimeUnit) (c : Clock) : List Int := u.cascade.map (·.component c)

/-- The order of components by the first in which they differ. -/
def orderComponents : List Int → List Int → Ordering
  | a :: as, b :: bs => (compare a b).then (orderComponents as bs)
  | _, _ => .eq

theorem orderComponents_nil_ne : orderComponents [] [] ≠ .lt := by decide

theorem orderComponents_cons_lt {a b : Int} {as bs : List Int} :
    orderComponents (a :: as) (b :: bs) = .lt ↔
      a < b ∨ a = b ∧ orderComponents as bs = .lt := by
  rw [orderComponents, Ordering.then_eq_lt, Int.compare_eq_lt, Int.compare_eq_eq]

theorem orderComponents_swap (as bs : List Int) :
    (orderComponents as bs).swap = orderComponents bs as := by
  induction as generalizing bs with
  | nil => cases bs <;> rfl
  | cons a as ih =>
    cases bs with
    | nil => rfl
    | cons b bs =>
      rw [orderComponents, orderComponents, Ordering.swap_then, ih, ← Std.OrientedCmp.eq_swap]

namespace TimeUnit

open Clock

theorem components_eq (u : TimeUnit) (c : Clock) : u.components c =
    match u with
    | .year => [c.date.year]
    | .month => [c.date.year, (c.date.month : Int)]
    | .day => [c.date.year, (c.date.month : Int), (c.date.day : Int)]
    | .hour => [c.date.year, (c.date.month : Int), (c.date.day : Int), (c.hour : Int)]
    | .minute =>
      [c.date.year, (c.date.month : Int), (c.date.day : Int), (c.hour : Int), (c.minute : Int)] := by
  cases u <;> rfl

/-- Readings with equal components are in one bucket. -/
theorem floor_eq_floor {u : TimeUnit} {a b : Clock} (h : u.components a = u.components b) :
    u.floor a = u.floor b := by
  have hdate : a.date.year = b.date.year → a.date.month = b.date.month →
      a.date.day = b.date.day → a.date = b.date := by
    intro hy hm hd
    cases ha : a.date
    cases hb : b.date
    rw [ha, hb] at hy hm hd
    simp only at hy hm hd
    rw [hy, hm, hd]
  cases u with
  | year =>
    simp only [components_eq, List.cons.injEq, and_true] at h
    simp only [floor, h]
  | month =>
    simp only [components_eq, List.cons.injEq, and_true, Int.ofNat_inj] at h
    simp only [floor, h.1, h.2]
  | day =>
    simp only [components_eq, List.cons.injEq, and_true, Int.ofNat_inj] at h
    simp only [floor, hdate h.1 h.2.1 h.2.2]
  | hour =>
    simp only [components_eq, List.cons.injEq, and_true, Int.ofNat_inj] at h
    obtain ⟨hy, hm, hd, hh⟩ := h
    simp only [floor, hdate hy hm hd, hh]
  | minute =>
    simp only [components_eq, List.cons.injEq, and_true, Int.ofNat_inj] at h
    obtain ⟨hy, hm, hd, hh, hmi⟩ := h
    simp only [floor, hdate hy hm hd, hh, hmi]

/-- A date with earlier parts is an earlier day; on one day the rest of a reading decides. -/
theorem toDays_of_parts {a b : Date} (ha : a.isValid = true) (hb : b.isValid = true) {later : Prop}
    (h : a.year < b.year ∨ a.year = b.year ∧ ((a.month : Int) < b.month ∨ (a.month : Int) = b.month ∧
      ((a.day : Int) < b.day ∨ (a.day : Int) = b.day ∧ later))) :
    a.toDays < b.toDays ∨ a.toDays = b.toDays ∧ later := by
  have hbefore (h : a.Before b) : a.toDays < b.toDays := Date.toDays_lt_toDays ha hb h
  simp only [Date.Before] at hbefore
  rcases h with hy | ⟨hy, hm | ⟨hm, hd | ⟨hd, hlater⟩⟩⟩
  · exact .inl (hbefore (by omega))
  · exact .inl (hbefore (by omega))
  · exact .inl (hbefore (by omega))
  · exact .inr ⟨by simp only [Date.toDays, hy, Int.ofNat_inj.1 hm, Int.ofNat_inj.1 hd], hlater⟩

/-- Readings with earlier components are in an earlier bucket. -/
theorem floor_lt_floor {u : TimeUnit} {a b : Clock}
    (h : orderComponents (u.components a) (u.components b) = .lt) :
    (u.floor a).seconds < (u.floor b).seconds := by
  have ha := a.date_isValid
  have hb := b.date_isValid
  have hhour := a.hour_lt
  have hminute := a.minute_lt
  simp only [components_eq] at h
  cases u with
  | year =>
    simp only [orderComponents_cons_lt, orderComponents_nil_ne, and_false, or_false] at h
    have hlt := Date.toDays_lt_toDays (firstOfYear_isValid a.date.year)
      (firstOfYear_isValid b.date.year) (.inl h)
    show _ * 86400 + ((0 : Nat) : Int) < _ * 86400 + ((0 : Nat) : Int)
    omega
  | month =>
    simp only [orderComponents_cons_lt, orderComponents_nil_ne, and_false, or_false] at h
    have hbefore : (⟨a.date.year, a.date.month, 1⟩ : Date).Before ⟨b.date.year, b.date.month, 1⟩ := by
      simp only [Date.Before]
      omega
    have hlt := Date.toDays_lt_toDays (firstOfMonth_isValid ha) (firstOfMonth_isValid hb) hbefore
    show _ * 86400 + ((0 : Nat) : Int) < _ * 86400 + ((0 : Nat) : Int)
    omega
  | day =>
    simp only [orderComponents_cons_lt, orderComponents_nil_ne] at h
    have hdays := toDays_of_parts ha hb h
    simp only [and_false, or_false] at hdays
    show _ * 86400 + ((0 : Nat) : Int) < _ * 86400 + ((0 : Nat) : Int)
    omega
  | hour =>
    simp only [orderComponents_cons_lt, orderComponents_nil_ne] at h
    have hdays := toDays_of_parts ha hb h
    simp only [and_false, or_false] at hdays
    show a.date.toDays * 86400 + ((a.hour * 3600 : Nat) : Int) <
      b.date.toDays * 86400 + ((b.hour * 3600 : Nat) : Int)
    omega
  | minute =>
    simp only [orderComponents_cons_lt, orderComponents_nil_ne] at h
    have hdays := toDays_of_parts ha hb h
    simp only [and_false, or_false] at hdays
    show a.date.toDays * 86400 + ((a.hour * 3600 + a.minute * 60 : Nat) : Int) <
      b.date.toDays * 86400 + ((b.hour * 3600 + b.minute * 60 : Nat) : Int)
    omega

theorem orderComponents_eq_eq {u : TimeUnit} {a b : Clock}
    (h : orderComponents (u.components a) (u.components b) = .eq) :
    u.components a = u.components b := by
  have hlists : ∀ as bs : List Int, as.length = bs.length → orderComponents as bs = .eq → as = bs := by
    intro as
    induction as with
    | nil => exact fun bs hl _ => (List.length_eq_zero_iff.1 hl.symm).symm
    | cons a as ih =>
      intro bs hl heq
      cases bs with
      | nil => cases hl
      | cons b bs =>
        rw [orderComponents, Ordering.then_eq_eq, Int.compare_eq_eq] at heq
        rw [heq.1, ih bs (Nat.succ.inj hl) heq.2]
  exact hlists _ _ (by simp only [components, List.length_map]) h

/-- Components compare as the first readings of their buckets do. -/
theorem orderComponents_eq (u : TimeUnit) (a b : Clock) :
    orderComponents (u.components a) (u.components b) =
      compare (u.floor a).seconds (u.floor b).seconds := by
  cases h : orderComponents (u.components a) (u.components b) with
  | lt => exact (Int.compare_eq_lt.2 (floor_lt_floor h)).symm
  | eq =>
    rw [floor_eq_floor (orderComponents_eq_eq h)]
    exact (Int.compare_eq_eq.2 rfl).symm
  | gt =>
    have hswap : orderComponents (u.components b) (u.components a) = .lt := by
      rw [← orderComponents_swap, h]
      rfl
    exact (Int.compare_eq_gt.2 (floor_lt_floor hswap)).symm

/-- Readings are in one bucket when their components are equal, and only then. -/
theorem floor_eq_iff {u : TimeUnit} {a b : Clock} :
    u.floor a = u.floor b ↔ u.components a = u.components b := by
  refine ⟨fun h => orderComponents_eq_eq ?_, floor_eq_floor⟩
  rw [orderComponents_eq, h]
  exact Int.compare_eq_eq.2 rfl

end TimeUnit

/-! ## Putting components together -/

theorem Date.ofYmd?_eq {d : Date} (h : d.isValid = true) (hr : d.inRange = true) :
    Date.ofYmd? d.year d.month d.day = some d := by
  rw [Date.ofYmd?]
  exact if_pos (Bool.and_eq_true_iff.2 ⟨h, hr⟩)

/-- A date and a time of day make the instant of that reading. -/
theorem Zone.ofYmdHms?_eq (z : Zone) {d : Date} (h : d.isValid = true) (hr : d.inRange = true)
    {hour minute second : Nat} (hh : hour < 24) (hm : minute < 60)
    (hs : hour * 3600 + minute * 60 = second) :
    z.ofYmdHms? d.year d.month d.day hour minute 0 = z.ofClock? (Clock.ofDate d second 0) := by
  have htime : Clock.ofHms? d hour minute 0 = some (Clock.ofDate d second 0) := by
    rw [Clock.ofHms?, if_pos ⟨hh, hm, by decide⟩, Nat.add_zero (hour * 3600 + minute * 60), hs]
  rw [Zone.ofYmdHms?, Date.ofYmd?_eq h hr, Option.bind_eq_bind, Option.bind_some, htime,
    Option.bind_eq_bind, Option.bind_some]

/-- No reading is of a year out of use. -/
theorem Zone.ofYmdHms?_eq_none {z : Zone} {d : Date} (h : ¬ d.inRange = true)
    (hour minute second : Nat) : z.ofYmdHms? d.year d.month d.day hour minute second = none := by
  have hdate : Date.ofYmd? d.year d.month d.day = none := by
    rw [Date.ofYmd?]
    exact if_neg fun hboth => h (Bool.and_eq_true_iff.1 hboth).2
  rw [Zone.ofYmdHms?, hdate, Option.bind_eq_bind, Option.bind_none]

end EventSearch.Calendar

namespace EventSearch.Search

open EventSearch.Calendar

theorem natural?_natCast (n : Nat) : natural? (n : Int) = some n := by
  rw [natural?, if_pos (Int.natCast_nonneg n), Int.toNat_natCast]

/-- Components are put together once they are padded with the first of each unit. -/
theorem timestampOf?_padded {components : List Int} {year : Int} {month day hour minute second : Nat}
    (h : padComponents? components = some (year, (month : Int), (day : Int), (hour : Int),
      (minute : Int), (second : Int))) (z : Zone) :
    timestampOf? components z = z.ofYmdHms? year month day hour minute second := by
  simp only [timestampOf?, h, natural?_natCast, Option.bind_eq_bind, Option.bind_some]

/-- The components of a reading, padded, are those of the first reading of its bucket. -/
theorem padComponents?_components (u : TimeUnit) (c : Clock) : ∃ (d : Date) (hour minute : Nat),
    (d.isValid = true ∧ d.inRange = c.inRange ∧ hour < 24 ∧ minute < 60) ∧
      u.floor c = Clock.ofDate d (hour * 3600 + minute * 60) 0 ∧
      padComponents? (u.components c) = some (d.year, (d.month : Int), (d.day : Int), (hour : Int),
        (minute : Int), ((0 : Nat) : Int)) := by
  have hvalid := c.date_isValid
  rw [TimeUnit.components_eq]
  cases u with
  | year =>
    have hfirst := TimeUnit.firstOfYear_isValid c.date.year
    exact ⟨⟨c.date.year, 1, 1⟩, 0, 0, ⟨hfirst, rfl, by decide, by decide⟩, rfl, rfl⟩
  | month =>
    have hfirst := TimeUnit.firstOfMonth_isValid hvalid
    exact ⟨⟨c.date.year, c.date.month, 1⟩, 0, 0, ⟨hfirst, rfl, by decide, by decide⟩, rfl, rfl⟩
  | day => exact ⟨c.date, 0, 0, ⟨hvalid, rfl, by decide, by decide⟩, rfl, rfl⟩
  | hour =>
    refine ⟨c.date, c.hour, 0, ⟨hvalid, rfl, c.hour_lt, by decide⟩, ?_, rfl⟩
    rw [Nat.zero_mul, Nat.add_zero]
    rfl
  | minute => exact ⟨c.date, c.hour, c.minute, ⟨hvalid, rfl, c.hour_lt, c.minute_lt⟩, rfl, rfl⟩

/-- The components of a reading are put together to the start of its bucket. -/
theorem timestampOf?_components (u : TimeUnit) {c : Clock} (hc : c.inRange = true) (z : Zone) :
    timestampOf? (u.components c) z = z.ofClock? (u.floor c) := by
  obtain ⟨d, hour, minute, ⟨hvalid, hrange, hhour, hminute⟩, hfloor, hpad⟩ :=
    padComponents?_components u c
  rw [timestampOf?_padded hpad, hfloor]
  exact z.ofYmdHms?_eq hvalid (hrange.trans hc) hhour hminute rfl

/-- Components can be put together exactly when the reading is of a year in use, and the first
reading of its bucket is that of an instant. -/
theorem isSome_timestampOf?_components (u : TimeUnit) (c : Clock) (z : Zone) :
    (timestampOf? (u.components c) z).isSome ↔
      c.inRange = true ∧ (z.ofClock? (u.floor c)).isSome := by
  by_cases hc : c.inRange = true
  · rw [timestampOf?_components u hc z]
    exact (and_iff_right hc).symm
  · obtain ⟨d, hour, minute, ⟨-, hrange, -, -⟩, -, hpad⟩ := padComponents?_components u c
    have hnone : timestampOf? (u.components c) z = none := by
      rw [timestampOf?_padded hpad]
      exact Zone.ofYmdHms?_eq_none (by rwa [hrange]) hour minute 0
    rw [hnone]
    simp [hc]

end EventSearch.Search
