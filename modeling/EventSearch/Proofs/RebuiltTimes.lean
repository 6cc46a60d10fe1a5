/-
# `EventSearch.Proofs.RebuiltTimes` — which rows a timestamp is rebuilt from

The cells of a row from some index on are read as whole numbers, padded to six (`padded`) and put
together to the timestamp at which a clock shows them.  In a fixed zone that works exactly when the
numbers are a date and a time of day that can be kept at its offset (`IsReading`), and the clock of
the timestamp then shows these numbers again (`Timestamp.parts`).  Every other row is malformed, and
the fault is that of the first check it fails (`Refused`):

1. the row ends at the index or before it;
2. a cell is no whole number, the first such cell being told;
3. the numbers are more than six, or no reading.
-/
import EventSearch.Proofs.BucketComponents
import EventSearch.Proofs.TimeGroups

namespace EventSearch.Calendar

/-! ## Readings by their parts -/

namespace Clock

theorem secondOfDay_ofDate (d : Date) {second : Nat} (h : second < 86400) (nanos : Nat) :
    (ofDate d second nanos).secondOfDay = second := by
  show ((d.toDays * 86400 + second) % 86400).toNat = second
  omega

/-- Year, month, day, hour, minute and second. -/
def parts (c : Clock) : List Int :=
  [c.date.year, c.date.month, c.date.day, c.hour, c.minute, c.second]

/-- The reading at a time of day of a date. -/
def ofHms (d : Date) (hour minute second : Nat) : Clock :=
  ofDate d (hour * 3600 + minute * 60 + second) 0

/-- A reading shows the date and the time of day that it was made of. -/
theorem parts_ofHms {d : Date} (hd : d.isValid = true) {hour minute second : Nat} (hh : hour < 24)
    (hm : minute < 60) (hs : second < 60) :
    (ofHms d hour minute second).parts = [d.year, d.month, d.day, hour, minute, second] := by
  have hsecond : hour * 3600 + minute * 60 + second < 86400 := by omega
  have hhour : (hour * 3600 + minute * 60 + second) / 3600 = hour := by omega
  have hminute : (hour * 3600 + minute * 60 + second) / 60 % 60 = minute := by omega
  have hrest : (hour * 3600 + minute * 60 + second) % 60 = second := by omega
  rw [parts, ofHms, date_ofDate hd hsecond, Clock.hour, Clock.minute, Clock.second,
    secondOfDay_ofDate d hsecond, hhour, hminute, hrest]

end Clock

/-- A date of the calendar and a time of day that can be kept at an offset: its year is in use, and so
is that of the instant at which a clock shows it. -/
structure IsReading (offset : Int) (d : Date) (hour minute second : Nat) : Prop where
  isValid : d.isValid = true
  inRange : d.inRange = true
  hour_lt : hour < 24
  minute_lt : minute < 60
  second_lt : second < 60
  instant : ((Clock.ofHms d hour minute second).shift (-offset)).inRange = true

theorem Date.ofYmd?_eq_some {y : Int} {m d : Nat} {date : Date} :
    ofYmd? y m d = some date ↔
      (⟨y, m, d⟩ : Date).isValid = true ∧ (⟨y, m, d⟩ : Date).inRange = true ∧ ⟨y, m, d⟩ = date := by
  simp only [ofYmd?, Option.ite_none_right_eq_some, Bool.and_eq_true, Option.some.injEq, and_assoc]

theorem Clock.ofHms?_eq_some {d : Date} {hour minute second : Nat} {c : Clock} :
    ofHms? d hour minute second = some c ↔
      (hour < 24 ∧ minute < 60 ∧ second < 60) ∧ ofHms d hour minute second = c := by
  simp only [ofHms?, Option.ite_none_right_eq_some, Option.some.injEq, ofHms]

theorem Zone.ofClock?_fixed_eq_some {offset : Int} {c : Clock} {t : Timestamp} :
    (Zone.fixed offset).ofClock? c = some t ↔
      (c.shift (-offset)).inRange = true ∧ ⟨c.shift (-offset), offset⟩ = t := by
  simp only [ofClock?, Option.ite_none_right_eq_some, Option.some.injEq]

/-- In a fixed zone exactly the readings that can be kept at its offset make a timestamp. -/
theorem Zone.ofYmdHms?_fixed_eq_some {offset y : Int} {mo d hour minute second : Nat}
    {t : Timestamp} : (Zone.fixed offset).ofYmdHms? y mo d hour minute second = some t ↔
      IsReading offset ⟨y, mo, d⟩ hour minute second ∧
        ⟨(Clock.ofHms ⟨y, mo, d⟩ hour minute second).shift (-offset), offset⟩ = t := by
  simp only [ofYmdHms?, Option.bind_eq_bind, Option.bind_eq_some_iff, Date.ofYmd?_eq_some,
    Clock.ofHms?_eq_some, ofClock?_fixed_eq_some]
  constructor
  · rintro ⟨_, ⟨hdate, hyear, rfl⟩, _, ⟨⟨hhour, hminute, hsecond⟩, rfl⟩, hinstant, ht⟩
    exact ⟨⟨hdate, hyear, hhour, hminute, hsecond, hinstant⟩, ht⟩
  · rintro ⟨h, ht⟩
    exact ⟨_, ⟨h.isValid, h.inRange, rfl⟩, _, ⟨⟨h.hour_lt, h.minute_lt, h.second_lt⟩, rfl⟩,
      h.instant, ht⟩

end EventSearch.Calendar

namespace EventSearch.Search

open EventSearch.Calendar EventSearch.Data EventSearch.Provider

/-! ## Components -/

/-- Components with the missing ones of six filled in: the first month and day, and midnight. -/
def padded (components : List Int) : List Int :=
  components ++ [0, 1, 1, 0, 0, 0].drop components.length

/-- One to six components are padded. -/
theorem padComponents?_eq_some {components : List Int} {y mo d h mi s : Int} :
    padComponents? components = some (y, mo, d, h, mi, s) ↔
      components ≠ [] ∧ components.length ≤ 6 ∧ padded components = [y, mo, d, h, mi, s] := by
  match components with
  | [] => simp [padComponents?]
  | [_] | [_, _] | [_, _, _] | [_, _, _, _] | [_, _, _, _, _] | [_, _, _, _, _, _] =>
    simp [padComponents?, padded]
  | _ :: _ :: _ :: _ :: _ :: _ :: _ :: _ => simp [padComponents?]

theorem natural?_eq_some {n : Int} {k : Nat} : natural? n = some k ↔ n = k := by
  simp only [natural?, Option.ite_none_right_eq_some, Option.some.injEq]
  omega

/-- Numbers that are the parts of a reading that can be kept at an offset. -/
def AreParts (offset : Int) (parts : List Int) : Prop :=
  ∃ (d : Date) (hour minute second : Nat),
    parts = [d.year, d.month, d.day, hour, minute, second] ∧ IsReading offset d hour minute second

/-- In a fixed zone the timestamp of some components is the one whose clock shows them padded. -/
theorem timestampOf?_fixed_eq_some {components : List Int} {offset : Int} {t : Timestamp} :
    timestampOf? components (.fixed offset) = some t ↔
      components ≠ [] ∧ components.length ≤ 6 ∧ ∃ (d : Date) (hour minute second : Nat),
        padded components = [d.year, d.month, d.day, hour, minute, second] ∧
          IsReading offset d hour minute second ∧
          ⟨(Clock.ofHms d hour minute second).shift (-offset), offset⟩ = t := by
  simp only [timestampOf?, Option.bind_eq_bind, Option.bind_eq_some_iff]
  constructor
  · rintro ⟨⟨y, mo, d, h, mi, s⟩, hpad, month, hmonth, day, hday, hour, hhour, minute, hminute,
      second, hsecond, ht⟩
    rw [padComponents?_eq_some] at hpad
    obtain ⟨hne, hlength, hparts⟩ := hpad
    rw [natural?_eq_some] at hmonth hday hhour hminute hsecond
    subst hmonth hday hhour hminute hsecond
    exact ⟨hne, hlength, _, _, _, _, hparts, Zone.ofYmdHms?_fixed_eq_some.1 ht⟩
  · rintro ⟨hne, hlength, d, hour, minute, second, hparts, hreading, ht⟩
    exact ⟨_, padComponents?_eq_some.2 ⟨hne, hlength, hparts⟩, _, natural?_natCast _, _,
      natural?_natCast _, _, natural?_natCast _, _, natural?_natCast _, _, natural?_natCast _,
      Zone.ofYmdHms?_fixed_eq_some.2 ⟨hreading, ht⟩⟩

/-- That timestamp exists exactly when the padded components are a reading. -/
theorem timestampOf?_fixed {components : List Int} {offset : Int} (hne : components ≠ []) :
    (timestampOf? components (.fixed offset)).isSome ↔
      components.length ≤ 6 ∧ AreParts offset (padded components) := by
  rw [Option.isSome_iff_exists]
  constructor
  · rintro ⟨t, ht⟩
    obtain ⟨-, hlength, d, hour, minute, second, hparts, hreading, -⟩ :=
      timestampOf?_fixed_eq_some.1 ht
    exact ⟨hlength, d, hour, minute, second, hparts, hreading⟩
  · rintro ⟨hlength, d, hour, minute, second, hparts, hreading⟩
    exact ⟨_, timestampOf?_fixed_eq_some.2
      ⟨hne, hlength, d, hour, minute, second, hparts, hreading, rfl⟩⟩

/-- Taking a timestamp apart undoes putting it together. -/
theorem parts_timestampOf? {components : List Int} {offset : Int} {t : Timestamp}
    (h : timestampOf? components (.fixed offset) = some t) :
    t.offset = offset ∧ t.clock.parts = padded components ∧ t.clock.nanos = 0 := by
  obtain ⟨-, -, d, hour, minute, second, hparts, hreading, rfl⟩ := timestampOf?_fixed_eq_some.1 h
  have hclock : Timestamp.clock ⟨(Clock.ofHms d hour minute second).shift (-offset), offset⟩
      = Clock.ofHms d hour minute second := by
    rw [Timestamp.clock, Clock.shift_shift, Int.add_left_neg, Clock.shift_zero]
  rw [hclock, hparts]
  exact ⟨rfl, Clock.parts_ofHms hreading.isValid hreading.hour_lt hreading.minute_lt
    hreading.second_lt, rfl⟩

/-! ## Cells -/

theorem wholeCells_cons (v : Value) (vs : Row) : wholeCells (v :: vs) =
    match v.asInteger? with
    | none => .error (.malformedRow (.notWhole v))
    | some n => (wholeCells vs).map (n :: ·) := rfl

/-- Cells are read when each of them is a whole number. -/
theorem wholeCells_eq_ok {cells : Row} {components : List Int} :
    wholeCells cells = .ok components ↔ cells.map Value.asInteger? = components.map some := by
  induction cells generalizing components with
  | nil => cases components <;> simp [wholeCells]
  | cons v vs ih =>
    rw [wholeCells_cons, List.map_cons]
    cases v.asInteger? with
    | none => cases components <;> simp
    | some n =>
      cases components with
      | nil => cases wholeCells vs <;> simp [Except.map]
      | cons m ms =>
        rw [List.map_cons, List.cons.injEq, Option.some.injEq, ← ih]
        cases wholeCells vs <;> simp [Except.map]

/-- The first cell that is no whole number is told. -/
theorem wholeCells_eq_error {cells : Row} {e : Error} : wholeCells cells = .error e ↔
    ∃ before v after, cells = before ++ v :: after ∧ (∀ b ∈ before, b.asInteger?.isSome) ∧
      v.asInteger? = none ∧ e = .malformedRow (.notWhole v) := by
  induction cells with
  | nil => simp [wholeCells]
  | cons v vs ih =>
    rw [wholeCells_cons]
    cases hv : v.asInteger? with
    | none =>
      constructor
      · intro h
        exact ⟨[], v, vs, rfl, List.forall_mem_nil _, hv, (Except.error.inj h).symm⟩
      · rintro ⟨before, w, after, hsplit, hbefore, hw, rfl⟩
        cases before with
        | nil =>
          obtain ⟨rfl, -⟩ := List.cons.inj hsplit
          rfl
        | cons b before =>
          obtain ⟨rfl, -⟩ := List.cons.inj hsplit
          simp [hv] at hbefore
    | some n =>
      have hmap : (wholeCells vs).map (n :: ·) = .error e ↔ wholeCells vs = .error e := by
        cases wholeCells vs <;> simp [Except.map]
      refine hmap.trans (ih.trans ?_)
      constructor
      · rintro ⟨before, w, after, rfl, hbefore, hw, he⟩
        refine ⟨v :: before, w, after, rfl, List.forall_mem_cons.2 ⟨?_, hbefore⟩, hw, he⟩
        rw [hv]
        rfl
      · rintro ⟨before, w, after, hsplit, hbefore, hw, he⟩
        cases before with
        | nil =>
          obtain ⟨rfl, -⟩ := List.cons.inj hsplit
          rw [hv] at hw
          cases hw
        | cons b before =>
          obtain ⟨rfl, rfl⟩ := List.cons.inj hsplit
          exact ⟨before, w, after, rfl, (List.forall_mem_cons.1 hbefore).2, hw, he⟩

/-! ## Rows -/

/-- A row from whose cells from an index on a timestamp can be made at an offset: there are one to six,
which are whole numbers and, padded, the parts of a reading. -/
structure Rebuildable (index : Nat) (offset : Int) (row : Row) (components : List Int) : Prop where
  within : index < row.length
  whole : (row.drop index).map Value.asInteger? = components.map some
  atMostSix : components.length ≤ 6
  reading : AreParts offset (padded components)

/-- What is wrong with a row from which none can be made. -/
inductive Refused (index : Nat) (offset : Int) (row : Row) : RowFault → Prop where
  | short (h : row.length ≤ index) : Refused index offset row (.noComponents index row.length)
  | notWhole {before after : Row} {v : Value} (hrow : row.drop index = before ++ v :: after)
      (hbefore : ∀ b ∈ before, b.asInteger?.isSome) (hv : v.asInteger? = none) :
      Refused index offset row (.notWhole v)
  | noDate {components : List Int} (hrow : index < row.length)
      (hwhole : (row.drop index).map Value.asInteger? = components.map some)
      (h : ¬ (components.length ≤ 6 ∧ AreParts offset (padded components))) :
      Refused index offset row (.noDate components)

/-- The three checks of a row that is long enough, one after the other. -/
theorem rebuildRow_eq {index : Nat} {zone : Zone} {row : Row} (h : index < row.length) :
    rebuildRow index zone row = (wholeCells (row.drop index)).bind fun components =>
      match timestampOf? components zone with
      | some t => .ok (row.take index ++ [.timestamp t])
      | none => .error (.malformedRow (.noDate components)) := by
  rw [rebuildRow, if_neg (Nat.not_le.2 h)]
  cases wholeCells (row.drop index) with
  | error e => rfl
  | ok components =>
    simp only [bind, Except.bind, timestampOf]
    cases timestampOf? components zone <;> rfl

theorem components_ne_nil {index : Nat} {row : Row} {components : List Int} (h : index < row.length)
    (hwhole : (row.drop index).map Value.asInteger? = components.map some) : components ≠ [] := by
  rintro rfl
  have hlength := congrArg List.length hwhole
  rw [List.length_map, List.length_drop, List.map_nil, List.length_nil] at hlength
  omega

variable {index : Nat} {offset : Int} {row : Row}

theorem rebuildable_or_refused (index : Nat) (offset : Int) (row : Row) :
    (∃ components, Rebuildable index offset row components) ∨
      ∃ fault, Refused index offset row fault := by
  rcases Nat.lt_or_ge index row.length with h | h
  · cases hcells : wholeCells (row.drop index) with
    | ok components =>
      have hwhole := wholeCells_eq_ok.1 hcells
      by_cases hread : components.length ≤ 6 ∧ AreParts offset (padded components)
      · exact .inl ⟨components, h, hwhole, hread.1, hread.2⟩
      · exact .inr ⟨_, .noDate h hwhole hread⟩
    | error e =>
      obtain ⟨before, v, after, hrow, hbefore, hv, -⟩ := wholeCells_eq_error.1 hcells
      exact .inr ⟨_, .notWhole hrow hbefore hv⟩
  · exact .inr ⟨_, .short h⟩

/-- The timestamp that takes the place of the cells shows their numbers, padded. -/
theorem Rebuildable.ok {components : List Int} (h : Rebuildable index offset row components) :
    ∃ t : Timestamp, rebuildRow index (.fixed offset) row = .ok (row.take index ++ [.timestamp t]) ∧
      t.offset = offset ∧ t.clock.parts = padded components ∧ t.clock.nanos = 0 := by
  have hsome := (timestampOf?_fixed (components_ne_nil h.within h.whole)).2 ⟨h.atMostSix, h.reading⟩
  obtain ⟨t, ht⟩ := Option.isSome_iff_exists.1 hsome
  refine ⟨t, ?_, parts_timestampOf? ht⟩
  rw [rebuildRow_eq h.within, wholeCells_eq_ok.2 h.whole]
  simp only [Except.bind, ht]

theorem Refused.error {fault : RowFault} (h : Refused index offset row fault) :
    rebuildRow index (.fixed offset) row = .error (.malformedRow fault) := by
  cases h with
  | short h => rw [rebuildRow, if_pos h]
  | notWhole hrow hbefore hv =>
    have hwithin : index < row.length := by
      refine Nat.not_le.1 fun hle => ?_
      rw [List.drop_eq_nil_of_le hle] at hrow
      simp at hrow
    rw [rebuildRow_eq hwithin, wholeCells_eq_error.2 ⟨_, _, _, hrow, hbefore, hv, rfl⟩]
    rfl
  | noDate hwithin hwhole hnot =>
    have hnone : timestampOf? _ (.fixed offset) = none := Option.not_isSome_iff_eq_none.1
      (hnot ∘ (timestampOf?_fixed (components_ne_nil hwithin hwhole)).1)
    rw [rebuildRow_eq hwithin, wholeCells_eq_ok.2 hwhole]
    simp only [Except.bind, hnone]

/-- In a fixed zone a row is rebuilt exactly when it has one to six cells from the index on, all whole
numbers, which are, padded, a date and a time of day that can be kept; then the cells in front of the
index stay, and behind them stands one timestamp that shows the padded numbers.  Any other row is
malformed. -/
theorem rebuildRow_fixed (index : Nat) (offset : Int) (row : Row) :
    ((∃ out, rebuildRow index (.fixed offset) row = .ok out) ↔
        ∃ components, Rebuildable index offset row components) ∧
      (∀ out, rebuildRow index (.fixed offset) row = .ok out → ∃ components t,
        Rebuildable index offset row components ∧ out = row.take index ++ [.timestamp t] ∧
          t.offset = offset ∧ t.clock.parts = padded components ∧ t.clock.nanos = 0) ∧
      ∀ e, rebuildRow index (.fixed offset) row = .error e ↔
        ∃ fault, Refused index offset row fault ∧ e = .malformedRow fault := by
  rcases rebuildable_or_refused index offset row with ⟨components, h⟩ | ⟨fault, h⟩
  · obtain ⟨t, hok, ht⟩ := h.ok
    refine ⟨iff_of_true ⟨_, hok⟩ ⟨components, h⟩, fun out hout => ?_, fun e => ⟨fun he => ?_, ?_⟩⟩
    · exact ⟨components, t, h, Except.ok.inj (hout.symm.trans hok), ht⟩
    · rw [hok] at he
      cases he
    · rintro ⟨fault, hrefused, -⟩
      have herror := hrefused.error
      rw [hok] at herror
      cases herror
  · have herror := h.error
    refine ⟨iff_of_false ?_ ?_, fun out hout => ?_, fun e => ⟨fun he => ?_, ?_⟩⟩
    · rintro ⟨out, hout⟩
      rw [herror] at hout
      cases hout
    · rintro ⟨components, hrebuildable⟩
      obtain ⟨t, hok, -⟩ := hrebuildable.ok
      rw [herror] at hok
      cases hok
    · rw [herror] at hout
      cases hout
    · exact ⟨fault, h, Except.error.inj (he.symm.trans herror)⟩
    · rintro ⟨other, hother, rfl⟩
      exact hother.error

end EventSearch.Search
