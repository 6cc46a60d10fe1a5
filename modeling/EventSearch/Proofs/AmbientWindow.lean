/-
# `EventSearch.Proofs.AmbientWindow` — what the window of a request lets through

A request restricts its searches to a window of time by criteria that hold the bounds as text.  Each
bound is read back for every record, so what is compared is the instant that the text of the bound
tells (`passes_ambient`).  A window that holds any instant in use lets through exactly its own
instants when its bounds are told by their texts, and only then (`filters_iff_exact`): the text of a
bound outside the years 0 to 9999 is not read, after which nothing passes, and seconds of an offset
are rounded, which moves the bound.

    Before         the order of readings
    FromTold       no bound, or not before the instant it tells
    UntilTold      no bound, or before the instant it tells
    Filters        the merged criteria let through what the window holds

A bound beyond the years in use sets no condition at all.
-/
import EventSearch.Proofs.CellFilters
import EventSearch.Proofs.ToldTimestamps
import EventSearch.Search.Context

namespace EventSearch.Calendar

/-! ## Milliseconds -/

namespace Clock

/-- Earlier, by seconds and then nanoseconds. -/
def Before (a b : Clock) : Prop :=
  a.seconds < b.seconds ∨ a.seconds = b.seconds ∧ a.nanos < b.nanos

theorem order_eq_lt {a b : Clock} : a.order b = .lt ↔ a.Before b := by
  rw [order, Ordering.then_eq_lt, Int.compare_eq_lt, Int.compare_eq_eq, Nat.compare_eq_lt, Before]

/-- The reading of a UTC clock some milliseconds after 1970-01-01T00:00:00Z. -/
def ofMillis (millis : Int) : Clock := ⟨millis / 1000, (millis % 1000).toNat * 1000000⟩

theorem nanos_ofMillis (millis : Int) : (ofMillis millis).nanos < billion := by
  show (millis % 1000).toNat * 1000000 < 1000000000
  omega

end Clock

namespace Timestamp

theorem unixMillis_ofMillis (millis offset : Int) :
    unixMillis ⟨Clock.ofMillis millis, offset⟩ = millis := by
  show millis / 1000 * 1000 + (((millis % 1000).toNat * 1000000 / 1000000 : Nat) : Int) = millis
  omega

/-- Outside leap seconds whole milliseconds tell the order. -/
theorem before_ofMillis {t : Timestamp} (h : t.utc.nanos < Clock.billion) (millis : Int) :
    t.utc.Before (Clock.ofMillis millis) ↔ t.unixMillis < millis := by
  have h : t.utc.nanos < 1000000000 := h
  show t.utc.seconds < millis / 1000 ∨ t.utc.seconds = millis / 1000 ∧
      t.utc.nanos < (millis % 1000).toNat * 1000000 ↔
    t.utc.seconds * 1000 + ((t.utc.nanos / 1000000 : Nat) : Int) < millis
  omega

/-- The seconds by which the text of a timestamp moves it. -/
def drift (t : Timestamp) : Int := t.offset - roundedOffset t.offset

theorem drift_eq_zero {t : Timestamp} : t.drift = 0 ↔ t.offset % 60 = 0 := by
  unfold drift
  constructor
  · intro h
    unfold roundedOffset at h
    simp only at h
    split at h <;> omega
  · intro h
    rw [roundedOffset_eq_self h, Int.sub_self]

theorem fourDigits_of_told {t : Timestamp} {i : Clock} (h : t.toldInstant? = some i) :
    t.FourDigits := by
  unfold toldInstant? at h
  split at h
  · next hc => exact hc.1
  · cases h

/-- The text of a whole millisecond tells a whole millisecond. -/
theorem told_ofMillis {offset millis : Int} {i : Clock}
    (h : toldInstant? ⟨Clock.ofMillis millis, offset⟩ = some i) :
    i = Clock.ofMillis (millis + 1000 * drift ⟨Clock.ofMillis millis, offset⟩) := by
  unfold toldInstant? at h
  split at h
  · rw [← Option.some.inj h]
    unfold drift
    simp only [clock, Clock.shift, Clock.ofMillis, Clock.mk.injEq]
    omega
  · cases h

/-- The millisecond before a year of four digits is in use. -/
theorem inRange_of_fourDigits {offset millis : Int} (ho : offset.natAbs < 86400)
    (hu : (Clock.ofMillis millis).inRange = true)
    (h : FourDigits ⟨Clock.ofMillis millis, offset⟩) :
    (Clock.ofMillis (millis - 1)).inRange = true := by
  -- the last midnight before the year 0, and a day and a second before it
  have hlast : (⟨-62167305600, 0⟩ : Clock).date.year = -1 := by decide +kernel
  have hlow : (⟨-62167392001, 0⟩ : Clock).inRange = true := by decide +kernel
  have hafter : -62167305600 < millis / 1000 + offset := by
    refine Int.not_le.1 fun hle => ?_
    have hyear := Clock.year_le (a := ⟨millis / 1000 + offset, (Clock.ofMillis millis).nanos⟩)
      (b := ⟨-62167305600, 0⟩) hle
    have hfour : 0 ≤ (⟨millis / 1000 + offset, (Clock.ofMillis millis).nanos⟩ : Clock).date.year := h.1
    omega
  refine Clock.inRange_of_between hlow hu ?_ ?_
  · show -62167392001 ≤ (millis - 1) / 1000
    omega
  · show (millis - 1) / 1000 ≤ millis / 1000
    omega

/-- An instant of the years in use outside leap seconds. -/
structure Ordinary (t : Timestamp) : Prop where
  range : t.utc.inRange = true
  plain : t.utc.nanos < Clock.billion

theorem ordinary_ofMillis {millis : Int} (h : (Clock.ofMillis millis).inRange = true) :
    Ordinary ⟨Clock.ofMillis millis, 0⟩ :=
  ⟨h, Clock.nanos_ofMillis millis⟩

/-- What is between instants in use is in use. -/
theorem Ordinary.between {t u : Timestamp} (ht : t.Ordinary) (hu : u.Ordinary) {millis : Int}
    (hl : t.unixMillis ≤ millis) (hh : millis ≤ u.unixMillis) :
    (Clock.ofMillis millis).inRange = true := by
  have htn : t.utc.nanos < 1000000000 := ht.plain
  have hun : u.utc.nanos < 1000000000 := hu.plain
  unfold unixMillis at hl hh
  refine Clock.inRange_of_between ht.range hu.range ?_ ?_
  · show t.utc.seconds ≤ millis / 1000
    omega
  · show millis / 1000 ≤ u.utc.seconds
    omega

end Timestamp

/-- A zone whose clocks are always less than a day from UTC. -/
def Zone.WithinDay (z : Zone) : Prop := ∀ utc, (z.offsetAt utc).natAbs < 86400

end EventSearch.Calendar

namespace EventSearch.Search

open EventSearch.Calendar EventSearch.Data EventSearch.Query EventSearch.Provider

variable {scope : Scope} {record : Record} {name : String} {t : Timestamp}

/-! ## One bound -/

/-- An operator that asks for an order. -/
def Orders (operator : String) (test : OrderTest) : Prop :=
  isNegated operator = false ∧
    ∀ v, Predicate.ofOperator operator (baseOperator operator) v = .ok (.compares test v)

theorem orders_atLeast : Orders ">=" .atLeast := by
  have hbase : baseOperator ">=" = ">=" := by decide
  refine ⟨by decide, fun v => ?_⟩
  rw [hbase]
  rfl

theorem orders_less : Orders "<" .less := by
  have hbase : baseOperator "<" = "<" := by decide
  refine ⟨by decide, fun v => ?_⟩
  rw [hbase]
  rfl

/-- A comparison of a declared field with a text. -/
theorem compile_test {operator : String} {test : OrderTest} (h : Orders operator test)
    (hd : (scope.dataset.fieldType? name).isSome) (hn : name ≠ anyField) (v : String) :
    Filter.compile scope (.test (scope.datatype ++ "." ++ name) operator v) =
      .ok (.leaf ⟨.field name, .compares test v, false⟩) := by
  simp only [Criteria.test, Filter.compile, LeafFilter.compile, target_field hd hn, h.1, h.2]
  rfl

/-- A timestamp passes the comparison that holds between it and the instant of the text. -/
theorem accepts_test {test : OrderTest} {v : String} (ht : find? name record = some (.timestamp t)) :
    Filter.accepts record (.leaf ⟨.field name, .compares test v, false⟩) = true ↔
      ∃ i ∈ (readTimestamp? v).map (·.utc), test.accepts (t.utc.order i) = true := by
  simp only [Filter.accepts, LeafFilter.accepts, LeafFilter.hits, ht, Option.any_some,
    Predicate.test, compareValue?]
  cases readTimestamp? v with
  | none => simp
  | some u => simp [Timestamp.order]

/-- No bound, or not before the instant that the text of the bound tells. -/
def FromTold (bound : Option Timestamp) (t : Timestamp) : Prop :=
  ∀ b ∈ bound, ∃ i ∈ b.toldInstant?, ¬ t.utc.Before i

/-- No bound, or before the instant that the text of the bound tells. -/
def UntilTold (bound : Option Timestamp) (t : Timestamp) : Prop :=
  ∀ b ∈ bound, ∃ i ∈ b.toldInstant?, t.utc.Before i

theorem atLeast_accepts {a b : Clock} :
    OrderTest.atLeast.accepts (a.order b) = true ↔ ¬ a.Before b := by
  rw [← Clock.order_eq_lt]
  simp [OrderTest.accepts]

theorem less_accepts {a b : Clock} : OrderTest.less.accepts (a.order b) = true ↔ a.Before b := by
  rw [← Clock.order_eq_lt]
  simp [OrderTest.accepts]

/-! ## The criteria of a window -/

section Window

variable {context : Context} {w : Window}

/-- The path of the time field. -/
abbrev timePath (scope : Scope) (name : String) : String := scope.datatype ++ "." ++ name

/-- What there is of a bound is in its place on the clock of a zone. -/
theorem mem_ofMillis? {z : Zone} {millis : Int} {b : Timestamp} :
    b ∈ z.ofMillis? millis ↔
      (Clock.ofMillis millis).inRange = true ∧ z.shown (Clock.ofMillis millis) = b := by
  show (if (Clock.ofMillis millis).inRange = true then some (z.shown (Clock.ofMillis millis))
    else none) = some b ↔ _
  split
  · next h => simp [h]
  · next h => simp [h]

/-- The text of a bound is read as the instant it tells. -/
theorem readTimestamp?_bound {z : Zone} (hz : z.WithinDay) {millis : Int} {b : Timestamp}
    (hb : b ∈ z.ofMillis? millis) : (readTimestamp? b.rfc3339).map (·.utc) = b.toldInstant? := by
  obtain ⟨-, rfl⟩ := mem_ofMillis?.1 hb
  exact Timestamp.readTimestamp?_told (.inl (Clock.nanos_ofMillis millis)) (hz _)

variable (hd : (scope.dataset.fieldType? name).isSome) (hn : name ≠ anyField)
include hd hn

/-- The criteria of a window can always be tested. -/
theorem testable_ambient : Testable scope (context.ambient (timePath scope name)) := by
  have hbound {operator : String} {test : OrderTest} (hop : Orders operator test)
      (bound : Option Timestamp) :
      ∀ c ∈ Context.boundCriteria (timePath scope name) operator bound, Testable scope c := by
    intro c hc
    obtain ⟨b, -, rfl⟩ := List.mem_map.1 hc
    exact ⟨_, compile_test hop hd hn _⟩
  have hall : ∀ cs : List Criteria, (∀ c ∈ cs, Testable scope c) → ∀ b, Testable scope b →
      Testable scope (cs.foldl Criteria.and b) := by
    intro cs
    induction cs with
    | nil => exact fun _ b hb => hb
    | cons c cs ih =>
      intro h b ⟨f, hf⟩
      obtain ⟨g, hg⟩ := h c List.mem_cons_self
      obtain ⟨k, hk, -, -⟩ := Filter.compile_and hf hg
      exact ih (fun d hd => h d (List.mem_cons_of_mem c hd)) _ ⟨k, hk⟩
  unfold Context.ambient
  split
  · exact ⟨.all, rfl⟩
  · refine hall _ (fun c hc => ?_) _ ⟨.all, rfl⟩
    rcases List.mem_append.1 hc with hc | hc
    · exact hbound orders_atLeast _ c hc
    · exact hbound orders_less _ c hc

/-- A record passes the criteria of a window when its time is within what the texts of the bounds
tell. -/
theorem passes_ambient (hz : context.zone.WithinDay) (hw : context.window = some w)
    (ht : find? name record = some (.timestamp t)) :
    Passes scope record (context.ambient (timePath scope name)) ↔
      FromTold (w.startIn? context.zone) t ∧ UntilTold (w.stopIn? context.zone) t := by
  have hbound {operator : String} {test : OrderTest} (hop : Orders operator test)
      (millis : Int) :
      (∀ c ∈ Context.boundCriteria (timePath scope name) operator (context.zone.ofMillis? millis),
        Passes scope record c) ↔
      ∀ b ∈ context.zone.ofMillis? millis,
        ∃ i ∈ b.toldInstant?, test.accepts (t.utc.order i) = true := by
    simp only [Context.boundCriteria, List.forall_mem_map, Option.mem_toList]
    refine forall₂_congr fun b hb => ?_
    rw [Filter.passes_iff (compile_test hop hd hn _), accepts_test ht,
      readTimestamp?_bound hz hb]
  simp only [Context.ambient, hw, Filter.passes_allOf, List.forall_mem_append]
  refine and_congr ?_ ?_
  · rw [Window.startIn?, hbound orders_atLeast]
    simp only [atLeast_accepts]
    rfl
  · rw [Window.stopIn?, hbound orders_less]
    simp only [less_accepts]
    rfl

/-- The merged criteria let through, of all records with an ordinary time, those that pass the other
criteria and whose time is in the window. -/
def Filters (scope : Scope) (name : String) (context : Context) (w : Window) : Prop :=
  ∀ (c : Criteria) (record : Record) (t : Timestamp), find? name record = some (.timestamp t) →
    t.Ordinary →
    (Passes scope record (c.and (context.ambient (timePath scope name))) ↔
      Passes scope record c ∧ w.contains t.unixMillis = true)

omit hd hn in
theorem contains_iff {millis : Int} :
    w.contains millis = true ↔ w.start ≤ millis ∧ millis < w.stop := by
  rw [Window.contains, Bool.and_eq_true, decide_eq_true_eq, decide_eq_true_eq]

end Window

/-! ## Exact bounds -/

section Bounds

variable {z : Zone} {millis : Int}

theorem fromTold_iff (ht : t.Ordinary) : FromTold (z.ofMillis? millis) t ↔
    ∀ b ∈ z.ofMillis? millis, b.toldInstant?.isSome ∧ millis + 1000 * b.drift ≤ t.unixMillis := by
  refine forall₂_congr fun b hb => ?_
  obtain ⟨-, rfl⟩ := mem_ofMillis?.1 hb
  cases hi : (z.shown (Clock.ofMillis millis)).toldInstant? with
  | none => simp
  | some i =>
    obtain rfl := Timestamp.told_ofMillis hi
    simp [Timestamp.before_ofMillis ht.plain, Zone.shown]

theorem untilTold_iff (ht : t.Ordinary) : UntilTold (z.ofMillis? millis) t ↔
    ∀ b ∈ z.ofMillis? millis, b.toldInstant?.isSome ∧ t.unixMillis < millis + 1000 * b.drift := by
  refine forall₂_congr fun b hb => ?_
  obtain ⟨-, rfl⟩ := mem_ofMillis?.1 hb
  cases hi : (z.shown (Clock.ofMillis millis)).toldInstant? with
  | none => simp
  | some i =>
    obtain rfl := Timestamp.told_ofMillis hi
    simp [Timestamp.before_ofMillis ht.plain, Zone.shown]

theorem exact_iff (hz : z.WithinDay) {b : Timestamp} (hb : b ∈ z.ofMillis? millis) :
    b.Exact ↔ b.toldInstant?.isSome ∧ b.drift = 0 := by
  obtain ⟨-, rfl⟩ := mem_ofMillis?.1 hb
  constructor
  · intro h
    rw [h.toldInstant? (hz _), Timestamp.drift_eq_zero]
    exact ⟨rfl, h.minutes⟩
  · rintro ⟨hi, hdrift⟩
    obtain ⟨i, hi⟩ := Option.isSome_iff_exists.1 hi
    exact ⟨Timestamp.fourDigits_of_told hi, Timestamp.drift_eq_zero.1 hdrift⟩

variable (hz : z.WithinDay) {first last : Timestamp}
include hz

/-- From an exact start on, also from one beyond the years in use. -/
theorem fromTold_of_exact (hexact : ∀ b ∈ z.ofMillis? millis, b.Exact) (ht : t.Ordinary)
    (hl : last.Ordinary) (hm : millis ≤ last.unixMillis) :
    FromTold (z.ofMillis? millis) t ↔ millis ≤ t.unixMillis := by
  rw [fromTold_iff ht]
  constructor
  · intro h
    refine Int.not_lt.1 fun hlt => ?_
    -- a start between two instants in use is in use, so it sets a condition
    have huse := ht.between hl (Int.le_of_lt hlt) hm
    have hb := (mem_ofMillis? (z := z)).2 ⟨huse, rfl⟩
    have hdrift := ((exact_iff hz hb).1 (hexact _ hb)).2
    have hle := (h _ hb).2
    omega
  · intro h b hb
    obtain ⟨hread, hdrift⟩ := (exact_iff hz hb).1 (hexact b hb)
    exact ⟨hread, by omega⟩

/-- Up to an exact stop, also up to one beyond the years in use. -/
theorem untilTold_of_exact (hexact : ∀ b ∈ z.ofMillis? millis, b.Exact) (ht : t.Ordinary)
    (hf : first.Ordinary) (hm : first.unixMillis < millis) :
    UntilTold (z.ofMillis? millis) t ↔ t.unixMillis < millis := by
  rw [untilTold_iff ht]
  constructor
  · intro h
    refine Int.not_le.1 fun hle => ?_
    have huse := hf.between ht (Int.le_of_lt hm) hle
    have hb := (mem_ofMillis? (z := z)).2 ⟨huse, rfl⟩
    have hdrift := ((exact_iff hz hb).1 (hexact _ hb)).2
    have hlt := (h _ hb).2
    omega
  · intro h b hb
    obtain ⟨hread, hdrift⟩ := (exact_iff hz hb).1 (hexact b hb)
    exact ⟨hread, by omega⟩

omit hz in
/-- A window whose bounds, as they are told, part the milliseconds in use as the window does. -/
def ToldApart (z : Zone) (w : Window) : Prop :=
  ∀ m, (Clock.ofMillis m).inRange = true →
    ((∀ b ∈ w.startIn? z, b.toldInstant?.isSome ∧ w.start + 1000 * b.drift ≤ m) ∧
      (∀ b ∈ w.stopIn? z, b.toldInstant?.isSome ∧ m < w.stop + 1000 * b.drift) ↔
    w.start ≤ m ∧ m < w.stop)

omit hz in
theorem toldApart_of_told {w : Window} (h : ∀ t : Timestamp, t.Ordinary →
    (FromTold (w.startIn? z) t ∧ UntilTold (w.stopIn? z) t ↔ w.contains t.unixMillis = true)) :
    ToldApart z w := by
  intro m hm
  have ht := Timestamp.ordinary_ofMillis hm
  have hiff := h _ ht
  rw [Window.startIn?, Window.stopIn?, fromTold_iff ht, untilTold_iff ht, contains_iff,
    Timestamp.unixMillis_ofMillis] at hiff
  exact hiff

/-- A start that is told later loses its own instant, one that is told earlier lets in the
millisecond before. -/
theorem ToldApart.start_exact {w : Window} (h : ToldApart z w)
    (huse : (Clock.ofMillis millis).inRange = true) (hc : w.start ≤ millis ∧ millis < w.stop) :
    ∀ b ∈ w.startIn? z, b.Exact := by
  intro b hb
  obtain ⟨hfrom, huntil⟩ := (h millis huse).2 hc
  have hread := (hfrom b hb).1
  obtain ⟨hbuse, hbz⟩ := mem_ofMillis?.1 hb
  refine (exact_iff hz hb).2 ⟨hread, ?_⟩
  rcases Int.lt_trichotomy b.drift 0 with hneg | hzero | hpos
  · exfalso
    obtain ⟨i, hi⟩ := Option.isSome_iff_exists.1 hread
    have hfour := Timestamp.fourDigits_of_told hi
    rw [← hbz] at hfour
    have hbefore := Timestamp.inRange_of_fourDigits (hz _) hbuse hfour
    have hin := (h (w.start - 1) hbefore).1 ⟨fun d hd => ?_, fun d hd => ?_⟩
    · omega
    · obtain rfl := Option.mem_unique hb hd
      exact ⟨hread, by omega⟩
    · have hlt := (huntil d hd).2
      exact ⟨(huntil d hd).1, by omega⟩
  · exact hzero
  · exfalso
    have hle := (((h w.start hbuse).2 ⟨Int.le_refl _, by omega⟩).1 b hb).2
    omega

/-- A stop that is told earlier loses the millisecond before it, one that is told later lets in its
own instant. -/
theorem ToldApart.stop_exact {w : Window} (h : ToldApart z w)
    (huse : (Clock.ofMillis millis).inRange = true) (hc : w.start ≤ millis ∧ millis < w.stop) :
    ∀ b ∈ w.stopIn? z, b.Exact := by
  intro b hb
  obtain ⟨hfrom, huntil⟩ := (h millis huse).2 hc
  have hread := (huntil b hb).1
  obtain ⟨hbuse, hbz⟩ := mem_ofMillis?.1 hb
  refine (exact_iff hz hb).2 ⟨hread, ?_⟩
  rcases Int.lt_trichotomy b.drift 0 with hneg | hzero | hpos
  · exfalso
    have hordinary := Timestamp.ordinary_ofMillis huse
    have hbefore : (Clock.ofMillis (w.stop - 1)).inRange = true := by
      refine hordinary.between (Timestamp.ordinary_ofMillis hbuse) ?_ ?_
      · rw [Timestamp.unixMillis_ofMillis]
        omega
      · rw [Timestamp.unixMillis_ofMillis]
        omega
    have hlt := (((h (w.stop - 1) hbefore).2 ⟨by omega, by omega⟩).2 b hb).2
    omega
  · exact hzero
  · exfalso
    have hin := (h w.stop hbuse).1 ⟨fun d hd => ?_, fun d hd => ?_⟩
    · omega
    · have hle := (hfrom d hd).2
      exact ⟨(hfrom d hd).1, by omega⟩
    · obtain rfl := Option.mem_unique hb hd
      exact ⟨hread, by omega⟩

/-- A window that its criteria tell is told by its bounds: the first two instants that the texts get
wrong are next to the bounds. -/
theorem exact_of_told {w : Window} (huse : (Clock.ofMillis millis).inRange = true)
    (hc : w.contains millis = true)
    (h : ∀ t : Timestamp, t.Ordinary →
      (FromTold (w.startIn? z) t ∧ UntilTold (w.stopIn? z) t ↔ w.contains t.unixMillis = true)) :
    (∀ b ∈ w.startIn? z, b.Exact) ∧ ∀ b ∈ w.stopIn? z, b.Exact :=
  ⟨(toldApart_of_told h).start_exact hz huse (contains_iff.1 hc),
    (toldApart_of_told h).stop_exact hz huse (contains_iff.1 hc)⟩

end Bounds

/-! ## Exact windows -/

section Windows

variable {context : Context} {w : Window} (hd : (scope.dataset.fieldType? name).isSome)
  (hn : name ≠ anyField) (hz : context.zone.WithinDay) (hw : context.window = some w)
include hd hn hz hw

theorem passes_merged (c : Criteria) (ht : find? name record = some (.timestamp t)) :
    Passes scope record (c.and (context.ambient (timePath scope name))) ↔ Passes scope record c ∧
      FromTold (w.startIn? context.zone) t ∧ UntilTold (w.stopIn? context.zone) t := by
  rw [Filter.passes_and, passes_ambient hd hn hz hw ht]

/-- A window that holds an instant in use filters exactly when its bounds are told by their texts. -/
theorem filters_iff_exact {millis : Int} (huse : (Clock.ofMillis millis).inRange = true)
    (hc : w.contains millis = true) : Filters scope name context w ↔
      (∀ b ∈ w.startIn? context.zone, b.Exact) ∧ ∀ b ∈ w.stopIn? context.zone, b.Exact := by
  obtain ⟨hstart, hstop⟩ := contains_iff.1 hc
  constructor
  · intro h
    refine exact_of_told hz huse hc fun t ht => ?_
    have hfind : find? name [(name, .timestamp t)] = some (Value.timestamp t) := by simp [find?]
    have hiff := h .empty [(name, .timestamp t)] t hfind ht
    rw [passes_merged hd hn hz hw .empty hfind] at hiff
    simpa [Filter.passes_empty] using hiff
  · rintro ⟨hfirst, hlast⟩ c record t ht hordinary
    have hwithin := Timestamp.ordinary_ofMillis huse
    rw [passes_merged hd hn hz hw c ht, contains_iff, Window.startIn?, Window.stopIn?,
      fromTold_of_exact hz hfirst hordinary hwithin (by rwa [Timestamp.unixMillis_ofMillis]),
      untilTold_of_exact hz hlast hordinary hwithin (by rwa [Timestamp.unixMillis_ofMillis])]

/-- The criteria of a window can be tested wherever the others can, let through exactly the times
within the instants that the texts of its bounds tell, and exactly the window when these are the
bounds themselves. -/
theorem ambient_filters :
    (∀ c, Testable scope c → Testable scope (c.and (context.ambient (timePath scope name)))) ∧
    (∀ c record t, find? name record = some (.timestamp t) →
      (Passes scope record (c.and (context.ambient (timePath scope name))) ↔
        Passes scope record c ∧
          FromTold (w.startIn? context.zone) t ∧ UntilTold (w.stopIn? context.zone) t)) ∧
    ∀ millis, (Clock.ofMillis millis).inRange = true → w.contains millis = true →
      (Filters scope name context w ↔
        (∀ b ∈ w.startIn? context.zone, b.Exact) ∧ ∀ b ∈ w.stopIn? context.zone, b.Exact) := by
  refine ⟨fun c ⟨f, hf⟩ => ?_, fun c record t ht => passes_merged hd hn hz hw c ht,
    fun millis huse hc => filters_iff_exact hd hn hz hw huse hc⟩
  obtain ⟨g, hg⟩ : Testable scope (context.ambient (timePath scope name)) := testable_ambient hd hn
  obtain ⟨k, hk, -, -⟩ := Filter.compile_and hf hg
  exact ⟨k, hk⟩

end Windows

theorem withinDay_utc : Zone.utc.WithinDay := fun _ => show (0 : Int).natAbs < 86400 by decide

/-- Events with a time. -/
def timedScope : Scope := ⟨"events", ⟨[("timestamp", .datetime)], []⟩⟩

/-- The first of March 2024 at ten. -/
def atTen : Timestamp := ⟨⟨1709287200, 0⟩, 0⟩

/-- The first of March 2024. -/
def marchDay : Window := ⟨1709251200000, 1709337600000⟩

/-- The day lets through its own instants, ten o'clock among them. -/
theorem ambient_filters_march_day :
    (timedScope.dataset.fieldType? "timestamp").isSome ∧ "timestamp" ≠ anyField ∧
      Zone.utc.WithinDay ∧ marchDay.contains 1709287200000 = true ∧
      Filters timedScope "timestamp" ⟨.utc, some marchDay, []⟩ marchDay ∧
      Passes timedScope [("timestamp", .timestamp atTen)]
        (Criteria.empty.and (Context.ambient ⟨.utc, some marchDay, []⟩
          (timePath timedScope "timestamp"))) := by
  have hfield : (timedScope.dataset.fieldType? "timestamp").isSome := by decide
  have hname : "timestamp" ≠ anyField := by decide
  have hexact : (∀ b ∈ marchDay.startIn? .utc, b.Exact) ∧ ∀ b ∈ marchDay.stopIn? .utc, b.Exact := by
    refine ⟨fun b hb => ?_, fun b hb => ?_⟩
    · rw [← (mem_ofMillis?.1 hb).2]
      exact ⟨by decide +kernel, by decide +kernel⟩
    · rw [← (mem_ofMillis?.1 hb).2]
      exact ⟨by decide +kernel, by decide +kernel⟩
  have hfilters : Filters timedScope "timestamp" ⟨.utc, some marchDay, []⟩ marchDay :=
    ((ambient_filters hfield hname withinDay_utc rfl).2.2 1709287200000 (by decide +kernel)
      (by decide)).2 hexact
  refine ⟨hfield, hname, withinDay_utc, by decide, hfilters, ?_⟩
  exact (hfilters .empty _ atTen (by decide) ⟨by decide +kernel, by decide⟩).2
    ⟨Filter.passes_empty, by decide⟩

/-- A window up to the end of the year 9999 lets nothing through: the year 10000 has a sign, so the
text of its end is not read. -/
theorem ambient_misses_last_year :
    ∃ w : Window, w.contains atTen.unixMillis = true ∧
      Passes timedScope [("timestamp", .timestamp atTen)] .empty ∧
      ¬ Passes timedScope [("timestamp", .timestamp atTen)]
        (Criteria.empty.and (Context.ambient ⟨.utc, some w, []⟩
          (timePath timedScope "timestamp"))) := by
  refine ⟨⟨0, 253402300800000⟩, by decide, Filter.passes_empty, ?_⟩
  have hrejects : (Filter.compile timedScope (Criteria.empty.and
      (Context.ambient ⟨.utc, some ⟨0, 253402300800000⟩, []⟩ (timePath timedScope "timestamp")))).toOption.any
        (·.accepts [("timestamp", .timestamp atTen)]) = false := by decide +kernel
  rintro ⟨f, hf, haccepts⟩
  rw [hf] at hrejects
  exact absurd haccepts (Bool.eq_false_iff.1 hrejects)

end EventSearch.Search
