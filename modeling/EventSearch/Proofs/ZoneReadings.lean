/-
# `EventSearch.Proofs.ZoneReadings` — from the local clock back to an instant

A table of offset changes is searched span by span.  Seen from outside the search is simple: when
the changes are in order of time, `offsetOfReading?` finds the first instant at which clocks show
a reading (`offsetOfReading?_eq_some`), and `Zone.ofClock?` resolves a reading to the instant that
`Zone.Resolves` describes (`ofClock?_resolves`).

    Shows      the clock of a zone shows a reading at an instant
    First      the first instant at which it does
    Resolves   the first instant, or that of the reading one hour later when there is none

Instants are counted in seconds here, and must lie in the years in use to be found.
-/
import EventSearch.Calendar.Zone

namespace EventSearch.Calendar

namespace ZoneTable

/-! ## Spans -/

/-- An instant at or after the beginning of a span, which may have none. -/
def Since (start : Option Int) (i : Int) : Prop := ∀ s ∈ start, s ≤ i

theorem since_none (i : Int) : Since none i := fun _ hs => nomatch hs

theorem since_some {s i : Int} : Since (some s) i ↔ s ≤ i :=
  ⟨fun h => h s rfl, fun h _ hs => Option.some.inj hs ▸ h⟩

/-- The first instant of some spans at which a reading is shown. -/
def FirstIn (start : Option Int) (offset : Int) (changes : List (Int × Int)) (reading i : Int) :
    Prop :=
  (Since start i ∧ i + offsetAfter offset changes i = reading) ∧
    ∀ j, Since start j → j + offsetAfter offset changes j = reading → i ≤ j

/-- Changes in order of time, all of them after the beginning of the first span. -/
def Ascending : Option Int → List (Int × Int) → Prop
  | _, [] => True
  | start, (next, _) :: rest => (∀ s ∈ start, s < next) ∧ Ascending (some next) rest

/-- What it takes for the first of some spans to hold a reading. -/
theorem holds_iff {start : Option Int} {offset reading : Int} :
    start.all (· + offset ≤ reading) = true ↔ Since start (reading - offset) := by
  cases start with
  | none => exact ⟨fun _ => since_none _, fun _ => rfl⟩
  | some s =>
    rw [since_some, Option.all_some, decide_eq_true_eq]
    omega

theorem offsetAfter_of_lt {offset next nextOffset i : Int} {rest : List (Int × Int)}
    (h : i < next) : offsetAfter offset ((next, nextOffset) :: rest) i = offset := by
  rw [offsetAfter, if_neg (by omega)]

theorem offsetAfter_of_le {offset next nextOffset i : Int} {rest : List (Int × Int)}
    (h : next ≤ i) :
    offsetAfter offset ((next, nextOffset) :: rest) i = offsetAfter nextOffset rest i := by
  rw [offsetAfter, if_pos h]

/-- A reading the first span does not hold is first shown where the later spans show it first. -/
theorem firstIn_cons {start : Option Int} {offset next nextOffset reading i : Int}
    {rest : List (Int × Int)} (hstart : ∀ s ∈ start, s < next)
    (hnot : ¬ (Since start (reading - offset) ∧ reading < next + offset)) :
    FirstIn start offset ((next, nextOffset) :: rest) reading i ↔
      FirstIn (some next) nextOffset rest reading i := by
  -- an instant that shows the reading is not in the first span
  have hlate : ∀ j, Since start j → j + offsetAfter offset ((next, nextOffset) :: rest) j = reading →
      next ≤ j := by
    intro j hj hshows
    refine Int.not_lt.mp fun hlt => hnot ?_
    rw [offsetAfter_of_lt hlt] at hshows
    have hreading : reading - offset = j := by omega
    exact ⟨hreading ▸ hj, by omega⟩
  have hsince : ∀ j, next ≤ j → Since start j := fun j hj s hs =>
    Int.le_of_lt (Int.lt_of_lt_of_le (hstart s hs) hj)
  constructor
  · intro ⟨⟨hi, hshows⟩, hfirst⟩
    have hnext := hlate i hi hshows
    rw [offsetAfter_of_le hnext] at hshows
    refine ⟨⟨since_some.mpr hnext, hshows⟩, fun j hj hj' => ?_⟩
    have hj := since_some.mp hj
    exact hfirst j (hsince j hj) (by rwa [offsetAfter_of_le hj])
  · intro ⟨⟨hi, hshows⟩, hfirst⟩
    have hnext := since_some.mp hi
    refine ⟨⟨hsince i hnext, by rwa [offsetAfter_of_le hnext]⟩, fun j hj hj' => ?_⟩
    have hjnext := hlate j hj hj'
    rw [offsetAfter_of_le hjnext] at hj'
    exact hfirst j (since_some.mpr hjnext) hj'

/-- A reading the first span holds is first shown there. -/
theorem firstIn_of_holds {start : Option Int} {offset next nextOffset reading : Int}
    {rest : List (Int × Int)} (hsince : Since start (reading - offset))
    (hlt : reading < next + offset) :
    FirstIn start offset ((next, nextOffset) :: rest) reading (reading - offset) := by
  refine ⟨⟨hsince, ?_⟩, fun j hj hshows => ?_⟩
  · rw [offsetAfter_of_lt (by omega)]
    omega
  · rcases Int.lt_or_le j next with hj' | hj'
    · rw [offsetAfter_of_lt hj'] at hshows
      omega
    · omega

theorem firstIn_unique {start : Option Int} {offset reading i j : Int}
    {changes : List (Int × Int)} (hi : FirstIn start offset changes reading i)
    (hj : FirstIn start offset changes reading j) : i = j :=
  Int.le_antisymm (hi.2 j hj.1.1 hj.1.2) (hj.2 i hi.1.1 hi.1.2)

/-- The search along the spans finds the first instant that shows a reading, when there is one. -/
theorem spanHolding?_eq_some {reading o : Int} :
    ∀ {changes : List (Int × Int)} {start : Option Int} {offset : Int}, Ascending start changes →
      (spanHolding? reading start offset changes = some o ↔
        FirstIn start offset changes reading (reading - o))
  | [], start, offset, _ => by
    rw [spanHolding?]
    constructor
    · intro h
      split at h
      case isFalse => exact nomatch h
      case isTrue hsince =>
        obtain rfl := Option.some.inj h
        refine ⟨⟨holds_iff.mp hsince, ?_⟩, fun j _ hj => ?_⟩
        · show reading - offset + offset = reading
          omega
        · have hj : j + offset = reading := hj
          omega
    · intro ⟨⟨hsince, hshows⟩, _⟩
      have hshows : reading - o + offset = reading := hshows
      obtain rfl : offset = o := by omega
      rw [if_pos (holds_iff.mpr hsince)]
  | (next, nextOffset) :: rest, start, offset, ⟨hstart, hrest⟩ => by
    rw [spanHolding?]
    split
    case isTrue hholds =>
      obtain ⟨hsince, hlt⟩ := (Bool.and_eq_true _ _).mp hholds
      have hfirst : FirstIn start offset ((next, nextOffset) :: rest) reading (reading - offset) :=
        firstIn_of_holds (holds_iff.mp hsince) (of_decide_eq_true hlt)
      constructor
      · intro h
        obtain rfl := Option.some.inj h
        exact hfirst
      · intro h
        have := firstIn_unique h hfirst
        exact congrArg some (by omega)
    case isFalse hnot =>
      rw [firstIn_cons hstart fun ⟨hsince, hlt⟩ =>
        hnot ((Bool.and_eq_true _ _).mpr ⟨holds_iff.mpr hsince, decide_eq_true hlt⟩)]
      exact spanHolding?_eq_some hrest

/-! ## A whole table -/

/-- A table whose changes are in order of time. -/
def Ordered (z : ZoneTable) : Prop := Ascending none z.changes

/-- Clocks of the zone show a reading at an instant. -/
def Shows (z : ZoneTable) (i reading : Int) : Prop := i + z.offsetAt i = reading

/-- The first instant at which clocks show a reading. -/
def First (z : ZoneTable) (reading i : Int) : Prop :=
  z.Shows i reading ∧ ∀ j, z.Shows j reading → i ≤ j

theorem offsetOfReading?_eq_some {z : ZoneTable} (hz : z.Ordered) {reading o : Int} :
    z.offsetOfReading? reading = some o ↔ z.First reading (reading - o) := by
  rw [offsetOfReading?, spanHolding?_eq_some hz]
  exact ⟨fun ⟨⟨_, hshows⟩, hfirst⟩ => ⟨hshows, fun j hj => hfirst j (since_none j) hj⟩,
    fun ⟨hshows, hfirst⟩ => ⟨⟨since_none _, hshows⟩, fun j _ hj => hfirst j hj⟩⟩

end ZoneTable

/-! ## Zones -/

namespace Zone

/-- A second in the years in use. -/
def InUse (i : Int) : Prop := (⟨i, 0⟩ : Clock).inRange = true

/-- A named zone has its changes in order of time. -/
def Ordered : Zone → Prop
  | .fixed _ => True
  | .named table => table.Ordered

/-- The first instant at which clocks of a named zone show a reading, in the years in use. -/
def Earliest (table : ZoneTable) (reading i : Int) : Prop := table.First reading i ∧ InUse i

/-- The instant a local reading stands for: the first at which clocks show it, or the first that
shows the reading one hour later when the reading itself is skipped. -/
def Resolves (z : Zone) (reading i : Int) : Prop :=
  match z with
  | .fixed offset => i = reading - offset ∧ InUse i
  | .named table =>
    Earliest table reading i ∨ (∀ j, ¬ Earliest table reading j) ∧ Earliest table (reading + 3600) i

theorem earliest?_seconds {table : ZoneTable} (hz : table.Ordered) {reading : Clock} {i : Int} :
    (earliest? table reading).map (·.seconds) = some i ↔ Earliest table reading.seconds i := by
  have hback : reading.seconds - (reading.seconds - i) = i := by omega
  constructor
  · intro h
    obtain ⟨utc, hutc, rfl⟩ := Option.map_eq_some_iff.mp h
    obtain ⟨o, ho, hfound⟩ := Option.bind_eq_some_iff.mp hutc
    simp only at hfound
    split at hfound
    case isFalse => exact nomatch hfound
    case isTrue hrange =>
      obtain rfl := Option.some.inj hfound
      exact ⟨(ZoneTable.offsetOfReading?_eq_some hz).mp ho, hrange⟩
  · intro ⟨hfirst, huse⟩
    have ho : table.offsetOfReading? reading.seconds = some (reading.seconds - i) := by
      rw [ZoneTable.offsetOfReading?_eq_some hz, hback]
      exact hfirst
    have hshift : reading.shift (-(reading.seconds - i)) = ⟨i, reading.nanos⟩ :=
      congrArg (Clock.mk · reading.nanos) hback
    rw [earliest?, ho]
    simp only [Option.bind_some, hshift]
    rw [if_pos (show (⟨i, reading.nanos⟩ : Clock).inRange = true from huse)]
    rfl

theorem earliest?_eq_none {table : ZoneTable} (hz : table.Ordered) {reading : Clock} :
    earliest? table reading = none ↔ ∀ j, ¬ Earliest table reading.seconds j := by
  constructor
  · intro h j hj
    rw [← earliest?_seconds hz, h] at hj
    exact nomatch hj
  · intro h
    cases hfound : earliest? table reading with
    | none => rfl
    | some utc =>
      exact absurd ((earliest?_seconds hz).mp (by rw [hfound]; rfl)) (h utc.seconds)

/-- A reading resolves to the instant it stands for. -/
theorem ofClock?_resolves {z : Zone} (hz : z.Ordered) {reading : Clock} {i : Int} :
    (z.ofClock? reading).map (·.unixSeconds) = some i ↔ z.Resolves reading.seconds i := by
  cases z with
  | fixed offset =>
    show Option.map _ (if (reading.shift (-offset)).inRange = true then _ else _) = _ ↔
      i = reading.seconds - offset ∧ InUse i
    constructor
    · intro h
      split at h
      case isFalse => exact nomatch h
      case isTrue hrange =>
        obtain rfl := Option.some.inj h
        exact ⟨rfl, hrange⟩
    · intro ⟨hi, huse⟩
      subst hi
      rw [if_pos (show (reading.shift (-offset)).inRange = true from huse)]
      rfl
  | named table =>
    -- a reading that the clock skips is tried again an hour later
    have hlater : (reading.addSeconds 3600).seconds = reading.seconds + 3600 := by
      unfold Clock.addSeconds
      split
      · omega
      · split <;> rfl
    show Option.map _ (Option.map _ ((earliest? table reading).or _)) = _ ↔ _ ∨ _
    rw [Option.map_map]
    show Option.map Clock.seconds _ = _ ↔ _
    cases hfound : earliest? table reading with
    | none =>
      have hnone := (earliest?_eq_none hz).mp hfound
      rw [Option.none_or, earliest?_seconds hz, hlater]
      exact ⟨fun h => .inr ⟨hnone, h⟩, fun h => h.elim (absurd · (hnone i)) (·.2)⟩
    | some utc =>
      have hsome : Earliest table reading.seconds utc.seconds :=
        (earliest?_seconds hz).mp (by rw [hfound]; rfl)
      rw [Option.some_or, ← hfound, earliest?_seconds hz]
      exact ⟨.inl, fun h => h.elim id fun hnot => absurd hsome (hnot.1 _)⟩

theorem Resolves.unique {z : Zone} (hz : z.Ordered) {reading : Int} {i j : Int}
    (hi : z.Resolves reading i) (hj : z.Resolves reading j) : i = j := by
  have resolved (k : Int) : (z.ofClock? ⟨reading, 0⟩).map (·.unixSeconds) = some k ↔
      z.Resolves reading k := ofClock?_resolves hz
  rw [← resolved] at hi hj
  exact Option.some.inj (hi.symm.trans hj)

/-- At the instant a reading resolves to, clocks show it or the reading one hour later. -/
theorem Resolves.shown {z : Zone} {reading i : Int} (h : z.Resolves reading i) (nanos : Nat) :
    i + z.offsetAt ⟨i, nanos⟩ = reading ∨ i + z.offsetAt ⟨i, nanos⟩ = reading + 3600 := by
  cases z with
  | fixed offset =>
    obtain ⟨rfl, -⟩ := h
    left
    show reading - offset + offset = reading
    omega
  | named table =>
    rcases h with h | ⟨-, h⟩
    · exact .inl h.1.1
    · exact .inr h.1.1

/-- In a fixed zone the instant of a reading shows that reading. -/
theorem fixed_clock {offset : Int} {reading : Clock} {t : Timestamp}
    (h : (Zone.fixed offset).ofClock? reading = some t) :
    ((Zone.fixed offset).toLocal t).clock = reading := by
  simp only [ofClock?] at h
  split at h
  · obtain rfl := Option.some.inj h
    exact congrArg (Clock.mk · reading.nanos) (Int.neg_add_cancel_right reading.seconds offset)
  · exact nomatch h

/-- A resolved reading keeps its place in the second. -/
theorem ofClock?_nanos {z : Zone} {reading : Clock} {t : Timestamp} (hnanos : reading.nanos = 0)
    (h : z.ofClock? reading = some t) : t.utc.nanos = 0 := by
  cases z with
  | fixed offset =>
    simp only [ofClock?] at h
    split at h
    · obtain rfl := Option.some.inj h
      exact hnanos
    · exact nomatch h
  | named table =>
    have hearliest : ∀ {c utc : Clock}, c.nanos = 0 → earliest? table c = some utc →
        utc.nanos = 0 := by
      intro c utc hc hutc
      obtain ⟨o, -, hfound⟩ := Option.bind_eq_some_iff.mp hutc
      simp only at hfound
      split at hfound
      · obtain rfl := Option.some.inj hfound
        exact hc
      · exact nomatch hfound
    obtain ⟨utc, hutc, rfl⟩ := Option.map_eq_some_iff.mp h
    rcases Option.or_eq_some_iff.mp hutc with hutc | ⟨-, hutc⟩
    · exact hearliest hnanos hutc
    · exact hearliest (by simp [Clock.addSeconds, hnanos, Clock.billion]) hutc

end Zone

end EventSearch.Calendar
