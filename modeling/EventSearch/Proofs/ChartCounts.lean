/-
# `EventSearch.Proofs.ChartCounts` — the bars of a chart add up to the matches of a search

Grouping adds each record to exactly one group (`sum_groupsOf`), sorting keeps the groups, and a bar
shows the count of its group.  So the bars of a chart add up to what the search finds without
groups, whatever fields it is grouped by and whether the records have them.

A time unit is the exception.  Its calendar components are put together to one timestamp for each
row, a row for which that fails takes the whole chart with it, and so the chart is there exactly
when every record found is `Dated` (`chart_counts`).

| | |
| :-- | :-- |
| `Dated` | the field reads as a time, and its bucket is `Placed` |
| `Rebuilds` | a group whose row can be put together |
-/
import EventSearch.Proofs.ChartPlans
import EventSearch.Search.Chart

namespace EventSearch.Search

open EventSearch.Text EventSearch.Data EventSearch.Calendar EventSearch.Query EventSearch.Provider

/-! ## Time cells -/

section Cells

variable {name : String} {z : Zone} {u : TimeUnit} {record record' : Record}

/-- The time that a field of a record reads as. -/
def instantOf? (name : String) (record : Record) : Option Timestamp :=
  (find? name record).bind Value.asTimestamp?

/-- A record whose field reads as a time with a bucket that can be told. -/
def Dated (u : TimeUnit) (z : Zone) (name : String) (record : Record) : Prop :=
  ∃ t, instantOf? name record = some t ∧ u.Placed z t

theorem cascade_pos (u : TimeUnit) : 0 < u.cascade.length := by
  cases u <;> decide

theorem cell_component (name : String) (z : Zone) (unit : TimeUnit) (record : Record) :
    Column.cell record (.component name z unit) = match instantOf? name record with
      | none => .null
      | some t => .integer (unit.component (z.toLocal t).clock) := by
  rw [Column.cell, instantOf?]
  cases find? name record with
  | none => rfl
  | some value => cases ht : value.asTimestamp? <;> simp [Column.componentOf, ht]

/-- The cells of a time, or as many empty ones. -/
theorem rowOf_components (name : String) (z : Zone) (u : TimeUnit) (record : Record) :
    rowOf (bucketColumns name z u) record = match instantOf? name record with
      | none => List.replicate u.cascade.length .null
      | some t => bucketCells z u t := by
  rw [rowOf, bucketColumns, List.map_map]
  cases ht : instantOf? name record with
  | none =>
    refine List.eq_replicate_iff.2 ⟨List.length_map _, fun cell hcell => ?_⟩
    obtain ⟨unit, -, rfl⟩ := List.mem_map.1 hcell
    rw [Function.comp_apply, cell_component, ht]
  | some t =>
    simp only [bucketCells, TimeUnit.components, List.map_map]
    refine List.map_congr_left fun unit _ => ?_
    rw [Function.comp_apply, cell_component, ht, Function.comp_apply]

theorem keyText_null_ne (t : Timestamp) :
    keyText (List.replicate u.cascade.length .null) ≠ keyText (bucketCells z u t) := by
  obtain ⟨unit, units, hunits⟩ := List.exists_cons_of_ne_nil (List.length_pos_iff.1 (cascade_pos u))
  intro h
  simp only [hunits, bucketCells, TimeUnit.components, List.length_cons, List.replicate_succ,
    List.map_cons, keyText_eq_iff_inspect, List.cons.injEq] at h
  exact inspect_ne (by simp [kindLetter]) h.1

/-- Time cells that print alike are the same. -/
theorem rowOf_components_inj (h : keyText (rowOf (bucketColumns name z u) record)
      = keyText (rowOf (bucketColumns name z u) record')) :
    rowOf (bucketColumns name z u) record = rowOf (bucketColumns name z u) record' := by
  rw [rowOf_components, rowOf_components] at h ⊢
  cases ht : instantOf? name record with
  | none =>
    cases ht' : instantOf? name record' with
    | none => rfl
    | some t' =>
      rw [ht, ht'] at h
      exact absurd h (keyText_null_ne t')
  | some t =>
    cases ht' : instantOf? name record' with
    | none =>
      rw [ht, ht'] at h
      exact absurd h.symm (keyText_null_ne t)
    | some t' =>
      rw [ht, ht'] at h
      exact congrArg (List.map Value.integer) (keyText_integers.1 h)

/-- The time cells of a record can be put together exactly when it is dated. -/
theorem isSome_keyStart? :
    (keyStart? z (rowOf (bucketColumns name z u) record)).isSome ↔ Dated u z name record := by
  rw [rowOf_components, Dated]
  cases instantOf? name record with
  | none =>
    obtain ⟨n, hn⟩ := Nat.exists_eq_succ_of_ne_zero (Nat.ne_of_gt (cascade_pos u))
    simp [hn, List.replicate_succ, keyStart?, wholeCells, Value.asInteger?, Except.toOption]
  | some t =>
    have hstart : keyStart? z (bucketCells z u t)
        = timestampOf? (u.components (z.toLocal t).clock) z := by
      rw [keyStart?, bucketCells, wholeCells_integers]
      rfl
    simp only [hstart, isSome_timestampOf?_components, Option.some.injEq, exists_eq_left']
    exact ⟨fun h => ⟨h.1, h.2⟩, fun h => ⟨h.shown, h.start⟩⟩

end Cells

variable {s : Surface Unit} {store : Store} {d : Dataset} {context : Context}

/-! ## Rebuilt rows -/

theorem goodRows_eq_ok {answers : List (Except Error Row)} {rows : List Row} :
    (Session.goodRows answers).1 = .ok rows ↔ answers = rows.map .ok := by
  constructor
  · intro h
    induction answers generalizing rows with
    | nil =>
      obtain rfl := Except.ok.inj h
      rfl
    | cons answer answers ih =>
      cases answer with
      | error e => cases h
      | ok row =>
        simp only [Session.goodRows] at h
        cases hrest : (Session.goodRows answers).1 with
        | error e =>
          rw [hrest] at h
          cases h
        | ok rest =>
          rw [hrest] at h
          obtain rfl := Except.ok.inj h
          rw [ih hrest, List.map_cons]
  · rintro rfl
    rw [goodRows_ofRows]

/-- A row with time cells behind others is rebuilt when these can be put together. -/
theorem rebuildRow_eq_ok {count : Value} {before cells : Row} (hne : cells ≠ []) {z : Zone}
    {row : Row} : rebuildRow (before.length + 1) z (count :: (before ++ cells)) = .ok row ↔
      ∃ t, keyStart? z cells = some t ∧ row = count :: (before ++ [.timestamp t]) := by
  have hlength : ¬ (count :: (before ++ cells)).length ≤ before.length + 1 := by
    have hpos := List.length_pos_iff.2 hne
    rw [List.length_cons, List.length_append]
    omega
  have hdrop : (count :: (before ++ cells)).drop (before.length + 1) = cells := by
    rw [List.drop_succ_cons, List.drop_left]
  have htake : (count :: (before ++ cells)).take (before.length + 1) = count :: before := by
    rw [List.take_succ_cons, List.take_left]
  rw [rebuildRow, if_neg hlength, hdrop, htake, keyStart?]
  cases wholeCells cells with
  | error e => simp [bind, Except.bind, Except.toOption]
  | ok components =>
    simp only [bind, Except.bind, Except.toOption, Option.bind_some, timestampOf]
    cases timestampOf? components z with
    | none => simp
    | some t => simp [pure, Except.pure, eq_comm]

/-- A group whose row can be put together. -/
def Rebuilds (z : Zone) (before : Nat) (g : Row × Nat) : Prop :=
  (keyStart? z (g.1.drop before)).isSome = true

section Timed

variable {u : TimeUnit} {z : Zone} {names : List String} {records : List Record}

theorem rowOf_chart (s : Surface Unit) (z : Zone) (names : List String) (u : TimeUnit)
    (record : Record) : rowOf (chartColumns s z names (some u)) record
      = fieldCells names record ++ rowOf (bucketColumns s.timeField z u) record := by
  rw [← rowOf_fields, rowOf, rowOf, rowOf, chartColumns, List.map_append]
  rfl

theorem length_fieldCells (names : List String) (record : Record) :
    (fieldCells names record).length = names.length := List.length_map _

theorem drop_rowOf_chart (s : Surface Unit) (z : Zone) (names : List String) (u : TimeUnit)
    (record : Record) : (rowOf (chartColumns s z names (some u)) record).drop names.length
      = rowOf (bucketColumns s.timeField z u) record := by
  rw [rowOf_chart, ← length_fieldCells names record, List.drop_left]

/-- All groups can be put together exactly when all records are dated. -/
theorem rebuilds_iff_dated (names : List String) :
    (∀ g ∈ groupsOf (.count :: chartColumns s z names (some u)) records,
        Rebuilds z names.length g) ↔
      ∀ record ∈ records, Dated u z s.timeField record := by
  have hplain := chartColumns_plain s z names (some u)
  constructor
  · intro h record hr
    obtain ⟨g, hg, htext⟩ := (tally_groupsOf _ records).complete _ (List.mem_map_of_mem hr)
    obtain ⟨first, -, hkey, -⟩ := mem_groupsOf hplain hg
    have hrebuilds := h g hg
    rw [Rebuilds, hkey, drop_rowOf_chart] at hrebuilds
    -- the record and the first one of its group have the same time cells
    rw [hkey, keyOf_plain hplain, rowOf_chart, rowOf_chart, keyText_eq_iff_inspect,
      List.map_append, List.map_append] at htext
    have hcells := (List.append_inj htext (by simp only [List.length_map, length_fieldCells])).2
    rw [rowOf_components_inj (keyText_eq_iff_inspect.2 hcells)] at hrebuilds
    exact isSome_keyStart?.1 hrebuilds
  · intro h g hg
    obtain ⟨first, hfirst, hkey, -⟩ := mem_groupsOf hplain hg
    rw [Rebuilds, hkey, drop_rowOf_chart]
    exact isSome_keyStart?.2 (h first hfirst)

/-- The row of a group keeps its count, when it can be put together. -/
theorem rebuildRow_group {g : Row × Nat}
    (hg : g ∈ groupsOf (.count :: chartColumns s z names (some u)) records) :
    ((∃ row, rebuildRow (names.length + 1) z (timeGroupRow g) = .ok row) ↔
        Rebuilds z names.length g) ∧
      ∀ row, rebuildRow (names.length + 1) z (timeGroupRow g) = .ok row →
        row.head? = some (.integer g.2) := by
  obtain ⟨record, -, hkey, -⟩ := mem_groupsOf (chartColumns_plain s z names (some u)) hg
  have hcells : rowOf (bucketColumns s.timeField z u) record ≠ [] := by
    refine List.length_pos_iff.1 ?_
    rw [rowOf, bucketColumns, List.length_map, List.length_map]
    exact cascade_pos u
  have hiff (row : Row) := @rebuildRow_eq_ok (.integer g.2) (fieldCells names record) _ hcells z row
  rw [length_fieldCells] at hiff
  rw [timeGroupRow, Rebuilds, hkey, drop_rowOf_chart, rowOf_chart]
  refine ⟨⟨?_, fun hstart => ?_⟩, fun row hrow => ?_⟩
  · rintro ⟨row, hrow⟩
    obtain ⟨t, ht, -⟩ := (hiff row).1 hrow
    rw [ht]
    rfl
  · obtain ⟨t, ht⟩ := Option.isSome_iff_exists.1 hstart
    exact ⟨_, (hiff _).2 ⟨t, ht, rfl⟩⟩
  · obtain ⟨t, -, rfl⟩ := (hiff row).1 hrow
    rfl

end Timed

/-! ## Bars -/

/-- Collecting rows leaves the plan as it is. -/
theorem plan_collect (session : Session Unit) : session.collect.2.plan = session.plan := by
  have hrun : session.run.2.plan = session.plan := by
    unfold Session.run
    cases session.result with
    | some r => rfl
    | none =>
      cases hexec : session.plan.surface.provider.execute session.plan.request session.state with
      | mk answer state => cases answer <;> rfl
  unfold Session.collect
  cases h : session.run with
  | mk answer after =>
    rw [h] at hrun
    cases answer with
    | error e => exact hrun
    | ok r =>
      simp only
      cases Session.goodRows r.rows with
      | mk good unread => cases good <;> exact hrun

/-- A chart is made of the rows that were collected. -/
theorem chart_eq_ok {plan : Plan Unit} (h : plan.isAggregate = true) {step : Step}
    {bars : List Bar} : ((Session.start plan ()).chart step).1 = .ok bars ↔
      ∃ rows, (Session.start plan ()).collect.1 = .ok rows ∧
        bars = rows.filterMap (plan.bar? step) := by
  have haggregate : (Session.start plan ()).plan.isAggregate = true := h
  have hplan : (Session.start plan ()).collect.2.plan = plan := plan_collect _
  simp only [Session.chart, haggregate, if_true, hplan]
  cases (Session.start plan ()).collect.1 with
  | error e => simp [Except.map]
  | ok rows => simp [Except.map, eq_comm]

/-- Each row has a bar, which shows the first cell. -/
theorem counts_bars (plan : Plan Unit) (step : Step) {rows : List Row} {counts : List Nat}
    (h : rows.map List.head? = counts.map fun n => some (.integer n)) :
    (rows.filterMap (plan.bar? step)).map (·.count) = counts.map fun n => .integer n := by
  induction rows generalizing counts with
  | nil =>
    obtain rfl := List.map_eq_nil_iff.1 h.symm
    rfl
  | cons row rows ih =>
    cases counts with
    | nil => cases h
    | cons n counts =>
      rw [List.map_cons, List.map_cons, List.cons.injEq] at h
      cases row with
      | nil => cases h.1
      | cons cell cells =>
        obtain rfl := Option.some.inj h.1
        simp only [List.filterMap_cons, Plan.bar?, List.map_cons, ih h.2]

section Answers

variable {groups : List (Row × Nat)} {answer : Row × Nat → Except Error Row}

/-- All answers are good when each of them is. -/
theorem exists_goodRows : (∃ rows : List Row, groups.map answer = rows.map .ok) ↔
    ∀ g ∈ groups, ∃ row, answer g = .ok row := by
  induction groups with
  | nil => exact ⟨fun _ g hg => (List.not_mem_nil hg).elim, fun _ => ⟨[], rfl⟩⟩
  | cons g groups ih =>
    rw [List.forall_mem_cons, ← ih]
    constructor
    · rintro ⟨rows, h⟩
      cases rows with
      | nil => cases h
      | cons row rows =>
        rw [List.map_cons, List.map_cons, List.cons.injEq] at h
        exact ⟨⟨row, h.1⟩, rows, h.2⟩
    · rintro ⟨⟨row, hrow⟩, rows, hrows⟩
      exact ⟨row :: rows, by rw [List.map_cons, List.map_cons, hrow, hrows]⟩

theorem heads_of_goodRows
    (hhead : ∀ g ∈ groups, ∀ row, answer g = .ok row → row.head? = some (.integer g.2))
    {rows : List Row} (h : groups.map answer = rows.map .ok) :
    rows.map List.head? = (groups.map (·.2)).map fun n => some (.integer n) := by
  induction groups generalizing rows with
  | nil =>
    obtain rfl := List.map_eq_nil_iff.1 h.symm
    rfl
  | cons g groups ih =>
    cases rows with
    | nil => cases h
    | cons row rows =>
      rw [List.map_cons, List.map_cons, List.cons.injEq] at h
      have hrest := ih (fun k hk => hhead k (List.mem_cons_of_mem g hk)) h.2
      rw [List.map_cons, hhead g List.mem_cons_self row h.1, hrest, List.map_cons, List.map_cons]

/-- The chart of a plan whose result has an answer for each group: it is there when all answers are
good, and its bars show the counts. -/
theorem chart_answers (Good : Row × Nat → Prop) {plan : Plan Unit} (ha : plan.isAggregate = true)
    {r : ResultSet} (hrun : (Session.start plan ()).run.1 = .ok r) (hrows : r.rows = groups.map answer)
    (hgood : ∀ g ∈ groups, (∃ row, answer g = .ok row) ↔ Good g)
    (hhead : ∀ g ∈ groups, ∀ row, answer g = .ok row → row.head? = some (.integer g.2))
    (step : Step) :
    ((∃ bars, ((Session.start plan ()).chart step).1 = .ok bars) ↔ ∀ g ∈ groups, Good g) ∧
      ∀ bars, ((Session.start plan ()).chart step).1 = .ok bars →
        bars.map (·.count) = (groups.map (·.2)).map fun n => .integer n := by
  have hcollect (rows : List Row) :
      (Session.start plan ()).collect.1 = .ok rows ↔ groups.map answer = rows.map .ok := by
    rw [collect_eq_ok, ← hrows]
    constructor
    · rintro ⟨r', hr', hok⟩
      obtain rfl := Except.ok.inj (hr'.symm.trans hrun)
      exact goodRows_eq_ok.1 hok
    · exact fun h => ⟨r, hrun, goodRows_eq_ok.2 h⟩
  simp only [chart_eq_ok ha, hcollect]
  constructor
  · have hall : (∃ rows : List Row, groups.map answer = rows.map .ok) ↔ ∀ g ∈ groups, Good g := by
      rw [exists_goodRows]
      exact forall₂_congr hgood
    rw [← hall]
    constructor
    · rintro ⟨_, rows, hrows, -⟩
      exact ⟨rows, hrows⟩
    · rintro ⟨rows, hrows⟩
      exact ⟨_, rows, hrows, rfl⟩
  · rintro _ ⟨rows, hanswers, rfl⟩
    exact counts_bars plan step (heads_of_goodRows hhead hanswers)

end Answers

/-- Without a unit the rows of the groups stay as they are. -/
theorem rows_finish_plain (query : String) (mode : Mode) (c : Criteria) (names : List String)
    (groups : List (Row × Nat)) :
    (Session.finish (chartPlan s context query mode c names none)
      (.ofRows (groups.map timeGroupRow) groups.length)).rows
        = groups.map fun g => .ok (timeGroupRow g) := List.map_map

/-- With a unit each row is put together again. -/
theorem rows_finish_unit (query : String) (mode : Mode) (c : Criteria) (names : List String)
    (u : TimeUnit) (groups : List (Row × Nat)) :
    (Session.finish (chartPlan s context query mode c names (some u))
      (.ofRows (groups.map timeGroupRow) groups.length)).rows
        = groups.map fun g => rebuildRow (names.length + 1) context.zone (timeGroupRow g) := by
  have hindex : (chartPlan s context query mode c names (some u)).grouping.timeIndex
      = some (names.length + 1) := by
    simp [chartPlan, chartGrouping, Grouping.ofPaths, flatten_singletons]
  simp only [Session.finish, hindex, rebuildRows, ResultSet.ofRows, List.map_map]
  rfl

/-- What the chart of a planned search shows, and when it is there. -/
theorem chart_planned (hs : s.Over store d) (htime : (d.fieldType? s.timeField).isSome)
    {names : List String} (hn : ∀ name ∈ names, (d.fieldType? name).isSome)
    {unit : Option TimeUnit} {query : String} {mode : Mode} {c : Criteria} {f : Filter}
    (hf : Filter.compile ⟨s.datatype, d⟩ (c.and (context.ambient s.timePath)) = .ok f)
    (ha : (chartPlan s context query mode c names unit).isAggregate = true) (step : Step) :
    let session := Session.start (chartPlan s context query mode c names unit) ()
    ((∃ bars, (session.chart step).1 = .ok bars) ↔
      ∀ u, unit = some u → ∀ record ∈ found d f, Dated u context.zone s.timeField record) ∧
    ∀ bars, (session.chart step).1 = .ok bars → ∃ counts : List Nat,
      bars.map (·.count) = (counts.map fun n => .integer n) ∧
        counts.sum = (found d f).length := by
  obtain ⟨groups, hperm, hrun⟩ := run_chart hs htime hn hf ha
  have hsum : (groups.map (·.2)).sum = (found d f).length := by
    rw [(hperm.map _).sum_nat, sum_groupsOf]
  cases unit with
  | none =>
    obtain ⟨hthere, hcounts⟩ := chart_answers (fun _ => True) ha hrun
      (rows_finish_plain query mode c names groups)
      (fun g _ => ⟨fun _ => trivial, fun _ => ⟨_, rfl⟩⟩)
      (fun g _ row hrow => by rw [← Except.ok.inj hrow]; rfl) step
    refine ⟨⟨fun _ u hu => (Option.some_ne_none u hu.symm).elim,
      fun _ => hthere.2 fun _ _ => trivial⟩, fun bars hbars => ⟨_, hcounts bars hbars, hsum⟩⟩
  | some u =>
    have hgroup (g : Row × Nat) (hg : g ∈ groups) :=
      rebuildRow_group (s := s) (z := context.zone) (u := u) (hperm.mem_iff.1 hg)
    have hdated : (∀ g ∈ groups, Rebuilds context.zone names.length g) ↔
        ∀ v, some u = some v → ∀ record ∈ found d f, Dated v context.zone s.timeField record := by
      simp only [Option.some.injEq, forall_eq', ← rebuilds_iff_dated names, hperm.mem_iff]
    obtain ⟨hthere, hcounts⟩ := chart_answers (Rebuilds context.zone names.length) ha hrun
      (rows_finish_unit query mode c names u groups) (fun g hg => (hgroup g hg).1)
      (fun g hg => (hgroup g hg).2) step
    exact ⟨hthere.trans hdated, fun bars hbars => ⟨_, hcounts bars hbars, hsum⟩⟩

/-! ## Charts of searches -/

/-- When a search finds anything at all, it can be charted by any declared fields that make groups,
and by one time unit if every record found is dated; the bars add up to what the search finds. -/
theorem chart_counts (hs : s.Over store d) (htime : (d.fieldType? s.timeField).isSome)
    {p : SearchParams} (hne : p.groupby ≠ []) (hpage : p.offset = 0 ∧ p.limit = none)
    (hfields : ∀ name ∈ p.groupby, TimeUnit.isTemporal name = false → Groupable s name)
    (hunit : ∀ a ∈ p.groupby, ∀ b ∈ p.groupby, TimeUnit.isTemporal a = true →
      TimeUnit.isTemporal b = true → a = b)
    {listing : Plan Unit} (hplan : Plan.make s context { p with groupby := [] } = .ok listing)
    {n : Nat} (htotal : (Session.start listing ()).total.1 = .ok n) (step : Step) :
    ∃ plan f, Plan.make s context p = .ok plan ∧
      Filter.compile ⟨s.datatype, d⟩ plan.allCriteria = .ok f ∧
      ((∃ bars, ((Session.start plan ()).chart step).1 = .ok bars) ↔
        ∀ u, plan.grouping.unit = some u →
          ∀ record ∈ found d f, Dated u context.zone s.timeField record) ∧
      ∀ bars, ((Session.start plan ()).chart step).1 = .ok bars → ∃ counts : List Nat,
        bars.map (·.count) = (counts.map fun n => .integer n) ∧ counts.sum = n := by
  obtain ⟨c, hc, rfl⟩ := make_listing.1
    (show Plan.make s context ⟨p.query, some (p.mode.getD s.defaultMode), [], p.offset, p.limit⟩
      = .ok listing from hplan)
  obtain ⟨f, hf, -, rfl⟩ := (total_listing hs).1 htotal
  obtain ⟨names, unit, hn, hmake, ha⟩ := make_chart context hs hne hpage hfields hunit hc
  have hgrouping : (chartGrouping s context.zone names unit).unit = unit := by
    cases unit <;> rfl
  obtain ⟨hthere, hcounts⟩ := chart_planned hs htime hn hf ha step
  refine ⟨_, f, hmake, hf, ?_, hcounts⟩
  rw [hthere]
  show _ ↔ ∀ u, (chartGrouping s context.zone names unit).unit = some u → _
  rw [hgrouping]

/-- A surface over one dataset of events with a kind and a time. -/
def kindSurface (d : Dataset) : Surface Unit :=
  { timedSurface d with fields := [⟨"kind", .ofType "events.kind" .text, 0⟩] }

theorem kindSurface_over {d : Dataset} (h : (d.fieldType? "kind").isSome) :
    (kindSurface d).Over (Store.ofList [("events", d)]) d := by
  refine ⟨rfl, rfl, fun f hf => ?_⟩
  obtain rfl := List.mem_singleton.1 hf
  exact ⟨h, rfl⟩

/-- Three events with a time, two of them of one kind and the last without a kind. -/
def threeKinds : Dataset :=
  ⟨[("kind", .text), ("timestamp", .datetime)],
    [("kind", .text "login") :: recordAt 1709330400, ("kind", .text "login") :: recordAt 1709331000,
      recordAt 1709331600]⟩

/-- All records, by day and kind. -/
def byDayAndKind : SearchParams := ⟨"", none, ["day", "kind"], 0, none⟩

/-- Of three events on one day two are of a kind, and the bars show three in all. -/
theorem chart_counts_kinds :
    ∃ plan bars counts, Plan.make (kindSurface threeKinds) twoHoursAhead byDayAndKind = .ok plan ∧
      ((Session.start plan ()).chart ⟨.day, 1⟩).1 = .ok bars ∧
      bars.map (·.count) = (List.map (fun n : Nat => Value.integer n) counts) ∧
      counts.sum = 3 := by
  have hover := @kindSurface_over threeKinds (by decide)
  have hlisting : Plan.make (kindSurface threeKinds) twoHoursAhead { byDayAndKind with groupby := [] }
      = .ok (listingPlan (kindSurface threeKinds) twoHoursAhead "" .lucene .empty 0 none) :=
    make_listing.2 ⟨_, rfl, rfl⟩
  have htotal : (Session.start (listingPlan (kindSurface threeKinds) twoHoursAhead "" .lucene .empty
      0 none) ()).total.1 = .ok 3 := eq_ok_of_toOption (by decide +kernel)
  have hfields : ∀ name ∈ byDayAndKind.groupby, TimeUnit.isTemporal name = false →
      Groupable (kindSurface threeKinds) name := by
    intro name hm htime
    rcases List.mem_cons.1 hm with rfl | hm
    · exact absurd htime (by decide)
    · obtain rfl := List.mem_singleton.1 hm
      exact ⟨rfl, _, rfl, rfl⟩
  have hunit : ∀ a ∈ byDayAndKind.groupby, ∀ b ∈ byDayAndKind.groupby,
      TimeUnit.isTemporal a = true → TimeUnit.isTemporal b = true → a = b := by
    decide
  obtain ⟨plan, f, hplan, hf, hthere, hcounts⟩ := chart_counts hover (by decide)
    (List.cons_ne_nil _ _) ⟨rfl, rfl⟩ hfields hunit hlisting htotal ⟨.day, 1⟩
  have hmake : Plan.make (kindSurface threeKinds) twoHoursAhead byDayAndKind
      = .ok (chartPlan (kindSurface threeKinds) twoHoursAhead "" .lucene .empty ["kind"]
          (some .day)) := rfl
  obtain rfl := Except.ok.inj (hplan.symm.trans hmake)
  have hdated : ∀ record ∈ threeKinds.records, Dated .day (.fixed 7200) "timestamp" record := by
    intro record hr
    simp only [threeKinds, List.mem_cons, List.not_mem_nil, or_false] at hr
    rcases hr with rfl | rfl | rfl
    · exact ⟨⟨⟨1709330400, 0⟩, 0⟩, rfl, by decide +kernel, by decide +kernel⟩
    · exact ⟨⟨⟨1709331000, 0⟩, 0⟩, rfl, by decide +kernel, by decide +kernel⟩
    · exact ⟨⟨⟨1709331600, 0⟩, 0⟩, rfl, by decide +kernel, by decide +kernel⟩
  obtain ⟨bars, hbars⟩ := hthere.2 fun u hu record hr => by
    obtain rfl := Option.some.inj hu
    exact hdated record (List.mem_of_mem_filter hr)
  obtain ⟨counts, hshown, hsum⟩ := hcounts bars hbars
  exact ⟨_, bars, counts, hplan, hbars, hshown, hsum⟩

/-- A record without a time is found, but it is in no bucket, and there is no chart by days. -/
theorem chart_misses :
    let d : Dataset := ⟨[("timestamp", .datetime)], [[]]⟩
    ∃ listing plan, Plan.make (timedSurface d) twoHoursAhead ⟨"", none, [], 0, none⟩ = .ok listing ∧
      (Session.start listing ()).total.1 = .ok 1 ∧
      Plan.make (timedSurface d) twoHoursAhead ⟨"", none, ["day"], 0, none⟩ = .ok plan ∧
      ∀ bars, ((Session.start plan ()).chart plan.step).1 ≠ .ok bars := by
  intro d
  refine ⟨_, _, make_listing.2 ⟨_, rfl, rfl⟩, eq_ok_of_toOption (by decide +kernel),
    make_bucketed (u := .day) rfl, fun bars h => ?_⟩
  have hnone : ((Session.start (bucketPlan (timedSurface d) twoHoursAhead "" .lucene .empty .day 0
      none) ()).chart ⟨.day, 1⟩).1.toOption.isNone = true := by decide +kernel
  have hsome := congrArg (fun answer => answer.toOption.isNone) h
  exact Bool.false_ne_true (hsome.symm.trans hnone)

end EventSearch.Search
