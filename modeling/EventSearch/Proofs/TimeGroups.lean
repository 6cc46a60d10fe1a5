/-
# `EventSearch.Proofs.TimeGroups` — a search grouped by a unit of time

A search grouped by a unit of time groups by the calendar components down to it, sorts by them and
puts each row's components together to a timestamp.  None of the three steps mentions buckets.  In a
zone of one offset they still agree with `TimeUnit.truncate`: records with equal components are those
with one truncation (`truncate_eq_iff`), rows are sorted as their truncations are (`orderRows_cells`), and
the timestamp of a row is the truncation of its records (`keyStart?_cells`).  So the rows are the
buckets of the found records in order of time, each with the number of records in it
(`collect_buckets`).

A bucket is `Placed` when the local time is one of a year in use and its start is an instant of one.
-/
import EventSearch.Proofs.BucketComponents
import EventSearch.Proofs.BucketWindow
import EventSearch.Proofs.KeyTexts
import EventSearch.Proofs.PlannedSearch

namespace EventSearch.Calendar

theorem Clock.shift_shift (c : Clock) (a b : Int) : (c.shift a).shift b = c.shift (a + b) := by
  rw [shift, shift, shift, Int.add_assoc]

theorem Clock.shift_zero (c : Clock) : c.shift 0 = c := by
  rw [shift, Int.add_zero]

theorem Timestamp.order_of_seconds {t u : Timestamp} (h : t.utc.seconds < u.utc.seconds) :
    t.order u = .lt := by
  rw [order, Clock.order, Ordering.then_eq_lt, Int.compare_eq_lt]
  exact .inl h

namespace TimeUnit

/-! ## Buckets -/

/-- An instant whose local time is in use and whose bucket starts at an instant in use. -/
structure Placed (u : TimeUnit) (z : Zone) (t : Timestamp) : Prop where
  shown : (z.toLocal t).clock.inRange = true
  start : (z.ofClock? (u.opening z t)).isSome

variable {u : TimeUnit} {z : Zone} {t t' : Timestamp} {offset : Int}

/-- The components of an instant are put together to its truncation. -/
theorem timestampOf?_placed (h : u.Placed z t) :
    Search.timestampOf? (u.components (z.toLocal t).clock) z = some (u.truncate t z) := by
  obtain ⟨s, hs⟩ := Option.isSome_iff_exists.1 h.start
  rw [Search.timestampOf?_components u h.shown z, truncate_eq hs]
  exact hs

/-- At one offset the start of a bucket is its first reading, moved back. -/
theorem truncate_fixed (h : u.Placed (.fixed offset) t) :
    u.truncate t (.fixed offset) = ⟨(u.opening (.fixed offset) t).shift (-offset), offset⟩ := by
  obtain ⟨s, hs⟩ := Option.isSome_iff_exists.1 h.start
  rw [truncate_eq hs]
  simp only [Zone.ofClock?] at hs
  split at hs
  · exact (Option.some.inj hs).symm
  · cases hs

theorem truncate_seconds (h : u.Placed (.fixed offset) t) :
    (u.truncate t (.fixed offset)).utc.seconds = (u.opening (.fixed offset) t).seconds - offset := by
  rw [truncate_fixed h]
  rfl

/-- Instants have one truncation when their components are equal, and only then. -/
theorem truncate_eq_iff (h : u.Placed (.fixed offset) t) (h' : u.Placed (.fixed offset) t') :
    u.truncate t (.fixed offset) = u.truncate t' (.fixed offset) ↔
      u.components ((Zone.fixed offset).toLocal t).clock =
        u.components ((Zone.fixed offset).toLocal t').clock := by
  rw [← floor_eq_iff, truncate_fixed h, truncate_fixed h']
  constructor
  · intro he
    have hclock := congrArg (Clock.shift · offset) (Timestamp.mk.inj he).1
    simp only [Clock.shift_shift, Int.add_left_neg, Clock.shift_zero] at hclock
    exact hclock
  · intro he
    have hopening : u.opening (.fixed offset) t = u.opening (.fixed offset) t' := he
    rw [hopening]

/-- Components compare as truncations do. -/
theorem orderComponents_truncate (h : u.Placed (.fixed offset) t) (h' : u.Placed (.fixed offset) t') :
    orderComponents (u.components ((Zone.fixed offset).toLocal t).clock)
        (u.components ((Zone.fixed offset).toLocal t').clock) =
      compare (u.truncate t (.fixed offset)).utc.seconds
        (u.truncate t' (.fixed offset)).utc.seconds := by
  rw [orderComponents_eq, truncate_seconds h, truncate_seconds h']
  show compare (u.opening (.fixed offset) t).seconds (u.opening (.fixed offset) t').seconds = _
  rcases Int.lt_trichotomy (u.opening (.fixed offset) t).seconds
    (u.opening (.fixed offset) t').seconds with hlt | heq | hgt
  · rw [Int.compare_eq_lt.2 hlt, Int.compare_eq_lt.2 (by omega)]
  · rw [Int.compare_eq_eq.2 heq, Int.compare_eq_eq.2 (by omega)]
  · rw [Int.compare_eq_gt.2 hgt, Int.compare_eq_gt.2 (by omega)]

end TimeUnit

end EventSearch.Calendar

namespace EventSearch.Search

open EventSearch.Data EventSearch.Calendar EventSearch.Query EventSearch.Provider

/-! ## Cells -/

/-- The time of a record. -/
def timeOf? (name : String) (record : Record) : Option Timestamp :=
  match find? name record with
  | some (.timestamp t) => some t
  | _ => none

theorem timeOf?_eq_some {name : String} {record : Record} {t : Timestamp} :
    timeOf? name record = some t ↔ find? name record = some (.timestamp t) := by
  unfold timeOf?
  split
  · next u hu => simp [hu]
  · next hne =>
    constructor
    · intro h
      cases h
    · intro h
      exact absurd h (hne t)

/-- The columns of the calendar components down to a unit. -/
def bucketColumns (name : String) (z : Zone) (u : TimeUnit) : List Column :=
  u.cascade.map (Column.component name z)

theorem bucketColumns_plain (name : String) (z : Zone) (u : TimeUnit) :
    ∀ c ∈ bucketColumns name z u, c.isCount = false := by
  intro c hc
  obtain ⟨unit, -, rfl⟩ := List.mem_map.1 hc
  rfl

/-- The cells of the calendar components of an instant. -/
def bucketCells (z : Zone) (u : TimeUnit) (t : Timestamp) : Row :=
  (u.components (z.toLocal t).clock).map .integer

theorem rowOf_bucket {name : String} {record : Record} {t : Timestamp}
    (h : timeOf? name record = some t) (z : Zone) (u : TimeUnit) :
    rowOf (bucketColumns name z u) record = bucketCells z u t := by
  rw [timeOf?_eq_some] at h
  simp only [rowOf, bucketColumns, bucketCells, TimeUnit.components, List.map_map]
  refine List.map_congr_left fun unit _ => ?_
  simp only [Function.comp_def, Column.cell, h, Option.map_some, Option.getD_some,
    Column.componentOf, Value.asTimestamp?]

theorem keyText_integers {as bs : List Int} :
    keyText (as.map Value.integer) = keyText (bs.map Value.integer) ↔ as = bs := by
  constructor
  · intro h
    rw [keyText_eq_iff_inspect, List.map_map, List.map_map] at h
    refine List.map_injective_iff.2 (fun a b he => ?_) h
    exact Number.Double.toString_injective (bracketed_inj he)
  · exact fun h => by rw [h]

theorem wholeCells_integers (ns : List Int) : wholeCells (ns.map Value.integer) = .ok ns := by
  induction ns with
  | nil => rfl
  | cons n ns ih => simp only [List.map_cons, wholeCells, Value.asInteger?, ih, Except.map]

/-- The timestamp that the cells of a key are put together to. -/
def keyStart? (z : Zone) (key : Row) : Option Timestamp :=
  (wholeCells key).toOption.bind (timestampOf? · z)

theorem keyStart?_cells {u : TimeUnit} {z : Zone} {t : Timestamp} (h : u.Placed z t) :
    keyStart? z (bucketCells z u t) = some (u.truncate t z) := by
  rw [keyStart?, bucketCells, wholeCells_integers]
  exact TimeUnit.timestampOf?_placed h

/-- The row of a bucket. -/
def bucketRow (b : Nat × Timestamp) : Row := [.integer b.1, .timestamp b.2]

theorem rebuildRow_cells {u : TimeUnit} {z : Zone} {t : Timestamp} (h : u.Placed z t) (n : Nat) :
    rebuildRow 1 z (.integer n :: bucketCells z u t) = .ok (bucketRow (n, u.truncate t z)) := by
  have hlength : ¬ (Value.integer n :: bucketCells z u t).length ≤ 1 := by
    have hpos : 0 < u.cascade.length := by cases u <;> decide
    rw [List.length_cons, bucketCells, List.length_map, TimeUnit.components, List.length_map]
    omega
  have htimestamp : timestampOf (u.components (z.toLocal t).clock) z = .ok (u.truncate t z) := by
    rw [timestampOf, TimeUnit.timestampOf?_placed h]
  rw [rebuildRow, if_neg hlength, List.drop_one, List.tail_cons, bucketCells, wholeCells_integers]
  simp only [bind, Except.bind, htimestamp]
  rfl

/-! ## Groups -/

/-- The bucket of a record. -/
def bucketOf? (u : TimeUnit) (z : Zone) (name : String) (record : Record) : Option Timestamp :=
  (timeOf? name record).map (u.truncate · z)

/-- Records with a time, all of whose buckets are placed. -/
def AllPlaced (u : TimeUnit) (z : Zone) (name : String) (records : List Record) : Prop :=
  ∀ record ∈ records, ∃ t, timeOf? name record = some t ∧ u.Placed z t

/-- The buckets of some records with the number of records in each, in order of time. -/
structure Buckets (u : TimeUnit) (z : Zone) (name : String) (records : List Record)
    (buckets : List (Nat × Timestamp)) : Prop where
  increasing : buckets.Pairwise fun b b' => b.2.order b'.2 = .lt
  starts : ∀ start, start ∈ buckets.map (·.2) ↔
    ∃ record ∈ records, bucketOf? u z name record = some start
  counts : ∀ b ∈ buckets, b.1 = (records.filter fun record =>
    bucketOf? u z name record = some b.2).length

section Groups

variable {u : TimeUnit} {offset : Int} {name : String} {records : List Record}

/-- The groups of some records in a zone of one offset. -/
abbrev timeGroups (u : TimeUnit) (offset : Int) (name : String) (records : List Record) :
    List (Row × Nat) :=
  groupsOf (.count :: bucketColumns name (.fixed offset) u) records

/-- A group has the components of an instant and counts the records in its bucket. -/
theorem mem_timeGroups (hp : AllPlaced u (.fixed offset) name records) {g : Row × Nat}
    (hg : g ∈ timeGroups u offset name records) :
    ∃ record ∈ records, ∃ t, timeOf? name record = some t ∧ u.Placed (.fixed offset) t ∧
      g.1 = bucketCells (.fixed offset) u t ∧
      g.2 = (records.filter fun r =>
        bucketOf? u (.fixed offset) name r = some (u.truncate t (.fixed offset))).length := by
  obtain ⟨record, hr, hkey, hcount⟩ := mem_groupsOf (bucketColumns_plain name (.fixed offset) u) hg
  obtain ⟨t, ht, hplaced⟩ := hp record hr
  rw [rowOf_bucket ht] at hkey
  refine ⟨record, hr, t, ht, hplaced, hkey, ?_⟩
  rw [hcount]
  refine congrArg List.length (List.filter_congr fun r hmem => ?_)
  obtain ⟨t', ht', hplaced'⟩ := hp r hmem
  rw [rowOf_bucket ht', hkey, bucketOf?, ht', Option.map_some, decide_eq_decide, bucketCells,
    bucketCells, keyText_integers, Option.some.injEq]
  exact (TimeUnit.truncate_eq_iff hplaced' hplaced).symm

/-- Every record is in the bucket of a group. -/
theorem exists_timeGroup (hp : AllPlaced u (.fixed offset) name records) {record : Record}
    (hr : record ∈ records) {t : Timestamp} (ht : timeOf? name record = some t) :
    ∃ g ∈ timeGroups u offset name records, g.1 = bucketCells (.fixed offset) u t := by
  have hplain := bucketColumns_plain name (.fixed offset) u
  have hkey : keyOf (.count :: bucketColumns name (.fixed offset) u) record
      = bucketCells (.fixed offset) u t := by
    rw [keyOf_plain hplain, rowOf_bucket ht]
  have htally := tally_groupsOf (.count :: bucketColumns name (.fixed offset) u) records
  obtain ⟨g, hg, htext⟩ := htally.complete _ (List.mem_map_of_mem hr)
  obtain ⟨-, -, t', -, -, hcells, -⟩ := mem_timeGroups hp hg
  refine ⟨g, hg, ?_⟩
  rw [hkey, hcells] at htext
  rw [hcells]
  exact congrArg (List.map Value.integer) (keyText_integers.1 htext)

/-- What a search grouped by a unit of time retrieves. -/
def bucketRetrievals (path : String) (z : Zone) (u : TimeUnit) : List Retrieval :=
  Retrieval.count :: Grouping.components path z u

/-- Rows are sorted by their components. -/
theorem orderRows_cells (path : String) (z : Zone) (u : TimeUnit) (n n' : Nat) (t t' : Timestamp) :
    orderRows (bucketRetrievals path z u) (.integer n :: bucketCells z u t)
        (.integer n' :: bucketCells z u t') =
      orderComponents (u.components (z.toLocal t).clock) (u.components (z.toLocal t').clock) := by
  have hunits : ∀ units : List TimeUnit, ∀ c c' : Clock,
      orderRows (units.map fun u => ((Retrieval.component path z u).asGroup).ordered .asc)
        ((units.map (·.component c)).map Value.integer)
        ((units.map (·.component c')).map Value.integer) =
      orderComponents (units.map (·.component c)) (units.map (·.component c')) := by
    intro units c c'
    induction units with
    | nil => rfl
    | cons unit units ih =>
      simp only [List.map_cons, orderRows, orderComponents, ih]
      rfl
  have hrest := hunits u.cascade (z.toLocal t).clock (z.toLocal t').clock
  simp only [bucketRetrievals, Grouping.components, orderRows]
  rw [bucketCells, bucketCells, TimeUnit.components, TimeUnit.components, hrest]
  rfl

/-- The row of a group. -/
def timeGroupRow (g : Row × Nat) : Row := .integer g.2 :: g.1

/-- The bucket of a group: its count and the start that its components are put together to. -/
def groupBucket (z : Zone) (g : Row × Nat) : Nat × Timestamp :=
  (g.2, (keyStart? z g.1).getD ⟨⟨0, 0⟩, 0⟩)

theorem groupBucket_cells {z : Zone} {t : Timestamp} (h : u.Placed z t) {g : Row × Nat}
    (hg : g.1 = bucketCells z u t) : groupBucket z g = (g.2, u.truncate t z) := by
  rw [groupBucket, hg, keyStart?_cells h, Option.getD_some]

/-- The groups in the order of their rows. -/
def sortedGroups (path : String) (u : TimeUnit) (offset : Int) (name : String)
    (records : List Record) : List (Row × Nat) :=
  sortBy (fun g g' => orderRows (bucketRetrievals path (.fixed offset) u) (timeGroupRow g)
    (timeGroupRow g')) (timeGroups u offset name records)

variable {path : String}

theorem mem_sortedGroups {g : Row × Nat} : g ∈ sortedGroups path u offset name records ↔
    g ∈ timeGroups u offset name records :=
  (sortBy_perm _ _).mem_iff

theorem sortRows_groups : sortRows (bucketRetrievals path (.fixed offset) u)
      (groupRows (.count :: bucketColumns name (.fixed offset) u) records) =
    (sortedGroups path u offset name records).map timeGroupRow := by
  have hordered : (bucketRetrievals path (.fixed offset) u).any (·.order.isSome) = true := by
    cases u <;> rfl
  rw [sortRows, if_pos hordered, groupRows_plain (bucketColumns_plain name (.fixed offset) u)]
  exact sortBy_map _ timeGroupRow _

/-- The buckets of sorted groups start one after the other. -/
theorem sortedGroups_increasing (hp : AllPlaced u (.fixed offset) name records) :
    ((sortedGroups path u offset name records).map (groupBucket (.fixed offset))).Pairwise
      fun b b' => b.2.order b'.2 = .lt := by
  have hsorted : (sortedGroups path u offset name records).Pairwise fun g g' =>
      (groupBucket (.fixed offset) g).2.utc.seconds ≤
        (groupBucket (.fixed offset) g').2.utc.seconds := by
    refine sortBy_sorted fun g hg g' hg' => ?_
    obtain ⟨-, -, t, -, hplaced, hcells, -⟩ := mem_timeGroups hp hg
    obtain ⟨-, -, t', -, hplaced', hcells', -⟩ := mem_timeGroups hp hg'
    rw [groupBucket_cells hplaced hcells, groupBucket_cells hplaced' hcells', timeGroupRow,
      timeGroupRow, hcells, hcells', orderRows_cells]
    exact TimeUnit.orderComponents_truncate hplaced hplaced'
  have hdistinct : (sortedGroups path u offset name records).Pairwise fun g g' =>
      keyText g.1 ≠ keyText g'.1 :=
    (sortBy_perm _ _).symm.pairwise (tally_groupsOf _ records).distinct fun h => Ne.symm h
  refine List.pairwise_map.2 ((hsorted.and hdistinct).imp_of_mem fun {g g'} hg hg' h => ?_)
  obtain ⟨-, -, t, -, hplaced, hcells, -⟩ := mem_timeGroups hp (mem_sortedGroups.1 hg)
  obtain ⟨-, -, t', -, hplaced', hcells', -⟩ := mem_timeGroups hp (mem_sortedGroups.1 hg')
  obtain ⟨hle, hne⟩ := h
  rw [groupBucket_cells hplaced hcells, groupBucket_cells hplaced' hcells'] at hle ⊢
  refine Timestamp.order_of_seconds (Int.lt_iff_le_and_ne.2 ⟨hle, fun heq => hne ?_⟩)
  have hcompare := TimeUnit.orderComponents_truncate hplaced hplaced'
  rw [Int.compare_eq_eq.2 heq] at hcompare
  rw [hcells, hcells', bucketCells, bucketCells, TimeUnit.orderComponents_eq_eq hcompare]

/-- The rows of sorted groups are rebuilt to those of their buckets. -/
theorem rebuilt_sortedGroups (hp : AllPlaced u (.fixed offset) name records) :
    ((sortedGroups path u offset name records).map timeGroupRow).map (rebuildRow 1 (.fixed offset)) =
      (((sortedGroups path u offset name records).map (groupBucket (.fixed offset))).map
        bucketRow).map .ok := by
  simp only [List.map_map]
  refine List.map_congr_left fun g hg => ?_
  obtain ⟨-, -, t, -, hplaced, hcells, -⟩ := mem_timeGroups hp (mem_sortedGroups.1 hg)
  simp only [Function.comp_def, groupBucket_cells hplaced hcells, timeGroupRow, hcells]
  exact rebuildRow_cells hplaced g.2

/-- The buckets of sorted groups are those of the records. -/
theorem buckets_sortedGroups (hp : AllPlaced u (.fixed offset) name records) :
    Buckets u (.fixed offset) name records
      ((sortedGroups path u offset name records).map (groupBucket (.fixed offset))) := by
  have hmem : ∀ b ∈ (sortedGroups path u offset name records).map (groupBucket (.fixed offset)),
      (∃ record ∈ records, bucketOf? u (.fixed offset) name record = some b.2) ∧
        b.1 = (records.filter fun r => bucketOf? u (.fixed offset) name r = some b.2).length := by
    intro b hb
    obtain ⟨g, hg, rfl⟩ := List.mem_map.1 hb
    obtain ⟨record, hr, t, ht, hplaced, hcells, hcount⟩ := mem_timeGroups hp (mem_sortedGroups.1 hg)
    rw [groupBucket_cells hplaced hcells]
    exact ⟨⟨record, hr, by rw [bucketOf?, ht]; rfl⟩, hcount⟩
  refine ⟨sortedGroups_increasing hp, fun start => ⟨fun hstart => ?_, ?_⟩, fun b hb => (hmem b hb).2⟩
  · obtain ⟨b, hb, rfl⟩ := List.mem_map.1 hstart
    exact (hmem b hb).1
  · rintro ⟨record, hr, hs⟩
    obtain ⟨t, ht, hplaced⟩ := hp record hr
    obtain ⟨g, hg, hcells⟩ := exists_timeGroup hp hr ht
    rw [bucketOf?, ht, Option.map_some] at hs
    obtain rfl := Option.some.inj hs
    refine List.mem_map.2 ⟨_, List.mem_map_of_mem (mem_sortedGroups.2 hg), ?_⟩
    rw [groupBucket_cells hplaced hcells]

end Groups

/-! ## Plans -/

variable {s : Surface Unit} {store : Store} {d : Dataset} {context : Context} {u : TimeUnit}

/-- The plan of a search grouped by a unit of time. -/
def bucketPlan (s : Surface Unit) (context : Context) (query : String) (mode : Mode) (c : Criteria)
    (u : TimeUnit) (offset : Nat) (limit : Option Nat) : Plan Unit :=
  ⟨s, context, query, mode, c, c.and (context.ambient s.timePath),
    ⟨[u.name], [1], some u, bucketRetrievals s.timePath context.zone u, some 1⟩,
    bucketRetrievals s.timePath context.zone u, offset, limit⟩

theorem ofName?_name (u : TimeUnit) : TimeUnit.ofName? u.name = some u := by
  cases u <;> decide

/-- A search grouped by a unit of time is planned as such. -/
theorem make_bucketed {query : String} {mode : Option Mode} {offset : Nat} {limit : Option Nat}
    {c : Criteria} (hc : compile s.datatype s.translations (mode.getD s.defaultMode) query = .ok c) :
    Plan.make s context ⟨query, mode, [u.name], offset, limit⟩ =
      .ok (bucketPlan s context query (mode.getD s.defaultMode) c u offset limit) := by
  have htemporal : TimeUnit.isTemporal u.name = true := by
    rw [TimeUnit.isTemporal, ofName?_name]
    rfl
  have hdistinct : Grouping.distinct [u.name] = [u.name] := rfl
  have hunits : [u.name].filter TimeUnit.isTemporal = [u.name] := by
    rw [List.filter_cons_of_pos htemporal, List.filter_nil]
  have hfields : [u.name].filter (fun name => !TimeUnit.isTemporal name) = [] := by
    rw [List.filter_cons_of_neg (by simp [htemporal]), List.filter_nil]
  have hgrouping : Grouping.ofNames s context.zone [u.name] =
      .ok ⟨[u.name], [1], some u, bucketRetrievals s.timePath context.zone u, some 1⟩ := by
    simp only [Grouping.ofNames, hunits, hfields, List.length_singleton, gt_iff_lt, Nat.lt_irrefl,
      if_false, Grouping.fieldPaths, Except.map, List.head?_cons, Option.bind_some, ofName?_name]
    rfl
  simp only [Plan.make, Plan.compileQuery, hc, hdistinct, bind, Except.bind, hgrouping]
  rfl

theorem ofRetrievals_components (htime : (d.fieldType? s.timeField).isSome) (z : Zone)
    (u : TimeUnit) : Column.ofRetrievals ⟨s.datatype, d⟩ (Grouping.components s.timePath z u) =
      .ok (bucketColumns s.timeField z u) := by
  have hfield : (⟨s.datatype, d⟩ : Scope).field s.timePath = .ok s.timeField :=
    @field_qualified ⟨s.datatype, d⟩ s.timeField htime
  rw [Grouping.components, bucketColumns]
  induction u.cascade with
  | nil => rfl
  | cons unit units ih =>
    simp only [List.map_cons, Column.ofRetrievals, Retrieval.ordered, Retrieval.asGroup,
      Retrieval.component, Column.ofSource, hfield, Except.map]
    rw [show Column.ofRetrievals ⟨s.datatype, d⟩ (units.map fun u =>
      (⟨.component s.timePath z u, true, some .asc⟩ : Retrieval)) = _ from ih]

theorem ofRetrievals_bucketed (htime : (d.fieldType? s.timeField).isSome) (z : Zone) (u : TimeUnit) :
    Column.ofRetrievals ⟨s.datatype, d⟩ (bucketRetrievals s.timePath z u) =
      .ok (.count :: bucketColumns s.timeField z u) := by
  simp only [bucketRetrievals, Column.ofRetrievals, Retrieval.count, Column.ofSource,
    ofRetrievals_components htime]
  rfl

/-! ## Buckets of a search -/

/-- An unlimited search grouped by a unit of time in a zone of one offset returns the buckets of the
found records in order of time, each with the number of records in it. -/
theorem collect_buckets (hs : s.Over store d) (htime : (d.fieldType? s.timeField).isSome)
    {offset : Int} (hz : context.zone = .fixed offset) {query : String} {mode : Option Mode}
    {c : Criteria} (hc : compile s.datatype s.translations (mode.getD s.defaultMode) query = .ok c)
    {f : Filter}
    (hf : Filter.compile ⟨s.datatype, d⟩ (c.and (context.ambient s.timePath)) = .ok f)
    (hp : AllPlaced u context.zone s.timeField (found d f)) :
    ∃ plan buckets, Plan.make s context ⟨query, mode, [u.name], 0, none⟩ = .ok plan ∧
      (Session.start plan ()).collect.1 = .ok (List.map bucketRow buckets) ∧
      Buckets u context.zone s.timeField (found d f) buckets := by
  let plan := bucketPlan s context query (mode.getD s.defaultMode) c u 0 none
  let rows := Store.allRows plan.request f (.count :: bucketColumns s.timeField context.zone u) d.records
  have hexec := @execute_eq s store d hs plan.request rfl _
    (ofRetrievals_bucketed htime context.zone u)
  have hpage : Store.page plan.request.offset plan.request.limit rows = rows := List.drop_zero
  have hcriteria : plan.request.criteria = c.and (context.ambient s.timePath) := rfl
  have hmark : plan.request.highlight = none := rfl
  have hrun : (Session.start plan ()).run.1 = .ok (Session.finish plan (.ofRows rows rows.length)) := by
    rw [run_start hs rfl, hexec, hcriteria, hmark, hf]
    simp only [Store.markRows, Except.map]
    rw [hpage]
  rw [hz] at hp
  have hrows : rows = (sortedGroups s.timePath u offset s.timeField (found d f)).map timeGroupRow := by
    rw [← sortRows_groups, ← hz]
    rfl
  refine ⟨plan, (sortedGroups s.timePath u offset s.timeField (found d f)).map
    (groupBucket (.fixed offset)), make_bucketed hc, collect_eq_ok.2 ⟨_, hrun, ?_⟩, ?_⟩
  · have hfinish : (Session.finish plan (.ofRows rows rows.length)).rows =
        rows.map (rebuildRow 1 context.zone) := by
      show List.map _ (List.map _ _) = _
      rw [List.map_map]
      rfl
    rw [hfinish, hrows, hz, rebuilt_sortedGroups hp, goodRows_ofRows]
  · rw [hz]
    exact buckets_sortedGroups hp

/-! ## Samples -/

/-- A surface over one dataset of events with a time. -/
def timedSurface (d : Dataset) : Surface Unit :=
  ⟨"events", "events", (Store.ofList [("events", d)]).provider, .empty, [], .lucene, "timestamp",
    "timestamp", [], .default⟩

theorem timedSurface_over (d : Dataset) :
    (timedSurface d).Over (Store.ofList [("events", d)]) d :=
  ⟨rfl, rfl, fun _ hf => absurd hf List.not_mem_nil⟩

/-- Two hours ahead of UTC, no window. -/
def twoHoursAhead : Context := ⟨.fixed 7200, none, []⟩

/-- A record with nothing but a time. -/
def recordAt (second : Int) : Record := [("timestamp", .timestamp ⟨⟨second, 0⟩, 0⟩)]

/-- Three times, the last two of them on one day in the zone: 22:30 and 23:00 UTC. -/
def threeTimes : Dataset :=
  ⟨[("timestamp", .datetime)], [recordAt 1709330400, recordAt 1709245800, recordAt 1709247600]⟩

/-- The three times are in two buckets of a day. -/
theorem collect_buckets_three :
    (timedSurface threeTimes).Over (Store.ofList [("events", threeTimes)]) threeTimes ∧
      AllPlaced .day (.fixed 7200) "timestamp" (found threeTimes .all) ∧
      ∃ plan buckets,
        Plan.make (timedSurface threeTimes) twoHoursAhead ⟨"", none, ["day"], 0, none⟩ = .ok plan ∧
          (Session.start plan ()).collect.1 = .ok (List.map bucketRow buckets) ∧
          Buckets .day (.fixed 7200) "timestamp" (found threeTimes .all) buckets := by
  have hplaced (second : Int)
      (h : ((Zone.fixed 7200).toLocal ⟨⟨second, 0⟩, 0⟩).clock.inRange = true)
      (hs : ((Zone.fixed 7200).ofClock?
        (TimeUnit.day.opening (.fixed 7200) ⟨⟨second, 0⟩, 0⟩)).isSome = true) :
      ∃ t, timeOf? "timestamp" (recordAt second) = some t ∧ TimeUnit.day.Placed (.fixed 7200) t :=
    ⟨⟨⟨second, 0⟩, 0⟩, rfl, h, hs⟩
  have hall : AllPlaced .day (.fixed 7200) "timestamp" (found threeTimes .all) := by
    have hfound : found threeTimes .all = threeTimes.records :=
      List.filter_eq_self.2 fun record _ => by rw [Filter.accepts]
    rw [hfound]
    intro record hr
    simp only [threeTimes, List.mem_cons, List.not_mem_nil, or_false] at hr
    rcases hr with rfl | rfl | rfl
    · exact hplaced 1709330400 (by decide +kernel) (by decide +kernel)
    · exact hplaced 1709245800 (by decide +kernel) (by decide +kernel)
    · exact hplaced 1709247600 (by decide +kernel) (by decide +kernel)
  exact ⟨timedSurface_over threeTimes, hall,
    collect_buckets (u := .day) (timedSurface_over threeTimes) (by decide) rfl rfl rfl hall⟩

/-- Half an hour after the first midnight in use the day began before any instant in use, and its
row has no timestamp; without records the time field need not be declared, and is then unknown. -/
theorem collect_buckets_edges :
    (∃ t : Timestamp, ((Zone.fixed 7200).toLocal t).clock.inRange = true ∧
      ∃ plan, Plan.make (timedSurface ⟨[("timestamp", .datetime)], [[("timestamp", .timestamp t)]]⟩)
          twoHoursAhead ⟨"", none, ["day"], 0, none⟩ = .ok plan ∧
        ∀ rows, (Session.start plan ()).collect.1 ≠ .ok rows) ∧
    ∃ plan, Plan.make (timedSurface .empty) twoHoursAhead ⟨"", none, ["day"], 0, none⟩ = .ok plan ∧
      ∀ rows, (Session.start plan ()).collect.1 ≠ .ok rows := by
  have hfails {plan : Plan Unit}
      (h : (Session.start plan ()).collect.1.toOption.isNone = true) (rows : List Row) :
      (Session.start plan ()).collect.1 ≠ .ok rows := by
    intro he
    rw [he] at h
    cases h
  refine ⟨⟨⟨⟨-8334601227000, 0⟩, 0⟩, by decide +kernel, _, make_bucketed (u := .day) rfl, ?_⟩, _,
    make_bucketed (u := .day) rfl, ?_⟩
  · exact hfails (by decide +kernel)
  · exact hfails (by decide +kernel)

end EventSearch.Search
