/-
# `EventSearch.Proofs.ChartPlans` — searches in groups, planned and run

A search that is grouped by declared fields and at most one unit of time is planned as such
(`make_chart`).  Run on the events in memory it answers with a row for each group of the records
found, in some order (`run_chart`): sorting loses none and adds none.

| | |
| :-- | :-- |
| `Groupable` | a field that a search may be grouped by |
| `chartPlan` | a search grouped by fields and perhaps a time unit, as planned |
| `chartColumns` | the columns of these groups, behind the count |
-/
import EventSearch.Proofs.TimeGroups

namespace EventSearch.Search

open EventSearch.Text EventSearch.Data EventSearch.Calendar EventSearch.Query EventSearch.Provider

/-! ## Plans -/

variable {s : Surface Unit} {store : Store} {d : Dataset} {context : Context}

/-- The grouping by some fields, and perhaps a unit of time. -/
def chartGrouping (s : Surface Unit) (z : Zone) (names : List String) (unit : Option TimeUnit) :
    Grouping :=
  .ofPaths s.timePath z names (names.map fun name => [groupRetrieval s name]) unit

/-- The plan of a search in groups that is not paged. -/
def chartPlan (s : Surface Unit) (context : Context) (query : String) (mode : Mode) (c : Criteria)
    (names : List String) (unit : Option TimeUnit) : Plan Unit :=
  let g := chartGrouping s context.zone names unit
  ⟨s, context, query, mode, c, c.and (context.ambient s.timePath), g, g.retrievals, 0, none⟩

/-- The columns of these groups, behind the count. -/
def chartColumns (s : Surface Unit) (z : Zone) (names : List String) (unit : Option TimeUnit) :
    List Column :=
  fieldColumns names ++ unit.elim [] (bucketColumns s.timeField z)

/-- A field that a search may be grouped by: declared, of a kind that makes groups, and not
translated. -/
def Groupable (s : Surface Unit) (name : String) : Prop :=
  s.translations.get? name = none ∧ ∃ f, s.fieldInfo? name = some f ∧ f.info.groupable = true

theorem fieldPaths_groupable (hs : s.Over store d) {names : List String}
    (h : ∀ name ∈ names, Groupable s name) :
    Grouping.fieldPaths s names = .ok (names.map fun name => [groupRetrieval s name]) ∧
      ∀ name ∈ names, (d.fieldType? name).isSome := by
  obtain ⟨paths, hpaths⟩ : ∃ paths, Grouping.fieldPaths s names = .ok paths := by
    induction names with
    | nil => exact ⟨[], rfl⟩
    | cons name names ih =>
      obtain ⟨hget, f, hf, hg⟩ := h name List.mem_cons_self
      obtain ⟨paths, hpaths⟩ := ih fun n hm => h n (List.mem_cons_of_mem name hm)
      have hgroup : s.groupPaths name = .ok [(Retrieval.field f.info.path).asGroup] := by
        simp only [Surface.groupPaths, hget, hf, hg, if_true]
      exact ⟨_ :: paths, by rw [Grouping.fieldPaths, hgroup, hpaths]; rfl⟩
  obtain ⟨rfl, hdeclared⟩ := fieldPaths_eq_ok hs (fun name hm => (h name hm).1) hpaths
  exact ⟨hpaths, hdeclared⟩

/-- Names that are not repeated hold one time unit at most, when any two that they hold are equal. -/
theorem units_cases {names : List String} (hnodup : names.Nodup)
    (hunit : ∀ a ∈ names, ∀ b ∈ names, TimeUnit.isTemporal a = true →
      TimeUnit.isTemporal b = true → a = b) :
    names.filter TimeUnit.isTemporal = [] ∨
      ∃ name unit, TimeUnit.ofName? name = some unit ∧ names.filter TimeUnit.isTemporal = [name] := by
  have hmem : ∀ a ∈ names.filter TimeUnit.isTemporal, a ∈ names ∧ TimeUnit.isTemporal a = true :=
    fun a ha => List.mem_filter.1 ha
  have hunits := hnodup.filter TimeUnit.isTemporal
  cases hfilter : names.filter TimeUnit.isTemporal with
  | nil => exact .inl rfl
  | cons a more =>
    rw [hfilter] at hmem hunits
    obtain ⟨ha, hat⟩ := hmem a List.mem_cons_self
    obtain ⟨unit, hname⟩ := Option.isSome_iff_exists.1 hat
    cases more with
    | nil => exact .inr ⟨a, unit, hname, rfl⟩
    | cons b more =>
      obtain ⟨hb, hbt⟩ := hmem b (List.mem_cons_of_mem a List.mem_cons_self)
      obtain rfl := hunit a ha b hb hat hbt
      exact absurd List.mem_cons_self (List.nodup_cons.1 hunits).1

/-- A search in groups is planned as such. -/
theorem make_chart (context : Context) (hs : s.Over store d) {p : SearchParams} (hne : p.groupby ≠ [])
    (hpage : p.offset = 0 ∧ p.limit = none)
    (hfields : ∀ name ∈ p.groupby, TimeUnit.isTemporal name = false → Groupable s name)
    (hunit : ∀ a ∈ p.groupby, ∀ b ∈ p.groupby, TimeUnit.isTemporal a = true →
      TimeUnit.isTemporal b = true → a = b)
    {c : Criteria}
    (hc : compile s.datatype s.translations (p.mode.getD s.defaultMode) p.query = .ok c) :
    ∃ names unit, (∀ name ∈ names, (d.fieldType? name).isSome) ∧
      Plan.make s context p
        = .ok (chartPlan s context p.query (p.mode.getD s.defaultMode) c names unit) ∧
      (chartPlan s context p.query (p.mode.getD s.defaultMode) c names unit).isAggregate = true := by
  have hmem (name : String) : name ∈ Grouping.distinct p.groupby ↔ name ∈ p.groupby := mem_distinct
  have hnodup : (Grouping.distinct p.groupby).Nodup := by
    rw [distinct_eq]
    exact nodup_eraseDups p.groupby
  generalize hall : Grouping.distinct p.groupby = all at hmem hnodup
  have hallne : all ≠ [] := by
    obtain ⟨name, hm⟩ := List.exists_mem_of_ne_nil _ hne
    exact List.ne_nil_of_mem ((hmem name).2 hm)
  have hgroupable : ∀ name ∈ all.filter fun name => !TimeUnit.isTemporal name,
      Groupable s name := by
    intro name hm
    obtain ⟨hm, htime⟩ := List.mem_filter.1 hm
    exact hfields name ((hmem name).1 hm) (by simpa using htime)
  obtain ⟨hpaths, hdeclared⟩ := fieldPaths_groupable hs hgroupable
  -- planning once the units among the names are known
  have hmake (unit : Option TimeUnit) (hlength : ¬ (all.filter TimeUnit.isTemporal).length > 1)
      (hname : (all.filter TimeUnit.isTemporal).head?.bind TimeUnit.ofName? = unit) :
      Plan.make s context p = .ok (chartPlan s context p.query (p.mode.getD s.defaultMode) c
        (all.filter fun name => !TimeUnit.isTemporal name) unit) := by
    simp only [Plan.make, Plan.compileQuery, hc, hall, bind, Except.bind, List.isEmpty_iff, hallne,
      if_false, Grouping.ofNames, if_neg hlength, hpaths, hname, hpage.1, hpage.2]
    rfl
  rcases units_cases hnodup fun a ha b hb => hunit a ((hmem a).1 ha) b ((hmem b).1 hb) with
    hplain | ⟨name, unit, hname, hone⟩
  · refine ⟨_, none, hdeclared, hmake none (by simp [hplain]) (by simp [hplain]), ?_⟩
    obtain ⟨name, hm⟩ := List.exists_mem_of_ne_nil _ hallne
    have hfield : name ∈ all.filter fun name => !TimeUnit.isTemporal name :=
      List.mem_filter.2 ⟨hm, by simpa using List.filter_eq_nil_iff.1 hplain name hm⟩
    simp only [Plan.isAggregate, chartPlan, chartGrouping, Grouping.ofPaths, Bool.not_eq_true',
      List.isEmpty_eq_false_iff]
    exact List.ne_nil_of_mem hfield
  · refine ⟨_, some unit, hdeclared, hmake (some unit) (by simp [hone]) (by simp [hone, hname]), ?_⟩
    simp [Plan.isAggregate, chartPlan, chartGrouping, Grouping.ofPaths]

/-! ## Rows -/

theorem ofRetrievals_append {scope : Scope} {rs rs' : List Retrieval} {cs cs' : List Column}
    (h : Column.ofRetrievals scope rs = .ok cs) (h' : Column.ofRetrievals scope rs' = .ok cs') :
    Column.ofRetrievals scope (rs ++ rs') = .ok (cs ++ cs') := by
  induction rs generalizing cs with
  | nil =>
    obtain rfl := Except.ok.inj h
    exact h'
  | cons r rs ih =>
    simp only [List.cons_append, Column.ofRetrievals] at h ⊢
    cases hsource : Column.ofSource scope r.source with
    | error e =>
      rw [hsource] at h
      cases h
    | ok column =>
      cases hrest : Column.ofRetrievals scope rs with
      | error e =>
        rw [hsource, hrest] at h
        cases h
      | ok columns =>
        rw [hsource, hrest] at h
        obtain rfl := Except.ok.inj h
        simp only [ih hrest]
        rfl

/-- The columns of the groups follow the count. -/
theorem ofRetrievals_chart (htime : (d.fieldType? s.timeField).isSome) {names : List String}
    (hn : ∀ name ∈ names, (d.fieldType? name).isSome) (z : Zone) (unit : Option TimeUnit) :
    Column.ofRetrievals ⟨s.datatype, d⟩ (chartGrouping s z names unit).retrievals
      = .ok (.count :: chartColumns s z names unit) := by
  have hfields := ofRetrievals_fields ⟨s.datatype, d⟩ hn (groupRetrieval s) fun name => rfl
  have hcount (r : Retrieval) (hr : r.source = .count) :
      Column.ofRetrievals ⟨s.datatype, d⟩ [r] = .ok [.count] := by
    simp only [Column.ofRetrievals, hr, Column.ofSource]
    rfl
  cases unit with
  | none =>
    have hplain := ofRetrievals_append (hcount (Retrieval.count.ordered .desc) rfl) hfields
    simpa [chartGrouping, Grouping.ofPaths, flatten_singletons, chartColumns] using hplain
  | some u =>
    have htimed := ofRetrievals_append (ofRetrievals_append (hcount Retrieval.count rfl) hfields)
      (ofRetrievals_components htime z u)
    simpa [chartGrouping, Grouping.ofPaths, flatten_singletons, chartColumns] using htimed

theorem chartColumns_plain (s : Surface Unit) (z : Zone) (names : List String)
    (unit : Option TimeUnit) : ∀ c ∈ chartColumns s z names unit, c.isCount = false := by
  intro c hc
  rcases List.mem_append.1 hc with hc | hc
  · obtain ⟨name, -, rfl⟩ := List.mem_map.1 hc
    rfl
  · cases unit with
    | none => cases hc
    | some u => exact bucketColumns_plain s.timeField z u c hc

/-- Sorted rows are those of the groups in some order. -/
theorem sortRows_groupRows {columns : List Column} (hplain : ∀ c ∈ columns, c.isCount = false)
    (retrievals : List Retrieval) (records : List Record) :
    ∃ groups : List (Row × Nat), groups.Perm (groupsOf (.count :: columns) records) ∧
      sortRows retrievals (groupRows (.count :: columns) records) = groups.map timeGroupRow := by
  rw [groupRows_plain hplain, sortRows]
  split
  · exact ⟨_, sortBy_perm _ _, sortBy_map _ timeGroupRow _⟩
  · exact ⟨_, .refl _, rfl⟩

/-- A session runs to the rows of the groups of the records found. -/
theorem run_chart (hs : s.Over store d) (htime : (d.fieldType? s.timeField).isSome)
    {names : List String} (hn : ∀ name ∈ names, (d.fieldType? name).isSome)
    {unit : Option TimeUnit} {query : String} {mode : Mode} {c : Criteria} {f : Filter}
    (hf : Filter.compile ⟨s.datatype, d⟩ (c.and (context.ambient s.timePath)) = .ok f)
    (ha : (chartPlan s context query mode c names unit).isAggregate = true) :
    ∃ groups : List (Row × Nat),
      groups.Perm (groupsOf (.count :: chartColumns s context.zone names unit) (found d f)) ∧
      (Session.start (chartPlan s context query mode c names unit) ()).run.1
        = .ok (Session.finish (chartPlan s context query mode c names unit)
            (.ofRows (groups.map timeGroupRow) groups.length)) := by
  let plan := chartPlan s context query mode c names unit
  obtain ⟨groups, hperm, hrows⟩ := sortRows_groupRows
    (chartColumns_plain s context.zone names unit) plan.request.retrievals (found d f)
  have hexec := @execute_eq s store d hs plan.request rfl _
    (ofRetrievals_chart htime hn context.zone unit)
  have hall : Store.allRows plan.request f
      (.count :: chartColumns s context.zone names unit) d.records = groups.map timeGroupRow := by
    have haggregate : plan.request.aggregate = true := ha
    rw [Store.allRows, haggregate, if_pos rfl]
    exact hrows
  have hcriteria : plan.request.criteria = c.and (context.ambient s.timePath) := rfl
  have hmark : plan.request.highlight = none := by
    simp only [Plan.request, plan, ha, Bool.true_or, if_true]
  have hpage (rows : List Row) : Store.page plan.request.offset plan.request.limit rows = rows :=
    List.drop_zero
  refine ⟨groups, hperm, ?_⟩
  rw [run_start hs rfl, hexec, hcriteria, hmark, hf]
  simp only [Store.markRows, Except.map, hpage, hall, List.length_map]

end EventSearch.Search
