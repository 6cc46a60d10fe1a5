/-
# `EventSearch.Proofs.PlannedSearch` — what planned searches return

The plans of two kinds of searches written out, a listing (`listingPlan`) and a search grouped by
untranslated fields (`groupedPlan`), and what a session over a store returns for them.  The total of
a listing is the number of records that its filter accepts (`total_listing`); the rows of a grouped
search are those of the groups of these records, in some order (`collect_grouped`).
-/
import EventSearch.Proofs.SurfaceFields

namespace EventSearch.Search

open EventSearch.Data EventSearch.Calendar EventSearch.Query EventSearch.Provider

variable {s : Surface Unit} {store : Store} {d : Dataset} {context : Context}

/-! ## Plans -/

/-- The plan of a search without groups. -/
def listingPlan (s : Surface Unit) (context : Context) (query : String) (mode : Mode)
    (c : Criteria) (offset : Nat) (limit : Option Nat) : Plan Unit :=
  ⟨s, context, query, mode, c, c.and (context.ambient s.timePath), ⟨[], [], none, [], none⟩,
    Plan.listing s, offset, limit⟩

/-- What a search grouped by some fields retrieves. -/
def groupRetrievals (s : Surface Unit) (names : List String) : List Retrieval :=
  Retrieval.count.ordered .desc :: names.map (groupRetrieval s)

/-- The plan of a search grouped by some fields. -/
def groupedPlan (s : Surface Unit) (context : Context) (query : String) (mode : Mode)
    (c : Criteria) (names : List String) (offset : Nat) (limit : Option Nat) : Plan Unit :=
  ⟨s, context, query, mode, c, c.and (context.ambient s.timePath),
    ⟨names, names.map fun _ => 1, none, groupRetrievals s names, none⟩, groupRetrievals s names,
    offset, limit⟩

theorem make_listing {query : String} {mode : Mode} {offset : Nat} {limit : Option Nat}
    {plan : Plan Unit} : Plan.make s context ⟨query, some mode, [], offset, limit⟩ = .ok plan ↔
      ∃ c, compile s.datatype s.translations mode query = .ok c ∧
        plan = listingPlan s context query mode c offset limit := by
  simp only [Plan.make, Option.getD_some, Plan.compileQuery]
  cases compile s.datatype s.translations mode query with
  | error near => simp [bind, Except.bind]
  | ok c =>
    simp only [bind, Except.bind, Except.ok.injEq, exists_eq_left']
    exact ⟨fun h => (Except.ok.inj h).symm, fun h => h ▸ rfl⟩

/-- Names are grouped by without their repetitions, in the order in which they first come. -/
theorem distinct_eq (names : List String) : Grouping.distinct names = names.eraseDups := by
  induction names using List.reverseRecOn with
  | nil => rfl
  | append_singleton names name ih =>
    have hstep : Grouping.distinct (names ++ [name])
        = if (Grouping.distinct names).contains name then Grouping.distinct names
          else Grouping.distinct names ++ [name] := List.foldl_concat ..
    rw [hstep, ih, eraseDups_concat]
    simp only [List.contains_iff_mem, List.mem_eraseDups]

theorem mem_distinct {names : List String} {name : String} :
    name ∈ Grouping.distinct names ↔ name ∈ names := by
  rw [distinct_eq, List.mem_eraseDups]

/-- A grouping without a time unit. -/
theorem ofNames_fields {names : List String}
    (h : ∀ name ∈ names, TimeUnit.isTemporal name = false) :
    Grouping.ofNames s context.zone names = (Grouping.fieldPaths s names).map fun paths =>
      .ofPaths s.timePath context.zone names paths none := by
  have hunits : names.filter TimeUnit.isTemporal = [] :=
    List.filter_eq_nil_iff.2 fun name hm => by simp [h name hm]
  have hfields : names.filter (fun name => !TimeUnit.isTemporal name) = names :=
    List.filter_eq_self.2 fun name hm => by simp [h name hm]
  simp only [Grouping.ofNames, hunits, hfields, List.length_nil, gt_iff_lt, Nat.not_lt_zero,
    if_false, List.head?_nil, Option.bind_none]

theorem flatten_singletons {α β : Type} (f : α → β) (xs : List α) :
    (xs.map fun x => [f x]).flatten = xs.map f := by
  induction xs with
  | nil => rfl
  | cons x xs ih => rw [List.map_cons, List.flatten_cons, ih]; rfl

theorem ofPaths_fields (s : Surface Unit) (zone : Zone) (names : List String) :
    Grouping.ofPaths s.timePath zone names (names.map fun name => [groupRetrieval s name]) none
      = ⟨names, names.map fun _ => 1, none, groupRetrievals s names, none⟩ := by
  have hwidths : (names.map fun name => [groupRetrieval s name]).map (·.length)
      = names.map fun _ => 1 := by
    rw [List.map_map]
    rfl
  rw [Grouping.ofPaths, flatten_singletons, hwidths]
  rfl

section Fields

variable {p : SearchParams} (hne : p.groupby ≠ [])
  (htime : ∀ name ∈ p.groupby, TimeUnit.isTemporal name = false) {c : Criteria}
  (hc : compile s.datatype s.translations (p.mode.getD s.defaultMode) p.query = .ok c)

include hne htime hc

/-- Planning a search grouped by fields, once its query is compiled. -/
theorem make_fields : Plan.make s context p =
    (Grouping.fieldPaths s (Grouping.distinct p.groupby)).map fun paths =>
      let g := Grouping.ofPaths s.timePath context.zone (Grouping.distinct p.groupby) paths none
      ⟨s, context, p.query, p.mode.getD s.defaultMode, c, c.and (context.ambient s.timePath), g,
        g.retrievals, p.offset, p.limit⟩ := by
  have hnames : Grouping.distinct p.groupby ≠ [] := by
    obtain ⟨name, hm⟩ := List.exists_mem_of_ne_nil _ hne
    exact List.ne_nil_of_mem (mem_distinct.2 hm)
  have hplain : ∀ name ∈ Grouping.distinct p.groupby, TimeUnit.isTemporal name = false :=
    fun name hm => htime name (mem_distinct.1 hm)
  simp only [Plan.make, Plan.compileQuery, hc, bind, Except.bind, List.isEmpty_iff, hnames, if_false,
    ofNames_fields hplain]
  cases Grouping.fieldPaths s (Grouping.distinct p.groupby) <;> rfl

/-- Untranslated fields that can be grouped by are planned as such. -/
theorem make_groupable (hp : Grouping.fieldPaths s (Grouping.distinct p.groupby)
      = .ok ((Grouping.distinct p.groupby).map fun name => [groupRetrieval s name])) :
    Plan.make s context p = .ok (groupedPlan s context p.query (p.mode.getD s.defaultMode) c
      (Grouping.distinct p.groupby) p.offset p.limit) := by
  rw [make_fields hne htime hc, hp, Except.map]
  simp only [ofPaths_fields]
  rfl

end Fields

/-- A search grouped by untranslated fields is planned as such. -/
theorem make_grouped (hs : s.Over store d) {p : SearchParams} {plan : Plan Unit}
    (h : Plan.make s context p = .ok plan) (hne : p.groupby ≠ [])
    (hn : ∀ name ∈ p.groupby, TimeUnit.isTemporal name = false ∧
      s.translations.get? name = none) :
    ∃ c names, compile s.datatype s.translations (p.mode.getD s.defaultMode) p.query = .ok c ∧
      names ≠ [] ∧ (∀ name ∈ names, name ∈ p.groupby ∧ (d.fieldType? name).isSome) ∧
      plan = groupedPlan s context p.query (p.mode.getD s.defaultMode) c names p.offset p.limit := by
  have htime : ∀ name ∈ p.groupby, TimeUnit.isTemporal name = false := fun name hm => (hn name hm).1
  cases hc : compile s.datatype s.translations (p.mode.getD s.defaultMode) p.query with
  | error near =>
    rw [Plan.make, Plan.compileQuery, hc] at h
    cases h
  | ok c =>
    cases hp : Grouping.fieldPaths s (Grouping.distinct p.groupby) with
    | error e =>
      rw [make_fields hne htime hc, hp] at h
      cases h
    | ok paths =>
      obtain ⟨rfl, hall⟩ := fieldPaths_eq_ok hs (fun name hm => (hn name (mem_distinct.1 hm)).2) hp
      rw [make_groupable hne htime hc hp] at h
      obtain ⟨name, hm⟩ := List.exists_mem_of_ne_nil _ hne
      exact ⟨c, _, rfl, List.ne_nil_of_mem (mem_distinct.2 hm),
        fun name hm => ⟨mem_distinct.1 hm, hall name hm⟩, (Except.ok.inj h).symm⟩

/-! ## Execution -/

/-- The records that a filter accepts. -/
def found (d : Dataset) (f : Filter) : List Record := d.records.filter fun r => f.accepts r

/-- A request over a store, once its parts are known. -/
theorem execute_eq (hs : s.Over store d) {request : Request} (hr : request.datatype = s.datatype)
    {columns : List Column}
    (hc : Column.ofRetrievals ⟨s.datatype, d⟩ request.retrievals = .ok columns) :
    store.execute request = match Filter.compile ⟨s.datatype, d⟩ request.criteria with
      | .error e => .error e
      | .ok f => (Store.markRows request.highlight f.freeTexts (Store.page request.offset request.limit
            (Store.allRows request f columns d.records))).map fun shown =>
          .ofRows shown (Store.allRows request f columns d.records).length := by
  simp only [Store.execute, hr, hs.dataset, bind, Except.bind]
  cases Filter.compile ⟨s.datatype, d⟩ request.criteria with
  | error e => rfl
  | ok f =>
    simp only [hc]
    cases Store.markRows request.highlight f.freeTexts (Store.page request.offset request.limit
      (Store.allRows request f columns d.records)) <;> rfl

/-- Sorting keeps the rows. -/
theorem sortRows_perm (retrievals : List Retrieval) (rows : List Row) :
    (sortRows retrievals rows).Perm rows := by
  unfold sortRows
  split
  · exact sortBy_perm _ rows
  · exact .refl _

theorem length_sortRows (retrievals : List Retrieval) (rows : List Row) :
    (sortRows retrievals rows).length = rows.length :=
  (sortRows_perm retrievals rows).length_eq

theorem mem_sortRows {retrievals : List Retrieval} {rows : List Row} {row : Row} :
    row ∈ sortRows retrievals rows ↔ row ∈ rows :=
  (sortRows_perm retrievals rows).mem_iff

/-- The columns of a listing. -/
theorem ofRetrievals_listing (hs : s.Over store d) :
    Column.ofRetrievals ⟨s.datatype, d⟩ (Plan.listing s)
      = .ok (fieldColumns (s.fields.map (·.name))) := by
  have hfields : ∀ name ∈ s.fields.map (·.name), (d.fieldType? name).isSome := by
    intro name hm
    obtain ⟨f, hf, rfl⟩ := List.mem_map.1 hm
    exact (hs.fields f hf).1
  have hr := ofRetrievals_fields ⟨s.datatype, d⟩ hfields
    (fun name => Retrieval.field (s.qualify name)) fun name => rfl
  rwa [List.map_map] at hr

theorem ofRetrievals_grouped {names : List String}
    (hn : ∀ name ∈ names, (d.fieldType? name).isSome) :
    Column.ofRetrievals ⟨s.datatype, d⟩ (groupRetrievals s names)
      = .ok (.count :: fieldColumns names) := by
  have hr := ofRetrievals_fields ⟨s.datatype, d⟩ hn (groupRetrieval s) fun name => rfl
  simp only [groupRetrievals, Column.ofRetrievals, Retrieval.ordered, Retrieval.count,
    Column.ofSource, hr]
  rfl

/-- Whether the texts that are marked in a listing fit one pattern. -/
def Marks (c : Criteria) (f : Filter) : Prop :=
  c.isEmpty = true ∨ Highlight.termsFit f.freeTexts = true

/-- What a session that was not run yet answers. -/
theorem run_start (hs : s.Over store d) {plan : Plan Unit} (hp : plan.surface = s) :
    (Session.start plan ()).run.1 = match store.execute plan.request with
      | .error e => .error (.provider e)
      | .ok r => .ok (Session.finish plan r) := by
  have hexec : plan.surface.provider.execute plan.request () = (store.execute plan.request, ()) := by
    rw [hp, hs.provider]
    rfl
  simp only [Session.run, Session.start, hexec]
  cases store.execute plan.request <;> rfl

/-- Without a time unit rows stay as the provider returned them. -/
theorem run_start_plain (hs : s.Over store d) {plan : Plan Unit} (hp : plan.surface = s)
    (ht : plan.grouping.timeIndex = none) : (Session.start plan ()).run.1 =
      match store.execute plan.request with
      | .error e => .error (.provider e)
      | .ok r => .ok r := by
  rw [run_start hs hp]
  cases store.execute plan.request with
  | error e => rfl
  | ok r => simp only [Session.finish, ht]

theorem markRows_listing (c : Criteria) (h : Highlight) (f : Filter) (rows : List Row) :
    (∃ shown, Store.markRows (if c.isEmpty then none else some h) f.freeTexts rows = .ok shown) ↔
      Marks c f := by
  unfold Marks
  cases c.isEmpty with
  | true => simp [Store.markRows]
  | false =>
    cases ht : Highlight.termsFit f.freeTexts <;> simp [Store.markRows, ht]

theorem length_allRows {request : Request} (h : request.aggregate = false) (f : Filter)
    (columns : List Column) :
    (Store.allRows request f columns d.records).length = (found d f).length := by
  simp only [Store.allRows, h, Bool.false_eq_true, if_false, length_sortRows, List.length_map]
  rfl

/-- The total of a listing, and when there is one. -/
theorem total_listing (hs : s.Over store d) {query : String} {mode : Mode} {c : Criteria}
    {offset : Nat} {limit : Option Nat} {n : Nat} :
    (Session.start (listingPlan s context query mode c offset limit) ()).total.1 = .ok n ↔
      ∃ f, Filter.compile ⟨s.datatype, d⟩ (c.and (context.ambient s.timePath)) = .ok f ∧
        Marks c f ∧ n = (found d f).length := by
  let plan := listingPlan s context query mode c offset limit
  have hexec := @execute_eq s store d hs plan.request rfl _ (ofRetrievals_listing hs)
  have hrun : (Session.start plan ()).run.1 = _ := run_start_plain hs rfl rfl
  have htotal : (Session.start plan ()).total.1 = (Session.start plan ()).run.1.map (·.total) := rfl
  have hcriteria : plan.request.criteria = c.and (context.ambient s.timePath) := rfl
  have hmark : plan.request.highlight = if c.isEmpty then none else some s.highlight := rfl
  rw [show listingPlan s context query mode c offset limit = plan from rfl, htotal, hrun, hexec,
    hcriteria, hmark]
  cases Filter.compile ⟨s.datatype, d⟩ (c.and (context.ambient s.timePath)) with
  | error e => simp [Except.map]
  | ok f =>
    have hlength := @length_allRows d plan.request rfl f (fieldColumns (s.fields.map (·.name)))
    simp only [Except.ok.injEq, exists_eq_left', hlength]
    rw [← markRows_listing c s.highlight f (Store.page plan.request.offset plan.request.limit
      (Store.allRows plan.request f (fieldColumns (s.fields.map (·.name))) d.records))]
    cases Store.markRows (if c.isEmpty then none else some s.highlight) f.freeTexts
        (Store.page plan.request.offset plan.request.limit
          (Store.allRows plan.request f (fieldColumns (s.fields.map (·.name))) d.records)) with
    | error e => simp [Except.map]
    | ok shown => simp [Except.map, ResultSet.ofRows, eq_comm]

theorem goodRows_ofRows (rows : List Row) :
    Session.goodRows (rows.map .ok) = (.ok rows, []) := by
  induction rows with
  | nil => rfl
  | cons row rows ih => simp [Session.goodRows, ih, Except.map]

/-- All rows are collected when the session runs and each of them is good. -/
theorem collect_eq_ok {session : Session Unit} {rows : List Row} :
    session.collect.1 = .ok rows ↔
      ∃ r, session.run.1 = .ok r ∧ (Session.goodRows r.rows).1 = .ok rows := by
  unfold Session.collect
  cases hrun : session.run with
  | mk answer after =>
    cases answer with
    | error e => simp
    | ok r =>
      simp only [Except.ok.injEq, exists_eq_left']
      cases hg : Session.goodRows r.rows with
      | mk good unread => cases good <;> simp

/-- The rows of a grouped search that is not paged. -/
theorem collect_grouped (hs : s.Over store d) {query : String} {mode : Mode} {c : Criteria}
    {names : List String} (hn : ∀ name ∈ names, (d.fieldType? name).isSome) (hne : names ≠ [])
    {rows : List Row}
    (h : (Session.start (groupedPlan s context query mode c names 0 none) ()).collect.1 = .ok rows) :
    ∃ f, Filter.compile ⟨s.datatype, d⟩ (c.and (context.ambient s.timePath)) = .ok f ∧
      ∀ row ∈ rows, row ∈ groupRows (.count :: fieldColumns names) (found d f) := by
  let plan := groupedPlan s context query mode c names 0 none
  have hexec := @execute_eq s store d hs plan.request rfl _ (ofRetrievals_grouped hn)
  have hrun : (Session.start plan ()).run.1 = _ := run_start_plain hs rfl rfl
  have hcriteria : plan.request.criteria = c.and (context.ambient s.timePath) := rfl
  have haggregate : plan.request.aggregate = true := by
    cases names with
    | nil => exact absurd rfl hne
    | cons name names => rfl
  have hmark : plan.request.highlight = none := by
    cases names with
    | nil => exact absurd rfl hne
    | cons name names => rfl
  rw [hexec, hcriteria, hmark] at hrun
  obtain ⟨r, hr, hgood⟩ := collect_eq_ok.1 h
  rw [hr] at hrun
  cases hf : Filter.compile ⟨s.datatype, d⟩ (c.and (context.ambient s.timePath)) with
  | error e =>
    rw [hf] at hrun
    cases hrun
  | ok f =>
    rw [hf] at hrun
    simp only [Store.markRows, Except.map, Except.ok.injEq] at hrun
    have hpage : ∀ all : List Row, Store.page plan.request.offset plan.request.limit all = all :=
      fun all => List.drop_zero
    rw [hrun, ResultSet.ofRows, goodRows_ofRows, hpage, Except.ok.injEq] at hgood
    refine ⟨f, rfl, fun row hrow => ?_⟩
    rw [← hgood, Store.allRows, haggregate, if_pos rfl, mem_sortRows] at hrow
    exact hrow

end EventSearch.Search
