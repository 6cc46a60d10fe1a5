/-
# `EventSearch.Proofs.CriterionLinks` — a `criterion` link means the query and every group

The query of a link is put together as text, and its parentheses are chosen by the compiled query
and not by that text.  In `criterion` it still compiles to exactly the criteria of the query and,
behind them, the test of every group that is no time unit (`Plan.compile_link`), whatever the
query ends in, however many columns a translated field takes and whatever cells the row has.

Two things are asked.  Each group has a name that is read as one path, and every translation has a
path: a test without one is empty, and two alternatives of which one is empty are then no longer
told from a single test.
-/
import EventSearch.Proofs.LinkReading
import EventSearch.Provider.Memory

namespace EventSearch.Search.Plan

open EventSearch.Text EventSearch.Data EventSearch.Calendar EventSearch.Query

variable {σ : Type}

/-! ## Plans -/

/-- A plan as searches make it: planned, then ordered by any number of fields. -/
inductive Planned : Plan σ → Prop
  | made {s : Surface σ} {context : Context} {params : SearchParams} {p : Plan σ} :
      make s context params = .ok p → Planned p
  | ordered {p : Plan σ} (field : String) (direction : Direction) :
      Planned p → Planned (p.sortedBy field direction)

/-- What planning decides: the criteria of the query, and the grouping by the names asked for. -/
theorem make_cases {s : Surface σ} {context : Context} {params : SearchParams} {p : Plan σ}
    (h : make s context params = .ok p) : p.Compiled ∧
      (p.grouping = ⟨[], [], none, [], none⟩ ∨
        Grouping.ofNames s context.zone (Grouping.distinct params.groupby) = .ok p.grouping) := by
  simp only [make, compileQuery] at h
  cases hc : compile s.datatype s.translations (params.mode.getD s.defaultMode) params.query with
  | error near =>
    rw [hc] at h
    cases h
  | ok c =>
    rw [hc] at h
    simp only [bind, Except.bind] at h
    split at h
    · obtain rfl := Except.ok.inj h
      exact ⟨hc, .inl rfl⟩
    · cases hg : Grouping.ofNames s context.zone (Grouping.distinct params.groupby) with
      | error e =>
        rw [hg] at h
        cases h
      | ok grouping =>
        rw [hg] at h
        obtain rfl := Except.ok.inj h
        exact ⟨hc, .inr rfl⟩

/-- The criteria of a plan stay those of its query, in whatever order its rows come. -/
theorem Planned.compiled {p : Plan σ} (h : p.Planned) : p.Compiled := by
  induction h with
  | made h => exact (make_cases h).1
  | ordered field direction _ ih => exact ih

theorem length_fieldPaths {s : Surface σ} {names : List String} {paths : List (List Retrieval)}
    (h : Grouping.fieldPaths s names = .ok paths) : paths.length = names.length := by
  induction names generalizing paths with
  | nil =>
    obtain rfl := Except.ok.inj h
    rfl
  | cons name names ih =>
    rw [Grouping.fieldPaths] at h
    cases hg : s.groupPaths name with
    | error e =>
      rw [hg] at h
      cases h
    | ok first =>
      cases hr : Grouping.fieldPaths s names with
      | error e =>
        rw [hg, hr] at h
        cases h
      | ok rest =>
        rw [hg, hr] at h
        obtain rfl := Except.ok.inj h
        rw [List.length_cons, List.length_cons, ih hr]

/-- Every group has its width. -/
theorem length_widths_of_ofNames {s : Surface σ} {zone : Zone} {names : List String}
    {g : Grouping} (h : Grouping.ofNames s zone names = .ok g) :
    g.widths.length = g.names.length := by
  simp only [Grouping.ofNames] at h
  split at h
  · cases h
  · cases hf : Grouping.fieldPaths s (names.filter fun name => !TimeUnit.isTemporal name) with
    | error e =>
      rw [hf] at h
      cases h
    | ok paths =>
      rw [hf] at h
      have hlen := length_fieldPaths hf
      obtain rfl := Except.ok.inj h
      cases (names.filter TimeUnit.isTemporal).head?.bind TimeUnit.ofName? with
      | none => simp [Grouping.ofPaths, hlen]
      | some unit => simp [Grouping.ofPaths, hlen]

theorem Planned.length_widths {p : Plan σ} (h : p.Planned) :
    p.grouping.widths.length = p.grouping.names.length := by
  induction h with
  | made h =>
    rcases (make_cases h).2 with hg | hg
    · rw [hg]
      rfl
    · exact length_widths_of_ofNames hg
  | ordered field direction _ ih => exact ih

/-! ## Groups of a row -/

/-- The cells of each group of a row.  The groups stand behind one another, each as wide as its
columns. -/
def groupCells (values : List Value) (cursor : Nat) :
    List (String × Nat) → List (String × List Value)
  | [] => []
  | (name, width) :: groups =>
    (name, slice cursor width values) :: groupCells values (cursor + width) groups

/-- The groups that are no time unit, each with the text of its first cell that is not empty. -/
def groupTexts (p : Plan σ) (values : List Value) : List (String × Option String) :=
  let groups := groupCells values 0 (p.grouping.names.zip p.grouping.widths)
  (groups.filter fun g => !TimeUnit.isTemporal g.1).map fun g =>
    (g.1, (firstCell g.2).criterionText?)

theorem names_groupCells (values : List Value) (cursor : Nat) (groups : List (String × Nat)) :
    (groupCells values cursor groups).map (·.1) = groups.map (·.1) := by
  induction groups generalizing cursor with
  | nil => rfl
  | cons group groups ih => rw [groupCells, List.map_cons, List.map_cons, ih]

/-- A link tells the text of every group that is no time unit. -/
theorem names_groupTexts {p : Plan σ} (h : p.Planned) (values : List Value) :
    (p.groupTexts values).map (·.1)
      = p.grouping.names.filter fun name => !TimeUnit.isTemporal name := by
  have hzip : (p.grouping.names.zip p.grouping.widths).map (·.1) = p.grouping.names :=
    List.map_fst_zip (Nat.le_of_eq h.length_widths.symm)
  have hcells := names_groupCells values 0 (p.grouping.names.zip p.grouping.widths)
  rw [hzip] at hcells
  conv => rhs; rw [← hcells, List.filter_map]
  rw [groupTexts, List.map_map]
  rfl

/-- In `criterion` each group that is no time unit narrows a link by one test, translated or not. -/
theorem narrow_criterion {p : Plan σ} (hm : p.mode = .criterion) (step : Step)
    (values : List Value) (cursor : Nat) (params : Params) (groups : List (String × Nat)) :
    (p.narrow step values cursor params groups).1
      = ((groupCells values cursor groups).filter fun g => !TimeUnit.isTemporal g.1).map fun g =>
          formatCriterion g.1 (firstCell g.2).criterionText? .criterion := by
  induction groups generalizing cursor params with
  | nil => rfl
  | cons group groups ih =>
    obtain ⟨name, width⟩ := group
    cases htime : TimeUnit.isTemporal name with
    | true =>
      simp only [narrow, htime, if_true, ih]
      rw [groupCells, List.filter_cons_of_neg (by simp [htime])]
    | false =>
      have hcriterion (retrievals : List Retrieval) (cells : List Value) :
          p.groupCriterion name retrievals cells
            = formatCriterion name (firstCell cells).criterionText? .criterion := by
        simp [groupCriterion, hm]
      simp only [narrow, htime, Bool.false_eq_true, if_false, ih, hcriterion]
      rw [groupCells, List.filter_cons_of_pos (by simp [htime]), List.map_cons]

theorem link_query_criterion {p : Plan σ} (hm : p.mode = .criterion) (values : List Value)
    (step : Step) : (p.link values step).query = Mode.criterion.operators.joiner.intercalate
      (p.queryPart ++ (p.groupTexts values).map fun cell =>
        formatCriterion cell.1 cell.2 .criterion) := by
  have hnarrow := narrow_criterion hm step values 0 p.context.urlParams
    (p.grouping.names.zip p.grouping.widths)
  rw [groupTexts, List.map_map]
  simp only [link, hnarrow, hm]
  rfl

/-! ## Links -/

/-- The query of a `criterion` link compiles to the criteria of the plan and the tests of all its
groups, in their order: for the text of the first cell that is not empty, or for absence.  A blank
query adds nothing to them. -/
theorem compile_link {p : Plan σ} (hp : p.Planned) (hm : p.mode = .criterion)
    (ht : TablePaths p.surface.translations)
    (hn : ∀ name ∈ p.grouping.names, TimeUnit.isTemporal name = false →
      CriterionTree.takePath? name.toList = some (name.toList, []))
    (values : List Value) (step : Step) :
    compileQuery p.surface (p.link values step).mode (p.link values step).query
      = .ok ((p.groupTexts values).foldl
          (fun c cell => c.and (cellTest p.surface.datatype p.surface.translations cell))
          p.criteria) ∧
      (p.link values step).mode = .criterion ∧
      (p.groupTexts values).map (·.1)
        = (p.grouping.names.filter fun name => !TimeUnit.isTemporal name) ∧
      (allBlank p.query.toList = true → p.criteria = .empty) := by
  have hnames := names_groupTexts hp values
  have hpath : ∀ cell ∈ p.groupTexts values, CriterionTree.IsPath cell.1.toList := by
    intro cell hcell
    have hname := List.mem_map_of_mem (f := (·.1)) hcell
    rw [hnames] at hname
    obtain ⟨hname, htime⟩ := List.mem_filter.1 hname
    exact (CriterionTree.takePath?_join (hn cell.1 hname (by simpa using htime))).1
  have hmode : (p.link values step).mode = .criterion := hm
  have hcompile := compile_linkText_criterion hm hp.compiled ht hpath
  refine ⟨?_, hmode, hnames, hp.compiled.empty⟩
  rw [hmode, link_query_criterion hm, compileQuery, hcompile]

/-! ## Sample -/

/-- Events whose host is one of two fields. -/
def hostSurface : Surface Unit :=
  ⟨"events", "events", (Provider.Store.ofList []).provider,
    .ofList [("host", ⟨["events.src_host", "events.dst_host"], none⟩)], [], .criterion, "timestamp",
    "timestamp", [], .default⟩

/-- Two alternatives, grouped by host and day. -/
def byHost : SearchParams := ⟨"a = 1 || !b", none, ["day", "host"], 0, none⟩

def hostGrouping : Grouping :=
  .ofPaths "events.timestamp" (.fixed 0) ["host"]
    [[(Retrieval.field "events.src_host").asGroup, (Retrieval.field "events.dst_host").asGroup]]
    (some .day)

def hostPlan : Plan Unit :=
  let c : Criteria := .disj [.test "events.a" "=" "1", .absent "events.b"]
  ⟨hostSurface, ⟨.fixed 0, none, []⟩, byHost.query, .criterion, c, c, hostGrouping,
    hostGrouping.retrievals, 0, none⟩

theorem make_byHost : make hostSurface ⟨.fixed 0, none, []⟩ byHost = .ok hostPlan := by
  have hc : compile hostSurface.datatype hostSurface.translations .criterion byHost.query
      = .ok hostPlan.criteria := eq_ok_of_toOption (by decide +kernel)
  have hg : Grouping.ofNames hostSurface (.fixed 0) (Grouping.distinct byHost.groupby)
      = .ok hostGrouping := eq_ok_of_toOption (by decide +kernel)
  have hne : (Grouping.distinct byHost.groupby).isEmpty = false := by decide
  have hmode : byHost.mode.getD hostSurface.defaultMode = .criterion := rfl
  simp only [make, compileQuery, hmode, hc, bind, Except.bind, hne, hg]
  rfl

/-- The alternatives of a query stay together, and a group of two columns is one test for the text
of the second. -/
theorem compile_link_host :
    hostPlan.Planned ∧ compileQuery hostSurface .criterion (hostPlan.link
        [.null, .text "x", .integer 2024, .integer 3, .integer 1] ⟨.day, 1⟩).query
      = .ok (.conj [.disj [.test "events.a" "=" "1", .absent "events.b"],
          .disj [.test "events.src_host" "=" "x", .test "events.dst_host" "=" "x"]]) := by
  have htable : TablePaths hostSurface.translations := by
    intro e he
    obtain rfl := List.mem_singleton.1 he
    exact List.cons_ne_nil _ _
  have hpaths : ∀ name ∈ hostPlan.grouping.names, TimeUnit.isTemporal name = false →
      CriterionTree.takePath? name.toList = some (name.toList, []) := by
    intro name hm htime
    rcases List.mem_cons.1 hm with rfl | hm
    · decide
    · obtain rfl := List.mem_singleton.1 hm
      exact absurd htime (by decide)
  have hplanned := Planned.made make_byHost
  refine ⟨hplanned, (compile_link hplanned rfl htable hpaths
    [.null, .text "x", .integer 2024, .integer 3, .integer 1] ⟨.day, 1⟩).1.trans ?_⟩
  rfl

end EventSearch.Search.Plan
