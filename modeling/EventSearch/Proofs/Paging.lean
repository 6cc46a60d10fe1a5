/-
# `EventSearch.Proofs.Paging` — the pages of a search are its rows

Each page of a search is planned and run on its own: records are filtered, grouped and sorted again,
the rows of the page are cut out, marked and put together.  Marking and putting together work row by
row, so it makes no difference that they come behind the cut: a page is the cut of what the search
without paging answers (`answer_prepare`), errors included.  The pages of any size from the first on
are therefore all rows of the search, each once and in order (`prepare_pages`).

The number of rows before a page is no larger than a machine word can tell.  A dataset in memory
has no more records than that, so a page whose place is not told is behind the last.
-/
import EventSearch.Proofs.PlannedSearch

namespace EventSearch.Search

open EventSearch.Number EventSearch.Data EventSearch.Query EventSearch.Provider

/-! ## Cuts of a result -/

/-- The rows of a result from a place on, a number of them at most; the total stays. -/
def cutResult (offset rows : Nat) (r : ResultSet) : ResultSet :=
  ⟨(r.rows.drop offset).take rows, r.total⟩

/-- Equal cuts, one behind another, are the start of a list. -/
theorem flatMap_cuts {α : Type} (xs : List α) (k n : Nat) :
    (List.range n).flatMap (fun i => (xs.drop (i * k)).take k) = xs.take (n * k) := by
  induction n with
  | zero => simp
  | succ n ih =>
    rw [List.range_succ, List.flatMap_append, ih, Nat.succ_mul, List.take_add]
    simp

theorem cut_ofRows (offset k total : Nat) (rows : List Row) :
    ResultSet.ofRows ((rows.drop offset).take k) total
      = cutResult offset k (.ofRows rows total) := by
  simp only [ResultSet.ofRows, cutResult, List.map_take, List.map_drop]

/-- Rows are put together one by one. -/
theorem finish_cut {σ : Type} (plan : Plan σ) (offset k : Nat) (r : ResultSet) :
    Session.finish plan (cutResult offset k r) = cutResult offset k (Session.finish plan r) := by
  unfold Session.finish
  split
  · rfl
  · simp only [rebuildRows, cutResult, List.map_take, List.map_drop]

/-- Rows are marked one by one, and whether they can be marked hangs on the terms alone. -/
theorem markRows_cut (highlight : Option Highlight) (terms : List String) (offset k : Nat)
    (rows : List Row) : Store.markRows highlight terms ((rows.drop offset).take k)
      = (Store.markRows highlight terms rows).map fun shown => (shown.drop offset).take k := by
  cases highlight with
  | none => rfl
  | some h =>
    simp only [Store.markRows]
    split
    · simp only [Except.map, List.map_take, List.map_drop]
    · rfl

/-- A request for a page is answered by the page of the whole answer. -/
theorem execute_cut (store : Store) (request : Request) (offset k : Nat) :
    store.execute { request with offset, limit := some k }
      = (store.execute { request with offset := 0, limit := none }).map (cutResult offset k) := by
  simp only [Store.execute, bind, Except.bind]
  cases store.dataset request.datatype with
  | error e => rfl
  | ok d =>
    simp only
    cases Filter.compile ⟨request.datatype, d⟩ request.criteria with
    | error e => rfl
    | ok f =>
      simp only
      cases Column.ofRetrievals ⟨request.datatype, d⟩ request.retrievals with
      | error e => rfl
      | ok columns =>
        have hrows (o : Nat) (l : Option Nat) :
            Store.allRows { request with offset := o, limit := l } f columns d.records
              = Store.allRows request f columns d.records := rfl
        simp only [hrows, Store.page, markRows_cut, List.drop_zero]
        cases Store.markRows request.highlight f.freeTexts
            (Store.allRows request f columns d.records) with
        | error e => rfl
        | ok shown => exact congrArg Except.ok (cut_ofRows offset k _ shown)

/-! ## The number of rows -/

theorem length_addToGroup_le (key : Row) (groups : List (Row × Nat)) :
    (addToGroup key groups).length ≤ groups.length + 1 := by
  rcases addToGroup_cases key groups with ⟨-, hnew⟩ | ⟨before, k, n, after, hold, -, hraised⟩
  · rw [hnew]
    exact Nat.le_of_eq List.length_append
  · rw [hraised, hold, List.length_append, List.length_append]
    exact Nat.le_succ _

theorem length_groupsOf_le (columns : List Column) (records : List Record) :
    (groupsOf columns records).length ≤ records.length := by
  have hfold : ∀ groups : List (Row × Nat),
      (records.foldl (fun groups record => addToGroup (keyOf columns record) groups) groups).length
        ≤ groups.length + records.length := by
    induction records with
    | nil => exact fun groups => Nat.le_refl _
    | cons record records ih =>
      intro groups
      have hadd := length_addToGroup_le (keyOf columns record) groups
      have hmore := ih (addToGroup (keyOf columns record) groups)
      rw [List.foldl_cons, List.length_cons]
      omega
  exact Nat.le_trans (hfold []) (Nat.le_of_eq (Nat.zero_add _))

/-- There are no more rows than records. -/
theorem length_allRows_le (request : Request) (f : Filter) (columns : List Column)
    (records : List Record) :
    (Store.allRows request f columns records).length ≤ records.length := by
  have hfound := List.length_filter_le (fun record => f.accepts record) records
  rw [Store.allRows, length_sortRows]
  split
  · rw [groupRows, List.length_map]
    exact Nat.le_trans (length_groupsOf_le columns _) hfound
  · rw [List.length_map]
    exact hfound

theorem length_markRows {highlight : Option Highlight} {terms : List String}
    {rows shown : List Row} (h : Store.markRows highlight terms rows = .ok shown) :
    shown.length = rows.length := by
  cases highlight with
  | none =>
    obtain rfl := Except.ok.inj h
    rfl
  | some marks =>
    simp only [Store.markRows] at h
    split at h
    · obtain rfl := Except.ok.inj h
      rw [List.length_map]
    · cases h

variable {s : Surface Unit} {store : Store} {d : Dataset}

/-- A search over a dataset answers with no more rows than this has records. -/
theorem length_execute_le {request : Request} (hd : store.dataset request.datatype = .ok d)
    (hpage : request.offset = 0 ∧ request.limit = none) {r : ResultSet}
    (h : store.execute request = .ok r) : r.rows.length ≤ d.records.length := by
  simp only [Store.execute, hd, bind, Except.bind] at h
  cases hf : Filter.compile ⟨request.datatype, d⟩ request.criteria with
  | error e =>
    rw [hf] at h
    cases h
  | ok f =>
    rw [hf] at h
    cases hc : Column.ofRetrievals ⟨request.datatype, d⟩ request.retrievals with
    | error e =>
      rw [hc] at h
      cases h
    | ok columns =>
      simp only [hc, hpage.1, hpage.2, Store.page, List.drop_zero] at h
      cases hm : Store.markRows request.highlight f.freeTexts
          (Store.allRows request f columns d.records) with
      | error e =>
        rw [hm] at h
        cases h
      | ok shown =>
        rw [hm] at h
        obtain rfl := Except.ok.inj h
        rw [ResultSet.ofRows, List.length_map, length_markRows hm]
        exact length_allRows_le request f columns d.records

/-! ## Pages -/

/-- What a search answers, once it is planned. -/
def answer (plan : Except QueryError (Plan Unit)) : Except QueryError ResultSet :=
  plan.bind fun p => (Session.start p ()).run.1

/-- A plan for a page of its rows. -/
def Plan.paged {σ : Type} (p : Plan σ) (offset rows : Nat) : Plan σ :=
  { p with offset, limit := some rows }

/-- Only the place and the size of the page are planned otherwise. -/
theorem make_paged {σ : Type} (s : Surface σ) (context : Context) (p : SearchParams)
    (offset k : Nat) : Plan.make s context { p with offset, limit := some k }
      = (Plan.make s context { p with offset := 0, limit := none }).map (·.paged offset k) := by
  simp only [Plan.make, bind, Except.bind]
  cases Plan.compileQuery s (p.mode.getD s.defaultMode) p.query with
  | error e => rfl
  | ok c =>
    simp only
    split
    · rfl
    · cases Grouping.ofNames s context.zone (Grouping.distinct p.groupby) <;> rfl

theorem sortedPage_paged {σ : Type} (p : Plan σ) (sort : Option (String × String))
    (offset k : Nat) : (p.paged offset k).sortedPage sort = (p.sortedPage sort).paged offset k := by
  cases sort with
  | none => rfl
  | some choice =>
    obtain ⟨field, direction⟩ := choice
    simp only [Plan.sortedPage]
    have hsame : (p.paged offset k).surface = p.surface := rfl
    rw [hsame]
    split
    · cases Direction.ofName? direction <;> rfl
    · rfl

/-- The search without paging, in the order of its pages. -/
def wholePlan (s : Surface Unit) (context : Context) (p : SearchParams)
    (sort : Option (String × String)) : Except QueryError (Plan Unit) :=
  (Plan.make s context { p with offset := 0, limit := none }).map (·.sortedPage sort)

theorem prepare_paged (s : Surface Unit) (context : Context) (p : SearchParams)
    (sort : Option (String × String)) (page k : Nat) : Plan.prepare s context p page k sort
      = (wholePlan s context p sort).map (·.paged (Plan.pageOffset page k) k) := by
  rw [Plan.prepare, make_paged, wholePlan]
  cases Plan.make s context { p with offset := 0, limit := none } with
  | error e => rfl
  | ok plan => exact congrArg Except.ok (sortedPage_paged plan sort _ k)

/-- A plan searches its surface, with the paging that was asked for. -/
theorem paging_of_make {context : Context} {p : SearchParams} {plan : Plan Unit}
    (h : Plan.make s context p = .ok plan) :
    plan.surface = s ∧ plan.offset = p.offset ∧ plan.limit = p.limit := by
  simp only [Plan.make, bind, Except.bind] at h
  cases hc : Plan.compileQuery s (p.mode.getD s.defaultMode) p.query with
  | error e =>
    rw [hc] at h
    cases h
  | ok c =>
    simp only [hc] at h
    split at h
    · obtain rfl := Except.ok.inj h
      exact ⟨rfl, rfl, rfl⟩
    · cases hg : Grouping.ofNames s context.zone (Grouping.distinct p.groupby) with
      | error e =>
        rw [hg] at h
        cases h
      | ok grouping =>
        rw [hg] at h
        obtain rfl := Except.ok.inj h
        exact ⟨rfl, rfl, rfl⟩

/-- Sorting does not touch the paging of a plan. -/
theorem paging_sortedPage (plan : Plan Unit) (sort : Option (String × String)) :
    (plan.sortedPage sort).surface = plan.surface ∧
      (plan.sortedPage sort).offset = plan.offset ∧ (plan.sortedPage sort).limit = plan.limit := by
  unfold Plan.sortedPage
  split
  · split
    · split <;> exact ⟨rfl, rfl, rfl⟩
    · exact ⟨rfl, rfl, rfl⟩
  · exact ⟨rfl, rfl, rfl⟩

theorem paging_wholePlan {context : Context} {p : SearchParams} {sort : Option (String × String)}
    {plan : Plan Unit} (h : wholePlan s context p sort = .ok plan) :
    plan.surface = s ∧ plan.offset = 0 ∧ plan.limit = none := by
  rw [wholePlan] at h
  cases hm : Plan.make s context { p with offset := 0, limit := none } with
  | error e =>
    rw [hm] at h
    cases h
  | ok made =>
    rw [hm] at h
    obtain rfl := Except.ok.inj h
    obtain ⟨hsurface, hoffset, hlimit⟩ := paging_of_make hm
    obtain ⟨hsurface', hoffset', hlimit'⟩ := paging_sortedPage made sort
    exact ⟨hsurface'.trans hsurface, hoffset'.trans hoffset, hlimit'.trans hlimit⟩

variable (hs : s.Over store d)
include hs

/-- A plan for a page answers with the page of what the plan without paging answers. -/
theorem run_paged {plan : Plan Unit} (hp : plan.surface = s)
    (hpage : plan.offset = 0 ∧ plan.limit = none) (offset k : Nat) :
    (Session.start (plan.paged offset k) ()).run.1
      = (Session.start plan ()).run.1.map (cutResult offset k) := by
  have hwhole : { plan.request with offset := 0, limit := none } = plan.request := by
    rw [Plan.request, hpage.1, hpage.2]
  have hcut := execute_cut store plan.request offset k
  rw [hwhole] at hcut
  have hfinish (r : ResultSet) :
      Session.finish (plan.paged offset k) r = Session.finish plan r := rfl
  rw [run_start hs (show (plan.paged offset k).surface = s from hp), run_start hs hp,
    show (plan.paged offset k).request = { plan.request with offset, limit := some k } from rfl,
    hcut]
  cases store.execute plan.request with
  | error e => rfl
  | ok r => exact congrArg Except.ok ((hfinish _).trans (finish_cut plan offset k r))

/-- A page of a search is the page of what the search without paging answers. -/
theorem answer_prepare (context : Context) (p : SearchParams) (sort : Option (String × String))
    (page k : Nat) : answer (Plan.prepare s context p page k sort)
      = (answer (wholePlan s context p sort)).map (cutResult (Plan.pageOffset page k) k) := by
  rw [prepare_paged]
  cases hplan : wholePlan s context p sort with
  | error e => rfl
  | ok plan =>
    obtain ⟨hsurface, hpage⟩ := paging_wholePlan hplan
    exact run_paged hs hsurface hpage _ k

/-- A search without paging answers with no more rows than there are records. -/
theorem length_answer_le {context : Context} {p : SearchParams} {sort : Option (String × String)}
    {r : ResultSet} (h : answer (wholePlan s context p sort) = .ok r) :
    r.rows.length ≤ d.records.length := by
  cases hplan : wholePlan s context p sort with
  | error e =>
    rw [hplan] at h
    cases h
  | ok plan =>
    obtain ⟨hsurface, hpage⟩ := paging_wholePlan hplan
    rw [hplan] at h
    have hrun : (Session.start plan ()).run.1 = .ok r := h
    rw [run_start hs hsurface] at hrun
    cases hexec : store.execute plan.request with
    | error e =>
      rw [hexec] at hrun
      cases hrun
    | ok found =>
      rw [hexec] at hrun
      obtain rfl := Except.ok.inj hrun
      have hd : store.dataset plan.request.datatype = .ok d := by
        rw [Plan.request, hsurface]
        exact hs.dataset
      have hlength := length_execute_le hd hpage hexec
      unfold Session.finish
      split
      · exact hlength
      · simp only [rebuildRows, List.length_map]
        exact hlength

/-- The pages of a search are its rows.  When the search without paging fails, so does every page,
in the same way.  Else all pages tell its total, the first pages are its first rows in their order,
as many pages as it needs are all of them, page 0 is the first page, and pages behind the last are
empty, also where their place is larger than a machine word tells. -/
theorem prepare_pages (hsize : d.records.length ≤ maxSize) (context : Context) (p : SearchParams)
    (sort : Option (String × String)) (k : Nat) :
    (∀ e, answer (wholePlan s context p sort) = .error e →
      ∀ page, answer (Plan.prepare s context p page k sort) = .error e) ∧
    ∀ r, answer (wholePlan s context p sort) = .ok r → ∃ pages : Nat → ResultSet,
      (∀ page, answer (Plan.prepare s context p page k sort) = .ok (pages page) ∧
        (pages page).total = r.total) ∧
      pages 0 = pages 1 ∧
      (∀ n, (List.range n).flatMap (fun i => (pages (i + 1)).rows) = r.rows.take (n * k)) ∧
      (∀ n, r.rows.length ≤ n * k →
        (List.range n).flatMap (fun i => (pages (i + 1)).rows) = r.rows) ∧
      ∀ page, r.rows.length ≤ (page - 1) * k → (pages page).rows = [] := by
  refine ⟨fun e he page => ?_, fun r hr => ?_⟩
  · rw [answer_prepare hs, he]
    rfl
  · have hlength := Nat.le_trans (length_answer_le hs hr) hsize
    -- a place that is not told is behind the last row, as the true place is
    have hdrop (page : Nat) :
        r.rows.drop (Plan.pageOffset page k) = r.rows.drop ((page - 1) * k) := by
      rcases Nat.le_total ((page - 1) * k) maxSize with hle | hle
      · rw [Plan.pageOffset, Nat.min_eq_left hle]
      · rw [Plan.pageOffset, Nat.min_eq_right hle, List.drop_eq_nil_of_le hlength,
          List.drop_eq_nil_of_le (Nat.le_trans hlength hle)]
    have hpages (n : Nat) : (List.range n).flatMap (fun i =>
        (cutResult (Plan.pageOffset (i + 1) k) k r).rows) = r.rows.take (n * k) := by
      simp only [cutResult, hdrop, Nat.add_sub_cancel]
      exact flatMap_cuts r.rows k n
    refine ⟨fun page => cutResult (Plan.pageOffset page k) k r, fun page => ⟨?_, rfl⟩, ?_, hpages,
      fun n hn => ?_, fun page hpage => ?_⟩
    · rw [answer_prepare hs, hr]
      rfl
    · simp only [Plan.pageOffset, Nat.zero_sub, Nat.sub_self]
    · rw [hpages, List.take_of_length_le hn]
    · simp only [cutResult, hdrop, List.drop_eq_nil_of_le hpage, List.take_nil]

omit hs

/-- Four events, one of which is that of bob. -/
def fourNames : Dataset :=
  ⟨[("name", .text)], [[("name", .text "dan")], [("name", .text "bob")], [("name", .text "ann")],
    [("name", .text "Ada")]]⟩

/-- A surface over these events. -/
def fourSurface : Surface Unit :=
  ⟨"events", "events", (Store.ofList [("events", fourNames)]).provider, .empty,
    [⟨"name", .ofType "events.name" .text, 0⟩], .lucene, "timestamp", "timestamp", [], .default⟩

theorem fourSurface_over : fourSurface.Over (Store.ofList [("events", fourNames)]) fourNames := by
  refine ⟨rfl, rfl, fun f hf => ?_⟩
  obtain rfl := List.mem_singleton.1 hf
  exact ⟨rfl, rfl⟩

/-- A search for all of them but bob's. -/
def othersSearch : SearchParams := ⟨"-name:bob", none, [], 0, none⟩

def plainContext : Context := ⟨.fixed 0, none, []⟩

/-- The three events of others, sorted by name, are two pages of two at most. -/
theorem prepare_pages_names : fourNames.records.length ≤ maxSize ∧
    ∃ r, ∃ pages : Nat → ResultSet,
      answer (wholePlan fourSurface plainContext othersSearch (some ("name", "asc"))) = .ok r ∧
      r.rows.length = 3 ∧
      (∀ page, answer (Plan.prepare fourSurface plainContext othersSearch page 2
        (some ("name", "asc"))) = .ok (pages page) ∧ (pages page).total = 3) ∧
      (pages 1).rows ++ (pages 2).rows = r.rows ∧ (pages 3).rows = [] := by
  have hsize : fourNames.records.length ≤ maxSize := by decide
  have hshape : (answer (wholePlan fourSurface plainContext othersSearch
      (some ("name", "asc")))).toOption.map (fun r => (r.rows.length, r.total)) = some (3, 3) := by
    decide +kernel
  refine ⟨hsize, ?_⟩
  cases hr : answer (wholePlan fourSurface plainContext othersSearch (some ("name", "asc"))) with
  | error e =>
    rw [hr] at hshape
    cases hshape
  | ok r =>
    rw [hr] at hshape
    obtain ⟨hrows, htotal⟩ := Prod.mk.inj (Option.some.inj hshape)
    obtain ⟨pages, hpages, -, -, hall, hpast⟩ := (prepare_pages fourSurface_over hsize
      plainContext othersSearch (some ("name", "asc")) 2).2 r hr
    have hlength : r.rows.length = 3 := hrows
    have htwo := hall 2 (by omega)
    refine ⟨r, pages, rfl, hlength, fun page => ?_, ?_, hpast 3 (by omega)⟩
    · exact ⟨(hpages page).1, (hpages page).2.trans htotal⟩
    · simpa [List.range_succ] using htwo

end EventSearch.Search
