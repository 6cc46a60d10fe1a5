/-
# `EventSearch.Proofs.Drilldown` — links find what their rows count

A row of a search that is grouped by untranslated fields counts the found records whose cells print
as those of one of them.  The query of its link is that of the search narrowed by the texts of these
cells (`link_query`).  When it can be read (`Plan.Linkable`) that search finds the found records
whose cells answer these texts, and these are the records that the row counts when the texts tell
its cells from those of the others, `ToldAmong` (`linkTotal_eq_ok`).

    C:\      in `lucene` the last backslash protects the quote behind it: there is no such query
    NOT      as a query it is a word, and in front of what the link adds to it a sign
    Name     a name that begins with a capital is no path of `lucene`
    ""       the empty text has no text: the link looks for records without the field
    1        the number and the text have rows of their own: the link of either finds both
    2⁵³ + 1  numbers are compared as floats: the link finds 2⁵³ as well

The first two are slips of how queries are written, in `EventSearch.Proofs.WrittenTests` for a single
test and in `EventSearch.Proofs.LuceneReprint` for a tree.
-/
import EventSearch.Proofs.KeyTexts
import EventSearch.Proofs.LinkReading
import EventSearch.Proofs.PlannedSearch

namespace EventSearch.Search

open EventSearch.Text EventSearch.Data EventSearch.Calendar EventSearch.Query EventSearch.Provider

/-! ## The query of a link -/

/-- The groups of a row with the texts of its cells. -/
def cellTexts (names : List String) (cells : Row) : List (String × Option String) :=
  (names.zip cells).map fun p => (p.1, p.2.criterionText?)

theorem zip_fieldCells (names : List String) (record : Record) :
    names.zip (fieldCells names record)
      = names.map fun name => (name, Column.cell record (.field name)) :=
  List.map_prod_left_eq_zip.symm

theorem cellTexts_fieldCells (names : List String) (record : Record) :
    cellTexts names (fieldCells names record)
      = names.map fun name => (name, (Column.cell record (.field name)).criterionText?) := by
  rw [cellTexts, zip_fieldCells, List.map_map]
  rfl

theorem slice_one {α : Type} {start : Nat} {x : α} {xs values : List α}
    (h : values.drop start = x :: xs) :
    Plan.slice start 1 values = [x] ∧ values.drop (start + 1) = xs := by
  have hlt : start + 1 ≤ values.length := by
    have hlen := congrArg List.length h
    rw [List.length_drop, List.length_cons] at hlen
    omega
  constructor
  · rw [Plan.slice, if_pos hlt, h]
    rfl
  · rw [← List.drop_drop, h]
    rfl

theorem firstCell_singleton (value : Value) : Plan.firstCell [value] = value := by
  cases value <;> rfl

/-- Groups by untranslated fields narrow a query by the criteria of their cells and leave the
parameters as they are. -/
theorem narrow_fields {σ : Type} (p : Plan σ) (step : Step) {names : List String}
    (hn : ∀ name ∈ names, TimeUnit.isTemporal name = false ∧
      p.surface.translations.get? name = none)
    (record : Record) {values : List Value} {cursor : Nat} (params : Params)
    (h : values.drop cursor = fieldCells names record) :
    p.narrow step values cursor params (names.zip (names.map fun _ => 1))
      = ((cellTexts names (fieldCells names record)).map fun cell =>
          formatCriterion cell.1 cell.2 p.mode, params) := by
  rw [cellTexts_fieldCells, List.map_map]
  induction names generalizing cursor with
  | nil => rfl
  | cons name names ih =>
    obtain ⟨htime, htable⟩ := hn name List.mem_cons_self
    obtain ⟨hslice, hdrop⟩ := slice_one h
    have hcontains : p.surface.translations.contains name = false := by
      rw [TranslationTable.contains, htable]
      rfl
    have hrest := ih (fun n hm => hn n (List.mem_cons_of_mem name hm)) hdrop
    simp only [List.map_cons, List.zip_cons_cons, Plan.narrow, htime, Bool.false_eq_true, if_false,
      hslice, hrest, Plan.groupCriterion, hcontains, Bool.and_false, firstCell_singleton,
      Function.comp_apply]

variable {s : Surface Unit} {store : Store} {d : Dataset} {context : Context}

section Link

variable {query : String} {mode : Mode} {c : Criteria} {names : List String}

/-- The search behind a row. -/
theorem link_query (hn : ∀ name ∈ names, TimeUnit.isTemporal name = false ∧
      s.translations.get? name = none) (record : Record) (step : Step) :
    let p := groupedPlan s context query mode c names 0 none
    (p.link (fieldCells names record) step).mode = mode ∧
      (p.link (fieldCells names record) step).query = mode.operators.joiner.intercalate
        (p.queryPart ++
          (cellTexts names (fieldCells names record)).map fun cell =>
            formatCriterion cell.1 cell.2 mode) := by
  intro p
  have hdrop : (fieldCells names record).drop 0 = fieldCells names record := rfl
  have hnarrow := narrow_fields p step hn record p.context.urlParams hdrop
  have hzip : p.grouping.names.zip p.grouping.widths = names.zip (names.map fun _ => 1) := rfl
  refine ⟨rfl, ?_⟩
  simp only [Plan.link, hzip, hnarrow]
  rfl

end Link

/-! ## What a link finds -/

/-- A comparison is no free text. -/
theorem freeTexts_compares {scope : Scope} {path operator value : String} {f : Filter}
    (ho : operator = ">=" ∨ operator = "<")
    (h : Filter.compile scope (.test path operator value) = .ok f) : f.freeTexts = [] := by
  simp only [Criteria.test, Filter.compile, LeafFilter.compile] at h
  cases ht : scope.target path with
  | error e =>
    rw [ht] at h
    cases h
  | ok target =>
    obtain ⟨test, hp⟩ : ∃ test, Predicate.ofOperator operator (baseOperator operator) value
        = .ok (.compares test value) := by
      rcases ho with rfl | rfl
      · exact ⟨.atLeast, rfl⟩
      · exact ⟨.less, rfl⟩
    simp only [ht, hp] at h
    obtain rfl := Except.ok.inj h
    simp [Filter.freeTexts, LeafFilter.freeText?]

/-- Criteria none of whose filters look for free text. -/
def Silent (scope : Scope) (c : Criteria) : Prop :=
  ∀ f, Filter.compile scope c = .ok f → f.freeTexts = []

theorem silent_empty (scope : Scope) : Silent scope .empty := by
  intro f h
  obtain rfl := Except.ok.inj h
  rfl

theorem Silent.and {scope : Scope} {b c : Criteria} (hb : Silent scope b) (hc : Silent scope c) :
    Silent scope (b.and c) := by
  intro f h
  obtain ⟨fb, fc, hfb, hfc, -, ht⟩ := Filter.compile_and_inv h
  rw [ht, hb fb hfb, hc fc hfc]
  rfl

theorem Silent.allOf {scope : Scope} {cs : List Criteria} (h : ∀ c ∈ cs, Silent scope c) :
    Silent scope (.allOf cs) := by
  have hfold : ∀ b, Silent scope b → Silent scope (cs.foldl Criteria.and b) := by
    intro b hb
    induction cs generalizing b with
    | nil => exact hb
    | cons c cs ih =>
      exact ih (fun d hd => h d (List.mem_cons_of_mem c hd)) _ (hb.and (h c List.mem_cons_self))
  exact hfold .empty (silent_empty scope)

/-- The window of a context looks for no free text. -/
theorem silent_ambient (scope : Scope) (context : Context) (timePath : String) :
    Silent scope (context.ambient timePath) := by
  unfold Context.ambient
  cases context.window with
  | none => exact silent_empty scope
  | some w =>
    refine Silent.allOf fun c hc => ?_
    have hbound {operator : String} {bound : Option Timestamp}
        (ho : operator = ">=" ∨ operator = "<")
        (hc : c ∈ Context.boundCriteria timePath operator bound) : Silent scope c := by
      obtain ⟨t, -, rfl⟩ := List.mem_map.1 hc
      exact fun f hf => freeTexts_compares ho hf
    rcases List.mem_append.1 hc with hc | hc
    · exact hbound (.inl rfl) hc
    · exact hbound (.inr rfl) hc

/-- The names that a row of a search shows are declared fields. -/
theorem declared_cellTexts {names : List String} {cells : Row} {mode : Mode}
    (hd : ∀ name ∈ names, (d.fieldType? name).isSome)
    (hn : ∀ name ∈ names, nameReads mode name = true) :
    ∀ cell ∈ cellTexts names cells, (d.fieldType? cell.1).isSome ∧ cell.1 ≠ anyField := by
  intro cell hc
  obtain ⟨⟨name, value⟩, hp, rfl⟩ := List.mem_map.1 hc
  have hm : name ∈ names := (List.of_mem_zip hp).1
  have hname := hn name hm
  simp only [nameReads, Bool.and_eq_true, decide_eq_true_eq] at hname
  exact ⟨hd name hm, hname.1⟩

/-- Whether a record has cells that answer the texts of those of a row. -/
def meets (names : List String) (cells : Row) (r : Record) : Bool :=
  (cellTexts names cells).all fun cell => answers (Column.cell r (.field cell.1)) cell.2

/-- The search behind a row finds the found records whose cells answer its texts. -/
theorem total_narrowed (hs : s.Over store d) (hnulls : d.NoNulls) {c : Criteria} {f : Filter}
    (hf : Filter.compile ⟨s.datatype, d⟩ (c.and (context.ambient s.timePath)) = .ok f)
    (hmarks : Marks c f) {names : List String} {mode : Mode}
    (hd : ∀ name ∈ names, (d.fieldType? name).isSome)
    (hn : ∀ name ∈ names, nameReads mode name = true) (cells : Row) (query : String)
    (offset : Nat) (limit : Option Nat) :
    (Session.start (listingPlan s context query mode
        (narrowed mode s.datatype c (cellTexts names cells)) offset limit) ()).total.1
      = .ok ((found d f).filter (meets names cells)).length := by
  obtain ⟨fc, fa, hfc, hfa, haccepts, htexts⟩ := Filter.compile_and_inv hf
  obtain ⟨gc, hgc, hgctexts, hgcaccepts⟩ :=
    compile_narrowed mode (declared_cellTexts hd hn) hfc
  obtain ⟨g, hg, hgaccepts, hgtexts⟩ := Filter.compile_and hgc hfa
  refine (total_listing hs).2 ⟨g, hg, .inr ?_, ?_⟩
  · rw [hgtexts, hgctexts, ← htexts]
    rcases hmarks with he | hfit
    · have hempty : c = .empty := by cases c <;> first | rfl | cases he
      have hsilent := silent_ambient ⟨s.datatype, d⟩ context s.timePath
      rw [hempty, Criteria.empty_and] at hf
      rw [hsilent f hf]
      rfl
    · exact hfit
  · rw [found, found, List.filter_filter]
    refine congrArg List.length (List.filter_congr fun r hr => ?_)
    rw [hgaccepts, hgcaccepts r (hnulls r hr), haccepts, meets, Bool.and_right_comm, Bool.and_comm]

/-! ## Cells told by their texts -/

/-- A row whose cells are told by their texts among some records. -/
def ToldAmong (records : List Record) (names : List String) (cells : Row) : Prop :=
  ∀ p ∈ names.zip cells, Telling p.2 ∧ ∀ r ∈ records,
    Sound (Column.cell r (.field p.1)) ∧ Apart p.2 (Column.cell r (.field p.1))

/-- The records that answer the texts of a row that is told by them are those counted in it. -/
theorem meets_iff_keyText {records : List Record} {names : List String} {record r : Record}
    (h : ToldAmong records names (fieldCells names record)) (hr : r ∈ records) :
    meets names (fieldCells names record) r = true ↔
      keyText (fieldCells names r) = keyText (fieldCells names record) := by
  have hcell : ∀ name ∈ names, (answers (Column.cell r (.field name))
        (Column.cell record (.field name)).criterionText? = true ↔
      (Column.cell r (.field name)).inspect = (Column.cell record (.field name)).inspect) := by
    intro name hm
    have hmem : (name, Column.cell record (.field name)) ∈ names.zip (fieldCells names record) := by
      rw [zip_fieldCells]
      exact List.mem_map_of_mem hm
    obtain ⟨htelling, hothers⟩ := h _ hmem
    obtain ⟨hsound, hapart⟩ := hothers r hr
    rw [answers_iff_inspect htelling hsound hapart]
    exact eq_comm
  rw [meets, cellTexts_fieldCells, List.all_map, List.all_eq_true, keyText_eq_iff_inspect, fieldCells,
    fieldCells, List.map_map, List.map_map, List.map_inj_left]
  exact forall_congr' fun name => forall_congr' fun hm => hcell name hm

/-- The count of a row that is told by its texts. -/
theorem count_of_told {records : List Record} {names : List String} {record : Record}
    (h : ToldAmong records names (fieldCells names record)) :
    (records.filter fun r => keyText (fieldCells names r) = keyText (fieldCells names record)).length
      = (records.filter (meets names (fieldCells names record))).length := by
  refine congrArg List.length (List.filter_congr fun r hr => ?_)
  rw [Bool.eq_iff_iff, meets_iff_keyText h hr, decide_eq_true_iff]

/-! ## Rows and their links -/

namespace Plan

/-- A row whose link can be read: its groups are paths of the language, the query reads the same in
front of the criteria of its cells, their texts can be written, and the terms of the query that are
to be marked fit one pattern. -/
structure Linkable (p : Plan Unit) (f : Filter) (cells : Row) : Prop where
  names : ∀ name ∈ p.grouping.names, nameReads p.mode name = true
  query : p.Extendable (cellTexts p.grouping.names cells)
  texts : ∀ v ∈ cells, Quotable p.mode v.criterionText?
  marks : Marks p.criteria f

/-- The search that the link of a row leads to. -/
def drill {σ : Type} (p : Plan σ) (cells : Row) (step : Step) : Except QueryError (Plan σ) :=
  let link := p.link cells step
  make p.surface p.context ⟨link.query, some link.mode, [], 0, none⟩

/-- The total of the search that the link of a row leads to. -/
def linkTotal (p : Plan Unit) (cells : Row) (step : Step) : Except QueryError Nat :=
  (p.drill cells step).bind fun listing => (Session.start listing ()).total.1

end Plan

/-- The link of a row is planned as the search behind the row. -/
theorem drill_grouped {query : String} {mode : Mode} {c : Criteria} {names : List String}
    (hc : compile s.datatype s.translations mode query = .ok c)
    (hfields : ∀ name ∈ names, TimeUnit.isTemporal name = false ∧
      s.translations.get? name = none) (hne : names ≠ []) {f : Filter} {record : Record}
    (hlink : (groupedPlan s context query mode c names 0 none).Linkable f (fieldCells names record))
    (step : Step) :
    ∃ narrower, (groupedPlan s context query mode c names 0 none).drill (fieldCells names record)
        step = .ok (listingPlan s context narrower mode
          (narrowed mode s.datatype c (cellTexts names (fieldCells names record))) 0 none) := by
  obtain ⟨hmode, hquery⟩ := @link_query s context query mode c names hfields record step
  have hcells : cellTexts names (fieldCells names record) ≠ [] := by
    rw [cellTexts_fieldCells]
    exact fun he => hne (List.map_eq_nil_iff.1 he)
  have hreadable : ∀ cell ∈ cellTexts names (fieldCells names record), Readable mode cell := by
    intro cell hm
    obtain ⟨⟨name, value⟩, hp, rfl⟩ := List.mem_map.1 hm
    obtain ⟨hname, hvalue⟩ := List.of_mem_zip hp
    exact ⟨hlink.names name hname, hlink.texts value hvalue⟩
  have huntranslated : ∀ cell ∈ cellTexts names (fieldCells names record),
      s.translations.get? cell.1 = none := by
    intro cell hm
    obtain ⟨⟨name, value⟩, hp, rfl⟩ := List.mem_map.1 hm
    exact (hfields name (List.of_mem_zip hp).1).2
  have hcompile := @Plan.compile_linkText Unit (groupedPlan s context query mode c names 0 none) _ hc
    hlink.query hcells hreadable huntranslated
  refine ⟨_, make_listing.2 ⟨_, ?_, rfl⟩⟩
  rw [hquery]
  exact hcompile

/-- The search that the link of a row leads to finds the found records that answer the texts of the
row, which are as many as the row counts when they tell its cells from those of the others. -/
theorem linkTotal_eq_ok (hs : s.Over store d) (hb : d.Built) {p : SearchParams} {plan : Plan Unit}
    (hplan : Plan.make s context p = .ok plan) (hgroups : p.groupby ≠ [])
    (hfields : ∀ name ∈ p.groupby, TimeUnit.isTemporal name = false ∧
      s.translations.get? name = none)
    (hpage : p.offset = 0 ∧ p.limit = none) {f : Filter}
    (hf : Filter.compile ⟨s.datatype, d⟩ plan.allCriteria = .ok f) {rows : List Row}
    (hrows : (Session.start plan ()).collect.1 = .ok rows) {row : Row} (hrow : row ∈ rows)
    (hlink : plan.Linkable f row.tail) (step : Step) :
    plan.linkTotal row.tail step
        = .ok ((found d f).filter (meets plan.grouping.names row.tail)).length ∧
      (ToldAmong (found d f) plan.grouping.names row.tail →
        ∃ count : Nat, row.head? = some (.integer count) ∧
          plan.linkTotal row.tail step = .ok count) := by
  obtain ⟨c, names, hc, hne, hnames, rfl⟩ := make_grouped hs hplan hgroups hfields
  rw [hpage.1, hpage.2] at hrows hlink hf ⊢
  have hdeclared : ∀ name ∈ names, (d.fieldType? name).isSome := fun name hm => (hnames name hm).2
  have huntranslated := fun name hm => hfields name (hnames name hm).1
  obtain ⟨g, hg, hmem⟩ := collect_grouped hs hdeclared hne hrows
  obtain rfl : g = f := Except.ok.inj (hg.symm.trans hf)
  obtain ⟨count, record, -, rfl, hcount⟩ := mem_groupRows_fields (hmem row hrow)
  obtain ⟨narrower, hdrill⟩ := drill_grouped hc huntranslated hne hlink step
  have htotal := total_narrowed hs hb.noNulls hf hlink.marks hdeclared hlink.names
    (fieldCells names record) narrower 0 none
  have hlinked : (groupedPlan s context p.query (p.mode.getD s.defaultMode) c names 0 none).linkTotal
      (fieldCells names record) step
        = .ok ((found d g).filter (meets names (fieldCells names record))).length := by
    rw [Plan.linkTotal, hdrill]
    exact htotal
  refine ⟨hlinked, fun htold => ⟨count, rfl, hlinked.trans ?_⟩⟩
  rw [hcount, @count_of_told (found d g) names record htold]

/-! ## Samples -/

/-- Events with nothing but a name. -/
def namedEvents (names : List Value) : Dataset :=
  names.foldl (fun d name => d.push [("name", name)]) .empty

theorem built_namedEvents (names : List Value) : (namedEvents names).Built := by
  have hfold : ∀ d : Dataset, d.Built →
      (names.foldl (fun d name => d.push [("name", name)]) d).Built := by
    induction names with
    | nil => exact fun d h => h
    | cons name names ih => exact fun d h => ih _ (h.push [("name", name)])
  exact hfold .empty .empty

/-- A surface over events that declare a name. -/
def nameSurface (d : Dataset) : Surface Unit :=
  ⟨"events", "events", (Store.ofList [("events", d)]).provider, .empty,
    [⟨"name", .ofType "events.name" .text, 0⟩], .lucene, "timestamp", "timestamp", [], .default⟩

theorem nameSurface_over {d : Dataset} (h : (d.fieldType? "name").isSome) :
    (nameSurface d).Over (Store.ofList [("events", d)]) d := by
  refine ⟨rfl, rfl, fun f hf => ?_⟩
  obtain rfl := List.mem_singleton.1 hf
  exact ⟨h, rfl⟩

/-- No window, in UTC. -/
def anyTime : Context := ⟨.fixed 0, none, []⟩

/-- A search for some events by their names, in groups. -/
def byName (query : String) : SearchParams := ⟨query, none, ["name"], 0, none⟩

theorem make_byName {d : Dataset} {query : String} {c : Criteria}
    (hc : compile "events" .empty .lucene query = .ok c) :
    Plan.make (nameSurface d) anyTime (byName query)
      = .ok (groupedPlan (nameSurface d) anyTime query .lucene c ["name"] 0 none) :=
  make_groupable (p := byName query) (List.cons_ne_nil _ _)
    (fun name hm => by rw [List.mem_singleton.1 hm]; decide) hc rfl

/-- Two events of one name and two of others. -/
def annAndBob : Dataset :=
  namedEvents [.text "ann", .text "Bob B.", .text "ann", .text "dee"]

/-- The names of all these events are texts. -/
theorem text_annAndBob : ∀ r ∈ annAndBob.records,
    ∃ text, Column.cell r (.field "name") = .text text := by
  intro r hr
  have hrecords : annAndBob.records = ["ann", "Bob B.", "ann", "dee"].map fun name =>
      [("name", Value.text name)] := by decide
  rw [hrecords] at hr
  obtain ⟨name, -, rfl⟩ := List.mem_map.1 hr
  exact ⟨name, rfl⟩

def annQuery : String := "name:ann OR name:\"Bob B.\""

def annCriteria : Criteria :=
  .disj [.test "events.name" "==" "ann", .test "events.name" "==" "Bob B."]

def annPlan : Plan Unit :=
  groupedPlan (nameSurface annAndBob) anyTime annQuery .lucene annCriteria ["name"] 0 none

theorem extendable_annPlan (cells : List (String × Option String)) : annPlan.Extendable cells := by
  have hread : LuceneTree.read annQuery = .ok (.combine
      (.signed none (.value (some ⟨[⟨"name", none⟩]⟩) (.bare "ann") none)) .or
      (.signed none (.value (some ⟨[⟨"name", none⟩]⟩) (.double "Bob B.") none))) :=
    eq_ok_of_toOption (by decide +kernel)
  intro tree ht
  obtain rfl := Except.ok.inj (hread.symm.trans ht)
  refine ⟨fun t ht o ho => ?_, trivial, fun _ he => absurd he (by decide)⟩
  rcases List.mem_pair.1 ht with rfl | rfl
  · obtain rfl := List.mem_singleton.1 ho
    intro mark hmark hhead
    rw [← Option.some.inj hhead] at hmark
    exact absurd hmark (by decide)
  · obtain rfl := List.mem_singleton.1 ho
    trivial

theorem linkable_annPlan {f : Filter}
    (hf : Filter.compile ⟨"events", annAndBob⟩ annPlan.allCriteria = .ok f) :
    annPlan.Linkable f [.text "ann"] := by
  have hfits : (Filter.compile ⟨"events", annAndBob⟩ annPlan.allCriteria).toOption.any
      (fun f => Highlight.termsFit f.freeTexts) = true := by decide +kernel
  refine ⟨fun name hm => ?_, extendable_annPlan _, fun v hv _ text ht => ?_, .inr ?_⟩
  · rw [List.mem_singleton.1 hm]
    decide
  · rw [List.mem_singleton.1 hv, criterionText?_text (by decide)] at ht
    obtain rfl := Option.some.inj ht
    decide
  · rw [hf] at hfits
    exact hfits

theorem toldAmong_annPlan (f : Filter) :
    ToldAmong (found annAndBob f) annPlan.grouping.names [.text "ann"] := by
  intro p hp
  obtain rfl := List.mem_singleton.1 hp
  refine ⟨⟨trivial, by decide, by decide⟩, fun r hr => ?_⟩
  obtain ⟨text, ht⟩ := text_annAndBob r (List.mem_of_mem_filter hr)
  rw [ht]
  exact ⟨trivial, trivial⟩

/-- Of two alternatives the first one has a row of two events, and its link finds both. -/
theorem linkTotal_eq_ok_ann :
    ∃ f rows, Plan.make (nameSurface annAndBob) anyTime (byName annQuery) = .ok annPlan ∧
      Filter.compile ⟨"events", annAndBob⟩ annPlan.allCriteria = .ok f ∧
      (Session.start annPlan ()).collect.1 = .ok rows ∧ [.integer 2, .text "ann"] ∈ rows ∧
      annPlan.Linkable f [.text "ann"] ∧
      ToldAmong (found annAndBob f) annPlan.grouping.names [.text "ann"] ∧
      annPlan.linkTotal [.text "ann"] ⟨.day, 1⟩ = .ok 2 := by
  have hplan : Plan.make (nameSurface annAndBob) anyTime (byName annQuery) = .ok annPlan :=
    make_byName (eq_ok_of_toOption (by decide +kernel))
  have hrows : (Session.start annPlan ()).collect.1
      = .ok [[.integer 2, .text "ann"], [.integer 1, .text "Bob B."]] :=
    eq_ok_of_toOption (by decide +kernel)
  have hover := @nameSurface_over annAndBob (by decide)
  have hname (name : String) (hm : name ∈ ["name"]) : name = "name" := List.mem_singleton.1 hm
  obtain ⟨f, (hf : Filter.compile ⟨"events", annAndBob⟩ annPlan.allCriteria = .ok f), -⟩ :=
    collect_grouped hover (fun name hm => by rw [hname name hm]; decide) (List.cons_ne_nil _ _) hrows
  obtain ⟨count, hcount, htotal⟩ := (linkTotal_eq_ok hover (built_namedEvents _) hplan
    (List.cons_ne_nil _ _) (fun name hm => by rw [hname name hm]; decide) ⟨rfl, rfl⟩ hf hrows
    List.mem_cons_self (linkable_annPlan hf) ⟨.day, 1⟩).2 (toldAmong_annPlan f)
  have hcount : (2 : Int) = count := Value.integer.inj (Option.some.inj hcount)
  obtain rfl : count = 2 := by omega
  exact ⟨f, _, hplan, hf, hrows, List.mem_cons_self, linkable_annPlan hf, toldAmong_annPlan f,
    htotal⟩

/-- What a search finds of the events of some names, by their names. -/
def namePlan (query : String) (c : Criteria) (names : List Value) : Plan Unit :=
  groupedPlan (nameSurface (namedEvents names)) anyTime query .lucene c ["name"] 0 none

/-- One of some events has a row of its own, and the link of this row finds `total` events; none is
told where the query of the link cannot be read. -/
def LinkOfOneFinds (query : String) (names : List Value) (name : Value) (total : Option Nat) :
    Prop :=
  ∃ plan rows, Plan.make (nameSurface (namedEvents names)) anyTime (byName query) = .ok plan ∧
    (Session.start plan ()).collect.1 = .ok rows ∧ [.integer 1, name] ∈ rows ∧
    (plan.linkTotal [name] ⟨.day, 1⟩).toOption = total

theorem linkOfOne_finds {query : String} {c : Criteria} {names : List Value} {name : Value}
    {total : Option Nat} (hc : (compile "events" .empty .lucene query).toOption = some c)
    (hrow : (Session.start (namePlan query c names) ()).collect.1.toOption.any
      (fun rows => [.integer 1, name] ∈ rows) = true)
    (htotal : ((namePlan query c names).linkTotal [name] ⟨.day, 1⟩).toOption = total) :
    LinkOfOneFinds query names name total := by
  obtain ⟨rows, hrows, hmem⟩ := (Option.any_eq_true _ _).1 hrow
  exact ⟨namePlan query c names, rows, make_byName (eq_ok_of_toOption hc),
    eq_ok_of_toOption hrows, by simpa using hmem, htotal⟩

/-- An event whose one field has a name that begins with a capital. -/
def capitalEvent : Dataset := .push .empty [("Name", .text "ann")]

def capitalSurface : Surface Unit :=
  ⟨"events", "events", (Store.ofList [("events", capitalEvent)]).provider, .empty,
    [⟨"Name", .ofType "events.Name" .text, 0⟩], .lucene, "timestamp", "timestamp", [], .default⟩

/-- Three queries are not read as they were meant: a last backslash protects the quote behind it,
`NOT` negates what the link puts behind it, and `lucene` has no path that begins with a capital.
The empty text has no text, so that its link looks for events without a name, and no number is equal
to one that is none.  Events whose names are equal share what their links find, though they have
rows of their own. -/
theorem linkTotal_misses :
    LinkOfOneFinds "" [.text "a\\"] (.text "a\\") none ∧
    LinkOfOneFinds "NOT" [.text "do not"] (.text "do not") (some 0) ∧
    LinkOfOneFinds "" [.text ""] (.text "") (some 0) ∧
    LinkOfOneFinds "" [.float .nan] (.float .nan) (some 0) ∧
    LinkOfOneFinds "" [.integer 1, .text "1"] (.integer 1) (some 2) ∧
    LinkOfOneFinds "" [.float (.zero false), .float (.zero true)] (.float (.zero false)) (some 2) ∧
    LinkOfOneFinds "" [.timestamp ⟨⟨0, 0⟩, 0⟩, .timestamp ⟨⟨0, 0⟩, 3600⟩] (.timestamp ⟨⟨0, 0⟩, 0⟩)
      (some 2) ∧
    ∃ plan, Plan.make capitalSurface anyTime ⟨"", none, ["Name"], 0, none⟩ = .ok plan ∧
      (Session.start plan ()).collect.1 = .ok [[.integer 1, .text "ann"]] ∧
      (plan.linkTotal [.text "ann"] ⟨.day, 1⟩).toOption = none := by
  have hcapital : Plan.make capitalSurface anyTime ⟨"", none, ["Name"], 0, none⟩
      = .ok (groupedPlan capitalSurface anyTime "" .lucene .empty ["Name"] 0 none) :=
    make_groupable (List.cons_ne_nil _ _)
      (fun name hm => by rw [List.mem_singleton.1 hm]; decide) rfl rfl
  have hall {names : List Value} {name : Value} {total : Option Nat}
      (hrow : (Session.start (namePlan "" .empty names) ()).collect.1.toOption.any
        (fun rows => [.integer 1, name] ∈ rows) = true)
      (htotal : ((namePlan "" .empty names).linkTotal [name] ⟨.day, 1⟩).toOption = total) :
      LinkOfOneFinds "" names name total := linkOfOne_finds rfl hrow htotal
  have hnot : LinkOfOneFinds "NOT" [.text "do not"] (.text "do not") (some 0) :=
    linkOfOne_finds (c := .test "events._raw_query" "==" "NOT") (by decide +kernel)
      (by decide +kernel) (by decide +kernel)
  exact ⟨hall (by decide +kernel) (by decide +kernel), hnot,
    hall (by decide +kernel) (by decide +kernel), hall (by decide +kernel) (by decide +kernel),
    hall (by decide +kernel) (by decide +kernel), hall (by decide +kernel) (by decide +kernel),
    hall (by decide +kernel) (by decide +kernel),
    _, hcapital, eq_ok_of_toOption (by decide +kernel), by decide +kernel⟩

end EventSearch.Search
