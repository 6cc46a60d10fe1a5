/-
# `EventSearch.Proofs.SurfaceColumns` — which surfaces can be built, and their columns

The columns of a surface are the declared fields of its dataset: those listed first, in the order of
their first place in the list, and then the others as they were declared (`sortBy_rank`).  The
provider is asked for each of them by its qualified path, and finds the datatype again in front of the
first point (`pathInfo_eq_ok`).  A datatype without points is thus found, and a datatype with
points is found only where the store holds another one, named by its first part, with the same fields
under the rest of the name (`Resolves`).  That is when a surface is built with its columns as they were
declared, and when a search without groups can retrieve them all (`build_shows`).
-/
import EventSearch.Proofs.DatasetHistory
import EventSearch.Proofs.PlannedSearch
import EventSearch.Proofs.SeparatedTexts
import Mathlib.Data.List.Sort

namespace EventSearch.Search

open EventSearch.Text EventSearch.Data EventSearch.Query EventSearch.Provider

/-! ## Column order -/

section Order

variable {columns names : List String}

theorem rank_eq_idxOf (columns : List String) (name : String) :
    Surface.rank columns name = columns.idxOf name := by
  simp [Surface.rank, List.idxOf, beq_eq_decide]

/-- Names without repetitions stand in the order of their first places. -/
theorem pairwise_eraseDups (columns : List String) :
    columns.eraseDups.Pairwise fun a b => columns.idxOf a ≤ columns.idxOf b := by
  induction columns using List.reverseRecOn with
  | nil => exact .nil
  | append_singleton columns name ih =>
    have hkept : columns.eraseDups.Pairwise fun a b =>
        (columns ++ [name]).idxOf a ≤ (columns ++ [name]).idxOf b := by
      refine ih.imp_of_mem fun ha hb hab => ?_
      rw [List.mem_eraseDups] at ha hb
      rwa [List.idxOf_append_of_mem ha, List.idxOf_append_of_mem hb]
    rw [eraseDups_concat]
    split
    · exact hkept
    · next hnew =>
      refine List.pairwise_append.2 ⟨hkept, List.pairwise_singleton _ _, fun a ha b hb => ?_⟩
      rw [List.mem_eraseDups] at ha
      obtain rfl := List.mem_singleton.1 hb
      rw [List.idxOf_append_of_mem ha, List.idxOf_append_of_notMem hnew]
      have := List.idxOf_lt_length_of_mem ha
      omega

/-- What is sorted falls into its low and its high part. -/
theorem filter_low_append_high {α : Type} {key : α → Nat} {n : Nat} {xs : List α}
    (h : xs.Pairwise fun a b => key a ≤ key b) :
    xs.filter (fun x => key x < n) ++ xs.filter (fun x => ¬ key x < n) = xs := by
  induction xs with
  | nil => rfl
  | cons x xs ih =>
    obtain ⟨hx, hxs⟩ := List.pairwise_cons.1 h
    by_cases hlow : key x < n
    · simpa [hlow] using ih hxs
    · have hnone : xs.filter (fun y => key y < n) = [] :=
        List.filter_eq_nil_iff.2 fun y hy => by
          have := hx y hy
          simp only [decide_eq_true_eq]
          omega
      have hrest := ih hxs
      rw [hnone, List.nil_append] at hrest
      simp only [List.filter_cons, hlow, hnone, decide_false, decide_true, not_false_eq_true,
        Bool.false_eq_true, if_false, if_true, List.nil_append]
      rw [hrest]

/-- Distinct names in column order. -/
def columnOrder (columns names : List String) : List String :=
  columns.eraseDups.filter (· ∈ names) ++ names.filter (· ∉ columns)

theorem sortBy_rank (h : names.Nodup) :
    sortBy (fun a b => compare (Surface.rank columns a) (Surface.rank columns b)) names
      = columnOrder columns names := by
  simp only [rank_eq_idxOf]
  let order (a b : String) : Ordering := compare (columns.idxOf a) (columns.idxOf b)
  have hsorted : (sortBy order names).Pairwise fun a b => columns.idxOf a ≤ columns.idxOf b := by
    refine sortBy_pairwise (fun a _ b _ hab => ?_) (fun a _ b _ hab => ?_)
      fun a _ b _ c _ hab hbc => Nat.le_trans hab hbc
    · exact Nat.le_of_lt (Nat.compare_eq_lt.1 hab)
    · exact Nat.le_of_not_lt fun hlt => hab (Nat.compare_eq_lt.2 hlt)
  have hmem : ∀ {a : String}, columns.idxOf a < columns.length ↔ a ∈ columns :=
    List.idxOf_lt_length_iff
  -- listed names have places of their own, and the others are tied with each other
  have hlisted : (sortBy order names).filter (fun a => columns.idxOf a < columns.length)
      = columns.eraseDups.filter (· ∈ names) := by
    refine List.Perm.eq_of_pairwise (fun a b ha hb hab hba => ?_) (hsorted.filter _)
      ((pairwise_eraseDups columns).filter _) ?_
    · have hlow : columns.idxOf a < columns.length := by simpa using (List.mem_filter.1 ha).2
      exact (List.idxOf_inj (hmem.1 hlow)).1 (Nat.le_antisymm hab hba)
    · refine (List.perm_ext_iff_of_nodup (((sortBy_perm order names).nodup_iff.2 h).filter _)
        ((nodup_eraseDups columns).filter _)).2 fun a => ?_
      simp [hmem, (sortBy_perm order names).mem_iff, and_comm]
  have hothers : (sortBy order names).filter (fun a => ¬ columns.idxOf a < columns.length)
      = names.filter (· ∉ columns) := by
    rw [sortBy_filter]
    · simp only [hmem]
    · intro a _ b _ ha hb hlt
      have hlow := Nat.compare_eq_lt.1 hlt
      have hhigh : ¬ columns.idxOf a < columns.length := by simpa using ha
      have := List.idxOf_le_length (a := b) (l := columns)
      omega
  rw [columnOrder, ← hlisted, ← hothers]
  exact (filter_low_append_high hsorted).symm

end Order

/-! ## Qualified fields -/

/-- A store in which the fields of a datatype are found under their qualified names. -/
def Resolves (store : Store) (datatype : String) (d : Dataset) : Prop :=
  d.fields = [] ∨ '.' ∉ datatype.toList ∨ ∃ lead rest other,
    datatype = lead ++ "." ++ rest ∧ '.' ∉ lead.toList ∧ store.dataset lead = .ok other ∧
      ∀ f ∈ d.fields, other.fieldType? (rest ++ "." ++ f.1) = some f.2

variable {store : Store} {datatype : String} {d : Dataset}

/-- The datatype of a path ends at its first point. -/
theorem pathInfo_eq_ok {lead field : String} {info : PathInfo} (h : '.' ∉ lead.toList) :
    store.pathInfo (lead ++ "." ++ field) = .ok info ↔
      ∃ other type, store.dataset lead = .ok other ∧ other.fieldType? field = some type ∧
        info = .ofType (lead ++ "." ++ field) type := by
  have hsplit : splitOnce? '.' (lead ++ "." ++ field) = some (lead, field) :=
    splitOnce?_joined rfl h field
  simp only [Store.pathInfo, hsplit, bind, Except.bind]
  cases store.dataset lead with
  | error e => simp
  | ok other =>
    simp only [Except.ok.injEq, exists_and_left, exists_eq_left']
    cases other.fieldType? field with
    | none => simp
    | some type => simp [eq_comm]

/-- A text has no point, or a first one. -/
theorem first_point (datatype : String) : '.' ∉ datatype.toList ∨
    ∃ lead rest, datatype = lead ++ "." ++ rest ∧ '.' ∉ lead.toList := by
  by_cases h : '.' ∈ datatype.toList
  · obtain ⟨lead, rest, hsplit, hlead⟩ := List.eq_append_cons_of_mem h
    refine .inr ⟨.ofList lead, .ofList rest, String.toList_inj.1 ?_, by simpa using hlead⟩
    simp [hsplit]
  · exact .inl h

/-- The fields are found exactly when the provider is told of them under these names. -/
theorem resolves_iff (hd : store.dataset datatype = .ok d) (hb : d.Built) :
    Resolves store datatype d ↔ ∀ f ∈ d.fields, store.pathInfo (datatype ++ "." ++ f.1)
      = .ok (.ofType (datatype ++ "." ++ f.1) f.2) := by
  have hassoc : ∀ lead rest name : String,
      lead ++ "." ++ rest ++ "." ++ name = lead ++ "." ++ (rest ++ "." ++ name) := by
    intro lead rest name
    simp only [String.append_assoc]
  constructor
  · rintro (hnone | hpoint | ⟨lead, rest, other, rfl, hlead, hother, htypes⟩) f hf
    · rw [hnone] at hf
      cases hf
    · exact (pathInfo_eq_ok hpoint).2 ⟨d, f.2, hd, hb.fieldType?_of_mem hf, rfl⟩
    · rw [hassoc]
      exact (pathInfo_eq_ok hlead).2 ⟨other, f.2, hother, htypes f hf, rfl⟩
  · intro hfound
    rcases first_point datatype with hpoint | ⟨lead, rest, rfl, hlead⟩
    · exact .inr (.inl hpoint)
    have hheld : ∀ f ∈ d.fields, ∃ other, store.dataset lead = .ok other ∧
        other.fieldType? (rest ++ "." ++ f.1) = some f.2 := by
      intro f hf
      have hinfo := hfound f hf
      rw [hassoc] at hinfo
      obtain ⟨other, type, hother, htype, heq⟩ := (pathInfo_eq_ok hlead).1 hinfo
      obtain rfl : f.2 = type := congrArg PathInfo.fieldType heq
      exact ⟨other, hother, htype⟩
    cases hfields : d.fields with
    | nil => exact .inl hfields
    | cons f fields =>
      obtain ⟨other, hother, -⟩ := hheld f (by rw [hfields]; exact List.mem_cons_self)
      refine .inr (.inr ⟨lead, rest, other, rfl, hlead, hother, fun g hg => ?_⟩)
      obtain ⟨other', hother', htype⟩ := hheld g hg
      obtain rfl := Except.ok.inj (hother.symm.trans hother')
      exact htype

/-! ## Surfaces -/

/-- What is known of declared fields, columns counted from `column`. -/
def fieldInfos (datatype : String) (column : Nat) (fields : List (String × FieldType)) :
    List FieldInfo :=
  (fields.zipIdx column).map fun f =>
    ⟨f.1.1, .ofType (datatype ++ "." ++ f.1.1) f.1.2, f.2⟩

theorem describe_fields {fields : List (String × FieldType)}
    (h : ∀ f ∈ fields, store.pathInfo (datatype ++ "." ++ f.1)
      = .ok (.ofType (datatype ++ "." ++ f.1) f.2)) (column : Nat) :
    Surface.describe store.provider datatype column (fields.map fun f => datatype ++ "." ++ f.1)
      = .ok (fieldInfos datatype column fields) := by
  induction fields generalizing column with
  | nil => rfl
  | cons f fields ih =>
    obtain ⟨hf, hfields⟩ := List.forall_mem_cons.1 h
    have hinfo : store.provider.pathInfo (datatype ++ "." ++ f.1)
        = .ok (.ofType (datatype ++ "." ++ f.1) f.2) := hf
    rw [List.map_cons, Surface.describe, hinfo, ih hfields]
    simp only [Except.map, Surface.localName, stripDatatype_dot]
    rfl

/-- The declared fields in column order. -/
def columnFields (columns : List String) (d : Dataset) : List (String × FieldType) :=
  sortBy (fun a b => compare (Surface.rank columns a.1) (Surface.rank columns b.1)) d.fields

theorem columnFields_perm (columns : List String) (d : Dataset) :
    (columnFields columns d).Perm d.fields := sortBy_perm _ d.fields

theorem names_columnFields (columns : List String) (hb : d.Built) :
    (columnFields columns d).map (·.1) = columnOrder columns (d.fields.map (·.1)) := by
  rw [← sortBy_rank hb.distinct, sortBy_map]
  rfl

theorem orderPaths_fields (columns : List String) (d : Dataset) :
    Surface.orderPaths datatype columns (d.fields.map fun f => datatype ++ "." ++ f.1)
      = (columnFields columns d).map fun f => datatype ++ "." ++ f.1 := by
  rw [Surface.orderPaths, sortBy_map]
  simp only [Surface.localName, stripDatatype_dot]
  rfl

/-- A surface whose columns are the declared fields of a dataset. -/
structure Surface.Shows {σ : Type} (s : Surface σ) (columns : List String) (d : Dataset) : Prop where
  order : s.fields.map (·.name) = columnOrder columns (d.fields.map (·.1))
  once : (s.fields.map (·.name)).Nodup
  declared : (s.fields.map fun f => (f.name, f.info.fieldType)).Perm d.fields
  info : ∀ f ∈ s.fields, f.info = .ofType (s.qualify f.name) f.info.fieldType
  counted : s.fields.map (·.column) = List.range s.fields.length

/-- A surface whose columns a search without groups retrieves, and whose retrievals the store
accepts. -/
structure Surface.Listed (s : Surface Unit) (store : Store) : Prop where
  planned : ∀ context p c, p.groupby = [] →
    compile s.datatype s.translations (p.mode.getD s.defaultMode) p.query = .ok c →
      ∃ plan, Plan.make s context p = .ok plan ∧
        plan.retrievals = s.fields.map fun f => .field (s.qualify f.name)
  accepted : ∀ request : Request, request.datatype = s.datatype →
    request.retrievals = s.fields.map (fun f => .field (s.qualify f.name)) →
      ∀ e, store.execute request = .error e ↔
        store.execute { request with retrievals := [] } = .error e

/-! ### Columns -/

theorem names_fieldInfos (datatype : String) (column : Nat) (fields : List (String × FieldType)) :
    (fieldInfos datatype column fields).map (·.name) = fields.map (·.1) := by
  rw [fieldInfos, List.map_map, ← List.zipIdx_map_fst column fields, List.map_map,
    List.zipIdx_map_fst]
  rfl

theorem shows_fieldInfos {s : Surface Unit} {columns : List String} (hb : d.Built)
    (hs : s.fields = fieldInfos s.datatype 0 (columnFields columns d)) : s.Shows columns d := by
  have hnames : s.fields.map (·.name) = (columnFields columns d).map (·.1) := by
    rw [hs, names_fieldInfos]
  have hperm := columnFields_perm columns d
  refine ⟨hnames.trans (names_columnFields columns hb), ?_, ?_, fun f hf => ?_, ?_⟩
  · rw [hnames]
    exact (hperm.map _).nodup_iff.2 hb.distinct
  · have hfields : (s.fields.map fun f => (f.name, f.info.fieldType)) = columnFields columns d := by
      rw [hs, fieldInfos, List.map_map]
      exact List.zipIdx_map_fst 0 _
    rw [hfields]
    exact hperm
  · rw [hs] at hf
    obtain ⟨x, -, rfl⟩ := List.mem_map.1 hf
    rfl
  · rw [hs, fieldInfos, List.map_map, List.length_map, List.length_zipIdx, List.range_eq_range']
    exact List.zipIdx_map_snd 0 _

/-- When all fields are found the surface is built. -/
theorem build_found (hd : store.dataset datatype = .ok d)
    (h : ∀ f ∈ d.fields, store.pathInfo (datatype ++ "." ++ f.1)
      = .ok (.ofType (datatype ++ "." ++ f.1) f.2)) (o : SurfaceOptions) :
    ∃ s, Surface.build datatype store.provider o = .ok s ∧ s.datatype = datatype ∧
      s.fields = fieldInfos datatype 0 (columnFields o.columns d) := by
  have hdescribe := describe_fields (fun f hf => h f ((columnFields_perm o.columns d).mem_iff.1 hf)) 0
  rw [Surface.build, paths_eq_ok hd]
  simp only [orderPaths_fields, hdescribe, Except.map]
  exact ⟨_, rfl, rfl, rfl⟩

/-! ### Searches -/

/-- Marks fail for what is marked, and not for the rows. -/
theorem map_markRows_eq_error {α : Type} {f : List Row → α} {highlight : Option Highlight}
    {terms : List String} {rows : List Row} {e : Error} :
    (Store.markRows highlight terms rows).map f = .error e ↔
      highlight.isSome ∧ Highlight.termsFit terms = false ∧ e = .invalidCriteria .tooManyTerms := by
  cases highlight with
  | none => simp [Store.markRows, Except.map]
  | some h =>
    cases hfit : Highlight.termsFit terms <;> simp [Store.markRows, Except.map, hfit, eq_comm]

theorem listed_of_over {s : Surface Unit} (hs : s.Over store d) : s.Listed store := by
  refine ⟨fun context p c hgroupby hc => ?_, fun request hdatatype hretrievals e => ?_⟩
  · refine ⟨listingPlan s context p.query (p.mode.getD s.defaultMode) c p.offset p.limit, ?_, rfl⟩
    simp only [Plan.make, Plan.compileQuery, hc, hgroupby, bind, Except.bind]
    rfl
  · let plain : Request := { request with retrievals := [] }
    have hplain : plain.datatype = s.datatype := hdatatype
    have hnone : Column.ofRetrievals ⟨s.datatype, d⟩ plain.retrievals = .ok [] := rfl
    have hcolumns : Column.ofRetrievals ⟨s.datatype, d⟩ request.retrievals
        = .ok (fieldColumns (s.fields.map (·.name))) := by
      rw [hretrievals]
      exact ofRetrievals_listing hs
    rw [execute_eq hs hdatatype hcolumns, execute_eq hs hplain hnone]
    cases Filter.compile ⟨s.datatype, d⟩ request.criteria with
    | error e => rfl
    | ok f => simp only [plain, map_markRows_eq_error]

/-- A surface can be built over any dataset whose fields are found under their qualified names, and
over no other with the fields as they were declared. -/
theorem build_shows (hd : store.dataset datatype = .ok d) (hb : d.Built) (o : SurfaceOptions) :
    (∃ s, Surface.build datatype store.provider o = .ok s ∧ s.datatype = datatype ∧
      s.Shows o.columns d ∧ s.Listed store) ↔ Resolves store datatype d := by
  rw [resolves_iff hd hb]
  constructor
  · rintro ⟨s, hbuild, -, hshows, -⟩ f hf
    obtain ⟨_, -, rfl, -, hinfos⟩ := build_cases hbuild
    obtain ⟨g, hg, rfl⟩ := List.mem_map.1 (hshows.declared.mem_iff.2 hf)
    rw [(hinfos g hg).2, hshows.info g hg]
    rfl
  · intro hfound
    obtain ⟨s, hbuild, rfl, hfields⟩ := build_found hd hfound o
    obtain ⟨other, hover⟩ := build_eq_ok hbuild
    exact ⟨s, hbuild, rfl, shows_fieldInfos hb hfields, listed_of_over hover⟩

/-- A datatype without points, with the second field listed first. -/
theorem build_shows_web :
    let store : Store := [("web", ⟨[("name", .text), ("port", .integer)], []⟩)]
    let o : SurfaceOptions := { SurfaceOptions.default with columns := ["port"] }
    (∃ d, store.dataset "web" = .ok d ∧ d.Built) ∧
      ∃ s, Surface.build "web" store.provider o = .ok s ∧ s.datatype = "web" ∧
        s.Shows ["port"] ⟨[("name", .text), ("port", .integer)], []⟩ ∧ s.Listed store := by
  intro store o
  have hb : Dataset.Built ⟨[("name", .text), ("port", .integer)], []⟩ :=
    .withField "port" .integer (.withField "name" .text .empty)
  exact ⟨⟨_, rfl, hb⟩, (build_shows rfl hb o).2 (.inr (.inl (by decide)))⟩

/-- A datatype with a point is held and has no surface, since the text in front of the point is no
datatype. -/
theorem build_misses :
    let store : Store := [("web.log", ⟨[("name", .text), ("port", .integer)], []⟩)]
    let o : SurfaceOptions := { SurfaceOptions.default with columns := ["port"] }
    (∃ d, store.dataset "web.log" = .ok d ∧ d.Built) ∧
      Surface.build "web.log" store.provider o = .error (.provider (.unknownDatatype "web")) := by
  intro store o
  exact ⟨⟨_, rfl, .withField "port" .integer (.withField "name" .text .empty)⟩, rfl⟩

end EventSearch.Search
