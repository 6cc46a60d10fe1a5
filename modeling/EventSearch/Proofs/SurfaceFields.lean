/-
# `EventSearch.Proofs.SurfaceFields` — surfaces over datasets in memory

A surface that is built over a store describes the declared fields of its dataset, each under its
name and with its qualified path (`build_eq_ok`).  A search that is grouped by untranslated fields
therefore retrieves exactly the qualified paths of these fields (`fieldPaths_eq_ok`), and a listing
those of all fields; the provider resolves both to the columns of the fields (`ofRetrievals_fields`).
-/
import EventSearch.Proofs.CellFilters
import EventSearch.Proofs.GroupCounts
import EventSearch.Proofs.KeyedLists
import EventSearch.Provider.Memory
import EventSearch.Search.Session

namespace EventSearch.Search

open EventSearch.Text EventSearch.Data EventSearch.Query EventSearch.Provider

/-! ## Fields -/

/-- Every described field comes from one of the paths. -/
theorem mem_describe {σ : Type} {provider : Provider σ} {datatype : String} {column : Nat}
    {paths : List String} {fields : List FieldInfo}
    (h : Surface.describe provider datatype column paths = .ok fields) {f : FieldInfo}
    (hf : f ∈ fields) : ∃ path ∈ paths, f.name = Surface.localName datatype path ∧
      provider.pathInfo path = .ok f.info := by
  induction paths generalizing column fields with
  | nil =>
    obtain rfl := Except.ok.inj h
    cases hf
  | cons path paths ih =>
    simp only [Surface.describe] at h
    split at h
    · cases h
    · next info hi =>
      cases hd : Surface.describe provider datatype (column + 1) paths with
      | error e =>
        rw [hd] at h
        cases h
      | ok rest =>
        rw [hd] at h
        obtain rfl := Except.ok.inj h
        rcases List.mem_cons.1 hf with rfl | hf
        · exact ⟨path, List.mem_cons_self, rfl, hi⟩
        · obtain ⟨p, hp, hfacts⟩ := ih hd hf
          exact ⟨p, List.mem_cons_of_mem path hp, hfacts⟩

theorem path_of_pathInfo {store : Store} {path : String} {info : PathInfo}
    (h : store.pathInfo path = .ok info) : info.path = path := by
  unfold Store.pathInfo at h
  split at h
  · cases h
  · next datatype field _ =>
    cases hd : store.dataset datatype with
    | error e =>
      rw [hd] at h
      cases h
    | ok d =>
      rw [hd] at h
      simp only [bind, Except.bind] at h
      split at h
      · obtain rfl := Except.ok.inj h
        rfl
      · cases h

/-- What is known of a surface over a store. -/
structure Surface.Over (s : Surface Unit) (store : Store) (d : Dataset) : Prop where
  provider : s.provider = store.provider
  dataset : store.dataset s.datatype = .ok d
  fields : ∀ f ∈ s.fields, (d.fieldType? f.name).isSome ∧ f.info.path = s.qualify f.name

/-- The paths of a datatype are its declared fields, qualified. -/
theorem paths_eq_ok {store : Store} {datatype : String} {d : Dataset}
    (hd : store.dataset datatype = .ok d) :
    store.provider.paths datatype = .ok (d.fields.map fun f => datatype ++ "." ++ f.1) := by
  simp only [Store.provider, Store.paths, hd]
  rfl

/-- A surface that is built has columns of declared fields only, each with what the provider tells
of its qualified name. -/
theorem build_cases {store : Store} {datatype : String} {o : SurfaceOptions} {s : Surface Unit}
    (h : Surface.build datatype store.provider o = .ok s) :
    ∃ d, store.dataset datatype = .ok d ∧ s.datatype = datatype ∧ s.provider = store.provider ∧
      ∀ f ∈ s.fields, f.name ∈ d.fields.map (·.1) ∧
        store.pathInfo (datatype ++ "." ++ f.name) = .ok f.info := by
  cases hd : store.dataset datatype with
  | error e =>
    have hpaths : store.provider.paths datatype = .error e := by
      simp only [Store.provider, Store.paths, hd]
      rfl
    rw [Surface.build, hpaths] at h
    cases h
  | ok d =>
    rw [Surface.build, paths_eq_ok hd] at h
    simp only at h
    cases hf : Surface.describe store.provider datatype 0 (Surface.orderPaths datatype o.columns
        (d.fields.map fun f => datatype ++ "." ++ f.1)) with
    | error e =>
      rw [hf] at h
      cases h
    | ok fields =>
      rw [hf] at h
      obtain rfl := Except.ok.inj h
      refine ⟨d, rfl, rfl, rfl, fun f hmem => ?_⟩
      obtain ⟨path, hpath, hname, hinfo⟩ := mem_describe hf hmem
      obtain ⟨g, hg, rfl⟩ := List.mem_map.1 ((sortBy_perm _ _).mem_iff.1 hpath)
      rw [Surface.localName, stripDatatype_dot] at hname
      rw [hname]
      exact ⟨List.mem_map_of_mem hg, hinfo⟩

theorem build_eq_ok {store : Store} {datatype : String} {o : SurfaceOptions} {s : Surface Unit}
    (h : Surface.build datatype store.provider o = .ok s) : ∃ d, s.Over store d := by
  obtain ⟨d, hd, rfl, hprovider, hfields⟩ := build_cases h
  refine ⟨d, hprovider, hd, fun f hf => ?_⟩
  obtain ⟨hdeclared, hinfo⟩ := hfields f hf
  exact ⟨find?_isSome_iff.2 hdeclared, path_of_pathInfo hinfo⟩

/-! ## Retrievals -/

/-- The retrieval of a field as a group. -/
def groupRetrieval (s : Surface Unit) (name : String) : Retrieval :=
  (Retrieval.field (s.qualify name)).asGroup

/-- Groups by untranslated fields retrieve these fields, which are declared. -/
theorem fieldPaths_eq_ok {s : Surface Unit} {store : Store} {d : Dataset} (hs : s.Over store d)
    {names : List String} (hn : ∀ name ∈ names, s.translations.get? name = none)
    {paths : List (List Retrieval)} (h : Grouping.fieldPaths s names = .ok paths) :
    paths = names.map (fun name => [groupRetrieval s name]) ∧
      ∀ name ∈ names, (d.fieldType? name).isSome := by
  induction names generalizing paths with
  | nil =>
    obtain rfl := Except.ok.inj h
    exact ⟨rfl, by simp⟩
  | cons name names ih =>
    have htail := fun n hm => hn n (List.mem_cons_of_mem name hm)
    simp only [Grouping.fieldPaths, Surface.groupPaths, hn name List.mem_cons_self] at h
    cases hf : s.fieldInfo? name with
    | none =>
      rw [hf] at h
      cases h
    | some f =>
      have hname : f.name = name := by simpa using List.find?_some hf
      obtain ⟨hd, hpath⟩ := hs.fields f (List.mem_of_find?_eq_some hf)
      rw [hname] at hd hpath
      rw [hf] at h
      simp only at h
      split at h
      · cases h
      · next first hfirst =>
        split at hfirst
        · obtain rfl := Except.ok.inj hfirst
          cases hrest : Grouping.fieldPaths s names with
          | error e =>
            rw [hrest] at h
            cases h
          | ok rest =>
            rw [hrest] at h
            obtain rfl := Except.ok.inj h
            obtain ⟨rfl, hall⟩ := ih htail hrest
            refine ⟨by rw [List.map_cons, groupRetrieval, hpath], fun n hm => ?_⟩
            rcases List.mem_cons.1 hm with rfl | hm
            · exact hd
            · exact hall n hm
        · cases hfirst

/-- The columns of retrieved fields. -/
theorem ofRetrievals_fields (scope : Scope) {names : List String}
    (h : ∀ name ∈ names, (scope.dataset.fieldType? name).isSome) (f : String → Retrieval)
    (hf : ∀ name, (f name).source = .field (scope.datatype ++ "." ++ name)) :
    Column.ofRetrievals scope (names.map f) = .ok (fieldColumns names) := by
  induction names with
  | nil => rfl
  | cons name names ih =>
    have hname := field_qualified (h name List.mem_cons_self)
    have ih := ih fun n hm => h n (List.mem_cons_of_mem name hm)
    simp only [List.map_cons, Column.ofRetrievals, hf name, Column.ofSource, hname, ih]
    rfl

end EventSearch.Search
