/-
# `EventSearch.Proofs.QueryMeaning` — what a query means before it is compiled

A query can be read directly: connectives are conjunction and disjunction, parentheses change
nothing, and a term means what the filter of that term alone accepts (`Holds`).  The compiler takes
another way.  Its combinators merge nodes of one kind and drop whatever sets no condition, on either
side of both connectives.  For a disjunction that is only right where nothing is dropped; compiled
queries have no empty part, so the filter of the whole accepts what the direct reading accepts
(`accepts_iff_holds`).
-/
import EventSearch.Proofs.FilterConjuncts

namespace EventSearch.Provider

open EventSearch.Data EventSearch.Query

namespace Filter

variable {scope : Scope} {record : Record}

/-! ## Alternatives -/

theorem acceptsAny_append (record : Record) (fs gs : List Filter) :
    acceptsAny record (fs ++ gs) = (acceptsAny record fs || acceptsAny record gs) := by
  induction fs with
  | nil => simp [acceptsAny]
  | cons f fs ih => simp [acceptsAny, ih, Bool.or_assoc]

theorem compileAll_append_ok {cs ds : List Criteria} {hs : List Filter}
    (h : compileAll scope (cs ++ ds) = .ok hs) :
    ∃ fs gs, compileAll scope cs = .ok fs ∧ compileAll scope ds = .ok gs ∧ hs = fs ++ gs := by
  rw [compileAll_append] at h
  cases hc : compileAll scope cs with
  | error e =>
    rw [hc] at h
    cases h
  | ok fs =>
    rw [hc] at h
    cases hd : compileAll scope ds with
    | error e =>
      rw [hd] at h
      cases h
    | ok gs =>
      rw [hd] at h
      exact ⟨fs, gs, rfl, rfl, (Except.ok.inj h).symm⟩

theorem compile_disj {cs : List Criteria} {f : Filter} (h : compile scope (.disj cs) = .ok f) :
    ∃ fs, compileAll scope cs = .ok fs ∧ f = .disj fs := by
  simp only [compile] at h
  cases hc : compileAll scope cs with
  | error e =>
    rw [hc] at h
    cases h
  | ok fs =>
    rw [hc] at h
    exact ⟨fs, rfl, (Except.ok.inj h).symm⟩

/-- What is not empty is told by its alternatives. -/
theorem compile_of_disjuncts {c : Criteria} (hc : c ≠ .empty) {fs : List Filter}
    (h : compileAll scope c.disjuncts = .ok fs) :
    ∃ f, compile scope c = .ok f ∧ ∀ record, f.accepts record = acceptsAny record fs := by
  by_cases hd : c.isDisj = true
  · cases c with
    | disj cs =>
      refine ⟨.disj fs, ?_, fun record => by rw [accepts]⟩
      rw [compile, show compileAll scope cs = .ok fs from h]
      rfl
    | empty => cases hd
    | leaf l => cases hd
    | conj cs => cases hd
  · rw [Criteria.disjuncts_of_not_disj hc (by simpa using hd), compileAll_singleton] at h
    cases hf : compile scope c with
    | error e =>
      rw [hf] at h
      cases h
    | ok f =>
      rw [hf] at h
      obtain rfl := Except.ok.inj h
      exact ⟨f, rfl, fun record => by simp [acceptsAny]⟩

/-- Alternatives that can be tested together can both be tested, and a record passes when it passes
either.  An empty side would be dropped, though every record passes it. -/
theorem passes_or {c d : Criteria} (hc : c ≠ .empty) (hd : d ≠ .empty)
    (h : Testable scope (c.or d)) : Testable scope c ∧ Testable scope d ∧
      ∀ record, Passes scope record (c.or d) ↔ Passes scope record c ∨ Passes scope record d := by
  obtain ⟨f, hf⟩ := h
  have hor := hf
  rw [Criteria.or_eq_disj hc hd] at hor
  obtain ⟨fs, hfs, rfl⟩ := compile_disj hor
  obtain ⟨gs, hs, hgs, hhs, rfl⟩ := compileAll_append_ok hfs
  obtain ⟨g, hg, hga⟩ := compile_of_disjuncts hc hgs
  obtain ⟨k, hk, hka⟩ := compile_of_disjuncts hd hhs
  refine ⟨⟨g, hg⟩, ⟨k, hk⟩, fun record => ?_⟩
  rw [passes_iff hf, passes_iff hg, passes_iff hk, accepts, acceptsAny_append, hga, hka,
    Bool.or_eq_true]

theorem passes_foldl_or {b : Criteria} {cs : List Criteria} (hb : b ≠ .empty)
    (hs : ∀ c ∈ cs, c ≠ .empty) (h : Testable scope (cs.foldl Criteria.or b)) :
    Testable scope b ∧ ∀ record, Passes scope record (cs.foldl Criteria.or b) ↔
      Passes scope record b ∨ ∃ c ∈ cs, Passes scope record c := by
  induction cs generalizing b with
  | nil => exact ⟨h, by simp⟩
  | cons c cs ih =>
    have hc := hs c List.mem_cons_self
    have hbc : b.or c ≠ .empty := by
      rw [Criteria.or_eq_disj hb hc]
      exact Criteria.noConfusion
    obtain ⟨htestable, hiff⟩ := ih hbc (fun d hd => hs d (List.mem_cons_of_mem c hd)) h
    obtain ⟨hleft, -, hor⟩ := passes_or hb hc htestable
    refine ⟨hleft, fun record => ?_⟩
    simp only [List.foldl_cons, hiff, hor, List.mem_cons, exists_eq_or_imp, or_assoc]

/-- A record passes one of some criteria when it passes any. -/
theorem passes_anyOf {cs : List Criteria} (hne : cs ≠ []) (hs : ∀ c ∈ cs, c ≠ .empty)
    (h : Testable scope (.anyOf cs)) :
    Passes scope record (.anyOf cs) ↔ ∃ c ∈ cs, Passes scope record c := by
  obtain ⟨c, cs, rfl⟩ := List.exists_cons_of_ne_nil hne
  rw [Criteria.anyOf, List.foldl_cons, Criteria.empty_or] at h ⊢
  obtain ⟨-, hiff⟩ := passes_foldl_or (hs c List.mem_cons_self)
    (fun d hd => hs d (List.mem_cons_of_mem c hd)) h
  simp only [hiff, List.mem_cons, exists_eq_or_imp]

end Filter

/-! ## Reading trees directly -/

variable (scope : Scope) (datatype : String) (record : Record)

/-- What a `lucene` query means for a record. -/
def LuceneHolds : LuceneTree → Prop
  | .combine left .and right => LuceneHolds left ∧ LuceneHolds right
  | .combine left .or right => LuceneHolds left ∨ LuceneHolds right
  | .group inner => LuceneHolds inner
  | .signed sign term => Passes scope record (term.compile datatype (sign.any Sign.isNegation))

/-- What a comparison means: a negated test of a logical field asks all of its paths, a positive
one any of them. -/
def ComparisonHolds (table : TranslationTable) (field operator : String) (value : Option String) :
    Prop :=
  match table.get? field with
  | none => Passes scope record (.leaf ⟨datatype ++ "." ++ field, operator, value⟩)
  | some translation =>
    let passes (path : String) : Prop :=
      Passes scope record (.leaf ⟨path, operator, value.map translation.applyTo⟩)
    if isNegated operator then ∀ path ∈ translation.paths, passes path
    else ∃ path ∈ translation.paths, passes path

/-- What a `criterion` query means for a record. -/
def CriterionHolds (table : TranslationTable) : CriterionTree → Prop
  | .and left right => CriterionHolds table left ∧ CriterionHolds table right
  | .or left right => CriterionHolds table left ∨ CriterionHolds table right
  | .compare field operator value => ComparisonHolds scope datatype record table field operator value

variable {scope datatype record}

theorem passes_lucene {tree : LuceneTree} (h : Testable scope (tree.compile datatype)) :
    Passes scope record (tree.compile datatype) ↔ LuceneHolds scope datatype record tree := by
  induction tree with
  | signed sign term => exact Iff.rfl
  | group inner ih => exact ih h
  | combine left op right ihl ihr =>
    cases op with
    | and =>
      obtain ⟨hl, hr⟩ := Filter.testable_and h
      exact (Filter.passes_and _ _).trans (and_congr (ihl hl) (ihr hr))
    | or =>
      obtain ⟨hl, hr, hor⟩ := Filter.passes_or (left.solid_compile datatype).not_empty
        (right.solid_compile datatype).not_empty h
      exact (hor record).trans (or_congr (ihl hl) (ihr hr))

theorem passes_comparison {table : TranslationTable} (ht : TablePaths table)
    {field operator : String} {value : Option String}
    (h : Testable scope (compileTest datatype table field operator value)) :
    Passes scope record (compileTest datatype table field operator value) ↔
      ComparisonHolds scope datatype record table field operator value := by
  unfold compileTest ComparisonHolds at *
  cases hget : table.get? field with
  | none => exact Iff.rfl
  | some translation =>
    simp only [hget] at h ⊢
    by_cases hneg : isNegated operator = true
    · simp only [if_pos hneg, Filter.passes_allOf, List.forall_mem_map]
    · rw [if_neg hneg] at h
      have hleaves : ∀ c ∈ translation.paths.map fun path =>
          Criteria.leaf ⟨path, operator, value.map translation.applyTo⟩, c ≠ .empty := by
        intro c hc
        obtain ⟨path, -, rfl⟩ := List.mem_map.1 hc
        exact Criteria.noConfusion
      rw [if_neg hneg, if_neg hneg,
        Filter.passes_anyOf (by simpa using ht.get hget) hleaves h]
      constructor
      · rintro ⟨c, hc, hpasses⟩
        obtain ⟨path, hpath, rfl⟩ := List.mem_map.1 hc
        exact ⟨path, hpath, hpasses⟩
      · rintro ⟨path, hpath, hpasses⟩
        exact ⟨_, List.mem_map_of_mem hpath, hpasses⟩

theorem passes_criterion {table : TranslationTable} (ht : TablePaths table) {tree : CriterionTree}
    (h : Testable scope (tree.compile datatype table)) :
    Passes scope record (tree.compile datatype table) ↔
      CriterionHolds scope datatype record table tree := by
  induction tree with
  | compare field operator value => exact passes_comparison ht h
  | and left right ihl ihr =>
    obtain ⟨hl, hr⟩ := Filter.testable_and h
    exact (Filter.passes_and _ _).trans (and_congr (ihl hl) (ihr hr))
  | or left right ihl ihr =>
    obtain ⟨hl, hr, hor⟩ := Filter.passes_or (left.solid_compile ht datatype).not_empty
      (right.solid_compile ht datatype).not_empty h
    exact (hor record).trans (or_congr (ihl hl) (ihr hr))

/-- Compiled queries of both languages accept the records for which the query holds. -/
theorem accepts_iff_holds (scope : Scope) (datatype : String) (f : Filter) :
    (∀ tree : LuceneTree, Filter.compile scope (tree.compile datatype) = .ok f →
      ∀ record, f.accepts record = true ↔ LuceneHolds scope datatype record tree) ∧
    ∀ table, TablePaths table →
      ∀ tree : CriterionTree, Filter.compile scope (tree.compile datatype table) = .ok f →
        ∀ record, f.accepts record = true ↔ CriterionHolds scope datatype record table tree := by
  refine ⟨fun tree h record => ?_, fun table ht tree h record => ?_⟩
  · rw [← Filter.passes_iff h]
    exact passes_lucene ⟨f, h⟩
  · rw [← Filter.passes_iff h]
    exact passes_criterion ht ⟨f, h⟩

/-- Events with a severity and two addresses. -/
def sampleScope : Scope := ⟨"e", ⟨[("sev", .text), ("src", .text), ("dst", .text)], []⟩⟩

/-- `addr` stands for both addresses. -/
def sampleTable : TranslationTable := ⟨[("addr", ⟨["e.src", "e.dst"], none⟩)]⟩

def sampleRecord : Record := [("sev", .text "low"), ("src", .text "c"), ("dst", .text "d")]

/-- `sev:high OR (NOT src:a AND dst:d)` -/
def sampleLucene : LuceneTree :=
  .combine (.signed none (.value (some ⟨[⟨"sev", none⟩]⟩) (.bare "high") none)) .or
    (.group (.combine (.signed (some .not) (.value (some ⟨[⟨"src", none⟩]⟩) (.bare "a") none)) .and
      (.signed none (.value (some ⟨[⟨"dst", none⟩]⟩) (.bare "d") none))))

/-- `addr = "a" || addr != "b" && sev` -/
def sampleCriterion : CriterionTree :=
  .or (.compare "addr" "=" (some "a"))
    (.and (.compare "addr" "!=" (some "b")) (.compare "sev" "==" none))

/-- Both samples can be tested and hold for the record, which their filters accept. -/
theorem accepts_iff_holds_samples :
    (∃ f, Filter.compile sampleScope (sampleLucene.compile "e") = .ok f ∧
      f.accepts sampleRecord = true ∧ LuceneHolds sampleScope "e" sampleRecord sampleLucene) ∧
    TablePaths sampleTable ∧
    ∃ f, Filter.compile sampleScope (sampleCriterion.compile "e" sampleTable) = .ok f ∧
      f.accepts sampleRecord = true ∧
      CriterionHolds sampleScope "e" sampleRecord sampleTable sampleCriterion := by
  have htable : TablePaths sampleTable := by
    intro e he
    rw [List.mem_singleton.1 he]
    exact List.cons_ne_nil _ _
  have haccepted {c : Criteria}
      (h : (Filter.compile sampleScope c).toOption.any (·.accepts sampleRecord) = true) :
      ∃ f, Filter.compile sampleScope c = .ok f ∧ f.accepts sampleRecord = true := by
    cases hc : Filter.compile sampleScope c with
    | error e =>
      rw [hc] at h
      cases h
    | ok f =>
      rw [hc] at h
      exact ⟨f, rfl, h⟩
  obtain ⟨f, hf, hfa⟩ := haccepted (c := sampleLucene.compile "e") (by decide +kernel)
  obtain ⟨g, hg, hga⟩ := haccepted (c := sampleCriterion.compile "e" sampleTable) (by decide +kernel)
  exact ⟨⟨f, hf, hfa, ((accepts_iff_holds sampleScope "e" f).1 _ hf _).1 hfa⟩, htable, g, hg, hga,
    ((accepts_iff_holds sampleScope "e" g).2 _ htable _ hg _).1 hga⟩

end EventSearch.Provider
