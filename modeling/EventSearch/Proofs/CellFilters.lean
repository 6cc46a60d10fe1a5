/-
# `EventSearch.Proofs.CellFilters` — what the criteria of cells accept

The criterion of a cell accepts the records whose own cell in that field answers the text of it
(`answers`): equals it, read by the kind of the cell, or is not there.  For the latter records must
hold no empty cells, as datasets are built (`NoNulls`).  The criteria of a query and of several
cells accept what the query accepts and what answers all cells (`compile_narrowed`).
-/
import EventSearch.Proofs.CellCriteria
import EventSearch.Proofs.FilterConjuncts
import EventSearch.Provider.Grouping

namespace EventSearch.Data

/-! ## Records without empty cells -/

/-- A record all of whose cells hold something. -/
def Record.NoNulls (record : Record) : Prop := ∀ cell ∈ record, cell.2.isNull = false

/-- A dataset all of whose records do. -/
def Dataset.NoNulls (d : Dataset) : Prop := ∀ record ∈ d.records, Record.NoNulls record

namespace Dataset

theorem noNulls_empty : NoNulls empty := fun _ h => by cases h

theorem NoNulls.withField {d : Dataset} (h : d.NoNulls) (name : String) (type : FieldType) :
    (d.withField name type).NoNulls := h

theorem noNulls_upsert {record : Record} (h : Record.NoNulls record) (name : String) {value : Value}
    (hv : value.isNull = false) : Record.NoNulls (upsert name value record) := by
  induction record with
  | nil =>
    intro cell hc
    rw [List.mem_singleton.1 hc]
    exact hv
  | cons c record ih =>
    obtain ⟨k, v⟩ := c
    have htail : Record.NoNulls record := fun cell hc => h cell (List.mem_cons_of_mem _ hc)
    intro cell hc
    simp only [upsert] at hc
    split at hc
    · rcases List.mem_cons.1 hc with rfl | hc
      · exact hv
      · exact htail cell hc
    · rcases List.mem_cons.1 hc with rfl | hc
      · exact h _ List.mem_cons_self
      · exact ih htail cell hc

theorem noNulls_setCell {record : Record} (h : Record.NoNulls record) (name : String)
    (value : Value) : Record.NoNulls (setCell record name value) := by
  unfold setCell
  split
  · exact h
  · next hv => exact noNulls_upsert h name (Bool.eq_false_iff.2 hv)

/-- Empty cells are left out of every record that is pushed. -/
theorem NoNulls.push {d : Dataset} (h : d.NoNulls) (cells : List (String × Value)) :
    (d.push cells).NoNulls := by
  have hfold : ∀ record : Record, Record.NoNulls record →
      Record.NoNulls (cells.foldl (fun record c => setCell record c.1 c.2) record) := by
    intro record hr
    induction cells generalizing record with
    | nil => exact hr
    | cons c cells ih => exact ih _ (noNulls_setCell hr c.1 c.2)
  intro record hr
  rcases List.mem_append.1 hr with hr | hr
  · exact h record hr
  · rw [List.mem_singleton.1 hr]
    exact hfold [] fun _ hc => by cases hc

/-- A dataset made by declaring fields and pushing records. -/
inductive Built : Dataset → Prop where
  | empty : Built empty
  | withField {d : Dataset} (name : String) (type : FieldType) (h : Built d) :
      Built (d.withField name type)
  | push {d : Dataset} (cells : List (String × Value)) (h : Built d) : Built (d.push cells)

theorem Built.noNulls {d : Dataset} (h : d.Built) : d.NoNulls := by
  induction h with
  | empty => exact noNulls_empty
  | withField name type _ ih => exact ih.withField name type
  | push cells _ ih => exact ih.push cells

end Dataset

end EventSearch.Data

namespace EventSearch.Search

open EventSearch.Data EventSearch.Query EventSearch.Provider

/-! ## Cells -/

/-- A cell that is what the criterion of another one asks for. -/
def answers (value : Value) (text : Option String) : Bool :=
  match text with
  | some wanted => valueEquals value wanted
  | none => value.isNull

theorem find?_not_null {record : Record} (h : Record.NoNulls record) {name : String} {value : Value}
    (hf : find? name record = some value) : value.isNull = false := by
  induction record with
  | nil => cases hf
  | cons c record ih =>
    obtain ⟨k, v⟩ := c
    simp only [find?] at hf
    split at hf
    · rw [← Option.some.inj hf]
      exact h (k, v) List.mem_cons_self
    · exact ih (fun cell hc => h cell (List.mem_cons_of_mem _ hc)) hf

variable {scope : Scope}

/-- A declared field has its qualified path. -/
theorem field_qualified {name : String} (h : (scope.dataset.fieldType? name).isSome) :
    scope.field (scope.datatype ++ "." ++ name) = .ok name := by
  simp only [Scope.field, dropLead?_dot, h, if_true]

theorem target_field {name : String} (hd : (scope.dataset.fieldType? name).isSome)
    (hn : name ≠ anyField) : scope.target (scope.datatype ++ "." ++ name) = .ok (.field name) := by
  have hne : some name ≠ some anyField := fun he => hn (Option.some.inj he)
  simp only [Scope.target, dropLead?_dot, hne, if_false, field_qualified hd]
  rfl

theorem ofOperator_equal (mode : Mode) (v : String) :
    isNegated (equalOperator mode) = false ∧
      Predicate.ofOperator (equalOperator mode) (baseOperator (equalOperator mode)) v
        = .ok (.equal v) := by
  have hbase : baseOperator (equalOperator mode) = equalOperator mode := by
    cases mode <;> decide
  refine ⟨by cases mode <;> decide, ?_⟩
  rw [hbase]
  cases mode <;> simp [Predicate.ofOperator, equalOperator]

/-- The filter of the criterion of a cell. -/
theorem compile_cellCriteria (mode : Mode) {name : String}
    (hd : (scope.dataset.fieldType? name).isSome) (hn : name ≠ anyField) (text : Option String) :
    ∃ f, Filter.compile scope (cellCriteria mode scope.datatype name text) = .ok f ∧
      f.freeTexts = [] ∧ ∀ record : Record, Record.NoNulls record →
        f.accepts record = answers (Column.cell record (.field name)) text := by
  have htarget := target_field hd hn
  cases text with
  | some v =>
    obtain ⟨hneg, hpred⟩ := ofOperator_equal mode v
    refine ⟨.leaf ⟨.field name, .equal v, false⟩, ?_, ?_, fun record _ => ?_⟩
    · simp only [cellCriteria, Criteria.test, Filter.compile, LeafFilter.compile, htarget, hneg,
        hpred]
      rfl
    · simp [Filter.freeTexts, LeafFilter.freeText?]
    · simp only [Filter.accepts, LeafFilter.accepts, LeafFilter.hits, Column.cell, answers]
      cases find? name record with
      | none => simp [valueEquals]
      | some value => simp [Predicate.test]
  | none =>
    have hneg : isNegated "!=" = true := by decide
    refine ⟨.leaf ⟨.field name, .present, true⟩, ?_, ?_, fun record hr => ?_⟩
    · simp only [cellCriteria, Criteria.absent, Filter.compile, LeafFilter.compile, htarget, hneg]
      rfl
    · simp [Filter.freeTexts, LeafFilter.freeText?]
    · simp only [Filter.accepts, LeafFilter.accepts, LeafFilter.hits, Column.cell, answers]
      cases hf : find? name record with
      | none => rfl
      | some value => simp [Predicate.test, find?_not_null hr hf]

/-- The filter of a query narrowed by the criteria of cells. -/
theorem compile_narrowed (mode : Mode) {cells : List (String × Option String)}
    (h : ∀ cell ∈ cells, (scope.dataset.fieldType? cell.1).isSome ∧ cell.1 ≠ anyField)
    {c : Criteria} {f : Filter} (hf : Filter.compile scope c = .ok f) :
    ∃ g, Filter.compile scope (narrowed mode scope.datatype c cells) = .ok g ∧
      g.freeTexts = f.freeTexts ∧ ∀ record : Record, Record.NoNulls record →
        g.accepts record = (f.accepts record &&
          cells.all fun cell => answers (Column.cell record (.field cell.1)) cell.2) := by
  induction cells generalizing c f with
  | nil => exact ⟨f, hf, rfl, fun record _ => by simp⟩
  | cons cell cells ih =>
    obtain ⟨hd, hn⟩ := h cell List.mem_cons_self
    obtain ⟨fc, hfc, htc, hac⟩ := compile_cellCriteria mode hd hn cell.2
    obtain ⟨fand, hfand, haand, htand⟩ := Filter.compile_and hf hfc
    obtain ⟨g, hg, htg, hag⟩ := ih (fun d hm => h d (List.mem_cons_of_mem cell hm)) hfand
    refine ⟨g, hg, ?_, fun record hr => ?_⟩
    · rw [htg, htand, htc, List.append_nil]
    · rw [hag record hr, haand, hac record hr, List.all_cons, Bool.and_assoc]

end EventSearch.Search
