/-
# `EventSearch.Proofs.DatasetHistory` — what a dataset keeps of the calls that made it

A dataset is made from the empty one by two calls in any order: a field is declared, or the cells of
a record are pushed.  What it then holds is told by that history alone (`Represents`):

    fields     the names told, without repetitions, in the order in which they were first told
    types      the last type declared for the name, else the type of the first cell pushed for it
    records    one for each push, with the last cell of each name that is not empty

One call keeps this (`Represents.apply`), so every history has it (`represents_made`), and so has
every file that loads: its dataset is made by pushing the cells of its rows (`Pushed`).
-/
import EventSearch.Proofs.CellFilters
import EventSearch.Proofs.KeyedLists
import EventSearch.Provider.Loading

namespace EventSearch.Data

/-! ## Histories -/

/-- A call that changes a dataset. -/
inductive Change where
  | field (name : String) (type : FieldType)
  | push (cells : List (String × Value))

namespace Change

def apply (d : Dataset) : Change → Dataset
  | field name type => d.withField name type
  | push cells => d.push cells

/-- The names that a call tells, in order. -/
def names : Change → List String
  | field name _ => [name]
  | push cells => cells.map (·.1)

/-- The types that a call declares. -/
def types : Change → List (String × FieldType)
  | field name type => [(name, type)]
  | push _ => []

/-- The cells that a call pushes, if it pushes a record. -/
def pushed? : Change → Option (List (String × Value))
  | field _ _ => none
  | push cells => some cells

end Change

/-- The cells of every record pushed in a history. -/
def pushes (history : List Change) : List (List (String × Value)) :=
  history.filterMap Change.pushed?

theorem pushes_concat (history : List Change) (change : Change) :
    pushes (history ++ [change]) = pushes history ++ change.pushed?.toList := by
  rw [pushes, List.filterMap_append]
  cases h : change.pushed? <;> simp [pushes, h]

/-- The dataset that a history makes. -/
def Dataset.made (history : List Change) : Dataset := history.foldl Change.apply .empty

theorem Dataset.made_concat (history : List Change) (change : Change) :
    made (history ++ [change]) = change.apply (made history) :=
  List.foldl_concat ..

/-- Datasets are built by declaring and pushing exactly when a history makes them. -/
theorem Dataset.built_iff {d : Dataset} : d.Built ↔ ∃ history, d = made history := by
  constructor
  · intro h
    induction h with
    | empty => exact ⟨[], rfl⟩
    | withField name type _ ih =>
      obtain ⟨history, rfl⟩ := ih
      exact ⟨history ++ [.field name type], by rw [made_concat]; rfl⟩
    | push cells _ ih =>
      obtain ⟨history, rfl⟩ := ih
      exact ⟨history ++ [.push cells], by rw [made_concat]; rfl⟩
  · rintro ⟨history, rfl⟩
    induction history using List.reverseRecOn with
    | nil => exact .empty
    | append_singleton history change ih =>
      rw [made_concat]
      cases change with
      | field name type => exact .withField name type ih
      | push cells => exact .push cells ih

/-! ## What a dataset holds of its history -/

/-- A record that holds, for each name, the last of some cells that is not empty. -/
structure Record.Holds (cells : List (String × Value)) (record : Record) : Prop where
  keys : (record.map (·.1)).Nodup
  value : ∀ name, find? name record
    = (valuesOf name (cells.filter fun c => !c.2.isNull)).getLast?

/-- A dataset that holds what a history told. -/
structure Represents (history : List Change) (d : Dataset) : Prop where
  names : d.fields.map (·.1) = (history.flatMap Change.names).eraseDups
  distinct : (d.fields.map (·.1)).Nodup
  types : ∀ name, d.fieldType? name = (valuesOf name (history.flatMap Change.types)).getLast?.or
    ((valuesOf name (pushes history).flatten).head?.map .ofValue)
  records : List.Forall₂ Record.Holds (pushes history) d.records
  declared : ∀ record ∈ d.records, ∀ cell ∈ record, cell.1 ∈ d.fields.map (·.1)
  noNulls : d.NoNulls

/-! ### Records -/

namespace Record.Holds

variable {cells : List (String × Value)} {record : Record}

/-- A cell that is held is one of those pushed, and not empty. -/
theorem mem (h : Holds cells record) {cell : String × Value} (hc : cell ∈ record) :
    cell ∈ cells ∧ cell.2.isNull = false := by
  have hlast : (valuesOf cell.1 (cells.filter fun c => !c.2.isNull)).getLast? = some cell.2 := by
    rw [← h.value, find?_eq_head?, valuesOf_of_mem h.keys hc]
    rfl
  have hmem := List.mem_filter.1 (mem_valuesOf.1 (List.mem_of_getLast? hlast))
  exact ⟨hmem.1, by simpa using hmem.2⟩

end Record.Holds

/-- The cells of a record are set one after the other, the empty ones left out. -/
theorem foldl_setCell (cells : List (String × Value)) (record : Record) :
    cells.foldl (fun record c => Dataset.setCell record c.1 c.2) record
      = setAll (cells.filter fun c => !c.2.isNull) record := by
  induction cells generalizing record with
  | nil => rfl
  | cons c cells ih =>
    rw [List.foldl_cons, ih, Dataset.setCell, List.filter_cons]
    cases c.2.isNull <;> rfl

theorem holds_pushed (cells : List (String × Value)) :
    Record.Holds cells (cells.foldl (fun record c => Dataset.setCell record c.1 c.2) []) := by
  rw [foldl_setCell]
  refine ⟨nodup_setAll.2 List.nodup_nil, fun name => ?_⟩
  rw [find?_setAll]
  exact Option.or_none

/-! ### Fields -/

section Fields

variable {fields : List (String × FieldType)}

theorem keys_declare (name : String) (value : Value) :
    (Dataset.declare fields name value).map (·.1)
      = if name ∈ fields.map (·.1) then fields.map (·.1) else fields.map (·.1) ++ [name] := by
  rw [Dataset.declare]
  cases h : find? name fields with
  | some type => rw [if_pos (find?_isSome_iff.1 (by rw [h]; rfl))]
  | none =>
    have hnew : name ∉ fields.map (·.1) := fun hmem => by
      rw [← find?_isSome_iff, h] at hmem
      cases hmem
    rw [if_neg hnew, List.map_append]
    rfl

theorem find?_declare (k name : String) (value : Value) :
    find? k (Dataset.declare fields name value)
      = (find? k fields).or (if name = k then some (.ofValue value) else none) := by
  rw [Dataset.declare]
  cases h : find? name fields with
  | some type =>
    by_cases hk : name = k
    · rw [← hk, h]
      rfl
    · rw [if_neg hk, Option.or_none]
  | none =>
    rw [find?_eq_head?, valuesOf_append, List.head?_append, ← find?_eq_head?, valuesOf_cons]
    split <;> rfl

/-- Names of pushed cells are declared behind the names that were told before. -/
theorem keys_declared {told : List String} (h : fields.map (·.1) = told.eraseDups)
    (cells : List (String × Value)) :
    (cells.foldl (fun fields c => Dataset.declare fields c.1 c.2) fields).map (·.1)
      = (told ++ cells.map (·.1)).eraseDups := by
  induction cells generalizing fields told with
  | nil => simpa using h
  | cons c cells ih =>
    have hstep : (Dataset.declare fields c.1 c.2).map (·.1) = (told ++ [c.1]).eraseDups := by
      rw [keys_declare, h, eraseDups_concat]
      simp only [List.mem_eraseDups]
    simpa using ih hstep

/-- The first cell of a name that has no type yet tells it. -/
theorem find?_declared (k : String) (cells : List (String × Value)) :
    find? k (cells.foldl (fun fields c => Dataset.declare fields c.1 c.2) fields)
      = (find? k fields).or ((valuesOf k cells).head?.map .ofValue) := by
  induction cells generalizing fields with
  | nil => exact Option.or_none.symm
  | cons c cells ih =>
    rw [List.foldl_cons, ih, find?_declare, valuesOf_cons, Option.or_assoc]
    split <;> rfl

end Fields

/-! ### Histories -/

theorem exists_of_forall₂ {α β : Type} {R : α → β → Prop} {xs : List α} {ys : List β}
    (h : List.Forall₂ R xs ys) {y : β} (hy : y ∈ ys) : ∃ x ∈ xs, R x y := by
  induction h with
  | nil => cases hy
  | cons hR _ ih =>
    rcases List.mem_cons.1 hy with rfl | hy
    · exact ⟨_, List.mem_cons_self, hR⟩
    · obtain ⟨x, hx, hR⟩ := ih hy
      exact ⟨x, List.mem_cons_of_mem _ hx, hR⟩

namespace Represents

variable {history : List Change} {d : Dataset}

/-- Names, types and records tell the rest. -/
theorem of_records (names : d.fields.map (·.1) = (history.flatMap Change.names).eraseDups)
    (types : ∀ name, d.fieldType? name
      = (valuesOf name (history.flatMap Change.types)).getLast?.or
        ((valuesOf name (pushes history).flatten).head?.map .ofValue))
    (records : List.Forall₂ Record.Holds (pushes history) d.records) : Represents history d := by
  -- a record is one of those pushed, so its names are among the names told
  have hpushed : ∀ record ∈ d.records, ∃ cells, .push cells ∈ history ∧
      record.Holds cells := by
    intro record hr
    obtain ⟨cells, hcells, hholds⟩ := exists_of_forall₂ records hr
    obtain ⟨change, hchange, hsome⟩ := List.mem_filterMap.1 hcells
    cases change with
    | field name type => cases hsome
    | push cells' =>
      cases hsome
      exact ⟨cells, hchange, hholds⟩
  refine ⟨names, names ▸ nodup_eraseDups _, types, records, fun record hr cell hc => ?_,
    fun record hr cell hc => ?_⟩
  · obtain ⟨cells, hchange, hholds⟩ := hpushed record hr
    rw [names, List.mem_eraseDups]
    exact List.mem_flatMap.2 ⟨_, hchange, List.mem_map_of_mem (hholds.mem hc).1⟩
  · obtain ⟨cells, -, hholds⟩ := hpushed record hr
    exact (hholds.mem hc).2

theorem withField (h : Represents history d) (name : String) (type : FieldType) :
    Represents (history ++ [.field name type]) (d.withField name type) := by
  refine of_records ?_ (fun k => ?_) ?_
  · rw [Dataset.withField, keys_upsert, h.names, List.flatMap_append]
    simp [Change.names, eraseDups_concat]
  · have htype := h.types k
    rw [Dataset.fieldType?] at htype
    rw [Dataset.fieldType?, Dataset.withField, find?_upsert, htype, pushes_concat,
      List.flatMap_append, List.flatMap_singleton, valuesOf_append, List.getLast?_append]
    by_cases hk : k = name
    · subst hk
      simp [Change.types, valuesOf]
    · simp [Change.types, Change.pushed?, valuesOf, hk, Ne.symm hk]
  · rw [pushes_concat]
    simpa [Change.pushed?, Dataset.withField] using h.records

theorem push (h : Represents history d) (cells : List (String × Value)) :
    Represents (history ++ [.push cells]) (d.push cells) := by
  refine of_records ?_ (fun k => ?_) ?_
  · rw [Dataset.push, keys_declared h.names, List.flatMap_append]
    simp [Change.names]
  · have htype := h.types k
    rw [Dataset.fieldType?] at htype
    rw [Dataset.fieldType?, Dataset.push, find?_declared, htype, pushes_concat,
      List.flatMap_append, Option.or_assoc, ← Option.map_or, ← List.head?_append,
      ← valuesOf_append]
    simp [Change.types, Change.pushed?]
  · rw [pushes_concat]
    exact List.rel_append h.records (.cons (holds_pushed cells) .nil)

/-- A call keeps what the dataset holds of its history. -/
theorem apply (h : Represents history d) (change : Change) :
    Represents (history ++ [change]) (change.apply d) := by
  cases change with
  | field name type => exact h.withField name type
  | push cells => exact h.push cells

end Represents

theorem represents_made (history : List Change) : Represents history (.made history) := by
  induction history using List.reverseRecOn with
  | nil => exact .of_records rfl (fun _ => rfl) .nil
  | append_singleton history change ih =>
    rw [Dataset.made_concat]
    exact ih.apply change

/-- The names of declared fields are all different. -/
theorem Dataset.Built.distinct {d : Dataset} (h : d.Built) : (d.fields.map (·.1)).Nodup := by
  obtain ⟨history, rfl⟩ := Dataset.built_iff.1 h
  exact (represents_made history).distinct

theorem Dataset.Built.fieldType?_of_mem {d : Dataset} (h : d.Built) {f : String × FieldType}
    (hf : f ∈ d.fields) : d.fieldType? f.1 = some f.2 := by
  rw [fieldType?, find?_eq_head?, valuesOf_of_mem h.distinct hf]
  rfl

end EventSearch.Data

namespace EventSearch.Provider

open EventSearch.Text EventSearch.Data EventSearch.Format

/-! ## Files -/

/-- A history that declares no field. -/
def PushesOnly (history : List Change) : Prop := ∀ change ∈ history, ∃ cells, change = .push cells

/-- A dataset made by pushing records only. -/
def Pushed (d : Dataset) : Prop := ∃ history, PushesOnly history ∧ d = .made history

namespace Pushed

variable {d d' : Dataset}

theorem empty : Pushed .empty := ⟨[], (fun _ h => by cases h), rfl⟩

theorem push (h : Pushed d) (cells : List (String × Value)) : Pushed (d.push cells) := by
  obtain ⟨history, honly, rfl⟩ := h
  refine ⟨history ++ [.push cells], fun change hc => ?_, ?_⟩
  · rcases List.mem_append.1 hc with hc | hc
    · exact honly change hc
    · exact ⟨cells, List.mem_singleton.1 hc⟩
  · rw [Dataset.made_concat]
    rfl

theorem foldl (h : Pushed d) {α : Type} (cells : α → List (String × Value)) (xs : List α) :
    Pushed (xs.foldl (fun d x => d.push (cells x)) d) := by
  induction xs generalizing d with
  | nil => exact h
  | cons x xs ih => exact ih (h.push (cells x))

theorem pushAll (h : Pushed d) {items : List Json} (hd : Provider.pushAll d items = .ok d') :
    Pushed d' := by
  induction items generalizing d with
  | nil =>
    cases hd
    exact h
  | cons item items ih =>
    rw [Provider.pushAll] at hd
    split at hd
    · cases hd
    · next cells _ => exact ih (h.push cells) hd

theorem pushLines (h : Pushed d) {lines : List (List Char)}
    (hd : Provider.pushLines d lines = .ok d') : Pushed d' := by
  induction lines generalizing d with
  | nil =>
    cases hd
    exact h
  | cons line lines ih =>
    rw [Provider.pushLines] at hd
    split at hd
    · cases hd
    · split at hd
      · cases hd
      · next cells _ => exact ih (h.push cells) hd

end Pushed

theorem pushed_loadJson {content : String} {d : Dataset} (h : loadJson content = .ok d) :
    Pushed d := by
  rw [loadJson] at h
  split at h
  · split at h
    · exact Pushed.empty.pushAll h
    · cases h
  · exact Pushed.empty.pushLines h

theorem pushed_loadCsv {bytes : List UInt8} {d : Dataset} (h : loadCsv bytes = .ok d) :
    Pushed d := by
  rw [loadCsv] at h
  split at h
  · cases h
  · cases h
    exact .empty
  · cases h
    exact Pushed.empty.foldl _ _

theorem pushed_loadFile {path : String} {bytes : List UInt8} {d : Dataset}
    (h : loadFile path bytes = .ok d) : Pushed d := by
  rw [loadFile] at h
  split at h
  · exact pushed_loadCsv h
  · split at h
    · cases h
    · exact pushed_loadJson h

/-- A dataset holds what the calls that made it told, and so does every dataset that is loaded: it
is made by pushing rows. -/
theorem datasets_represent :
    (∀ history, Represents history (.made history)) ∧
    (∀ content d, loadJson content = .ok d →
      ∃ history, PushesOnly history ∧ d = .made history ∧ Represents history d) ∧
    ∀ path bytes d, loadFile path bytes = .ok d →
      ∃ history, PushesOnly history ∧ d = .made history ∧ Represents history d := by
  refine ⟨represents_made, fun content d h => ?_, fun path bytes d h => ?_⟩
  · obtain ⟨history, honly, rfl⟩ := pushed_loadJson h
    exact ⟨history, honly, rfl, represents_made history⟩
  · obtain ⟨history, honly, rfl⟩ := pushed_loadFile h
    exact ⟨history, honly, rfl, represents_made history⟩

/-- Two objects on lines of their own, and a table whose second row is longer than its header. -/
theorem datasets_represent_files :
    (∃ d, loadJson "\x7b\"a\": null, \"b\": \x7b\"c\": 1\x7d\x7d\n\x7b\"a\": 2\x7d" = .ok d ∧
      ∃ history, PushesOnly history ∧ d = .made history ∧ Represents history d) ∧
    ∃ d, loadFile "rows.CSV" "a, b\n1,\n2,x,y\n".toUTF8.toList = .ok d ∧
      ∃ history, PushesOnly history ∧ d = .made history ∧ Represents history d := by
  have hlines : loadJson "\x7b\"a\": null, \"b\": \x7b\"c\": 1\x7d\x7d\n\x7b\"a\": 2\x7d" = .ok (.made
      [.push [("a", .null), ("b.c", .integer 1)], .push [("a", .integer 2)]]) := by
    decide +kernel
  have htable : loadFile "rows.CSV" "a, b\n1,\n2,x,y\n".toUTF8.toList = .ok (.made
      [.push [("a", .integer 1), ("b", .null)],
        .push [("a", .integer 2), ("b", .text "x")]]) := by
    decide +kernel
  exact ⟨⟨_, hlines, datasets_represent.2.1 _ _ hlines⟩,
    ⟨_, htable, datasets_represent.2.2 _ _ _ htable⟩⟩

end EventSearch.Provider
