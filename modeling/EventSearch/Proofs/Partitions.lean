/-
# `EventSearch.Proofs.Partitions` — counted rows share out the found records

A search that counts groups returns rows with two kinds of cells: the count, and in the other
columns the key.  `Partition` says what such rows are to some records: their keys differ, each
record has the key of exactly one row, each row counts the records with its key, at least one, and
the counts add up to the number of records.  Keys are compared cell by cell (`alikeRows`), not by
their texts.

The rows that are made from the groups are a partition (`partition_groupRows`), wherever the count
stands among the columns; sorting keeps it (`Partition.perm`).  Marks are put on the rows at the
end, in the cells of keys too, so what a search with marks shows has other keys than its records
(`execute_partition`).  The example of it marks a digit: letters bring in the table of cases, and a
character that is not in it is folded to itself (`folded_single`).
-/
import Mathlib.Algebra.BigOperators.Ring.Finset
import Mathlib.Data.List.SplitBy
import EventSearch.Proofs.GroupCounts
import EventSearch.Proofs.KeyTexts
import EventSearch.Proofs.PlannedSearch

namespace EventSearch.Provider

open EventSearch.Data

/-! ## Counts and keys in a row -/

/-- The cells of a row in the columns other than counts. -/
def keyCells (columns : List Column) (row : Row) : Row :=
  ((columns.zip row).filter fun p => !p.1.isCount).map (·.2)

/-- The cells of a row in the columns of counts. -/
def countCells (columns : List Column) (row : Row) : Row :=
  ((columns.zip row).filter fun p => p.1.isCount).map (·.2)

/-- The number of cells of a key. -/
def keyWidth (columns : List Column) : Nat := (columns.filter fun c => !c.isCount).length

theorem length_keyOf (columns : List Column) (record : Record) :
    (keyOf columns record).length = keyWidth columns := by
  rw [keyOf, List.length_map, keyWidth]

section Cons

variable {c : Column} {columns : List Column}

theorem groupRow_key (hc : c.isCount = false) (count : Nat) (cell : Value) (key : Row) :
    groupRow count (c :: columns) (cell :: key) = cell :: groupRow count columns key := by
  cases c with
  | count => cases hc
  | field name => rfl
  | component name zone unit => rfl

theorem keyCells_count (cell : Value) (row : Row) :
    keyCells (.count :: columns) (cell :: row) = keyCells columns row := rfl

theorem keyCells_key (hc : c.isCount = false) (cell : Value) (row : Row) :
    keyCells (c :: columns) (cell :: row) = cell :: keyCells columns row := by
  rw [keyCells, List.zip_cons_cons, List.filter_cons_of_pos (by simp [hc])]
  rfl

theorem countCells_count (cell : Value) (row : Row) :
    countCells (.count :: columns) (cell :: row) = cell :: countCells columns row := rfl

theorem countCells_key (hc : c.isCount = false) (cell : Value) (row : Row) :
    countCells (c :: columns) (cell :: row) = countCells columns row := by
  rw [countCells, List.zip_cons_cons, List.filter_cons_of_neg (by simp [hc])]
  rfl

theorem countCells_map (columns : List Column) (f : Value → Value) (row : Row) :
    countCells columns (row.map f) = (countCells columns row).map f := by
  rw [countCells, List.zip_map_right, List.filter_map, List.map_map, countCells, List.map_map]
  rfl

theorem keyWidth_key (hc : c.isCount = false) : keyWidth (c :: columns) = keyWidth columns + 1 := by
  rw [keyWidth, List.filter_cons_of_pos (by simp [hc])]
  rfl

end Cons

/-- What a row of groups is made of. -/
structure MadeOf (columns : List Column) (count : Nat) (key row : Row) : Prop where
  width : row.length = columns.length
  key : keyCells columns row = key
  counts : countCells columns row = List.replicate (columns.countP Column.isCount) (.integer count)

/-- The row of a group has the count in each column of counts and the key in the others. -/
theorem madeOf_groupRow (count : Nat) {columns : List Column} {key : Row}
    (h : key.length = keyWidth columns) :
    MadeOf columns count key (groupRow count columns key) := by
  induction columns generalizing key with
  | nil =>
    obtain rfl := List.length_eq_zero_iff.1 h
    exact ⟨rfl, rfl, rfl⟩
  | cons c columns ih =>
    cases hc : c.isCount with
    | true =>
      obtain rfl : c = .count := by cases c <;> first | rfl | cases hc
      obtain ⟨hwidth, hkey, hcounts⟩ := ih h
      rw [groupRow]
      refine ⟨congrArg (· + 1) hwidth, ?_, ?_⟩
      · rw [keyCells_count, hkey]
      · rw [countCells_count, hcounts, List.countP_cons_of_pos rfl, List.replicate_succ]
    | false =>
      rw [keyWidth_key hc] at h
      obtain ⟨cell, key, rfl⟩ := List.exists_of_length_succ key h
      obtain ⟨hwidth, hkey, hcounts⟩ := ih (Nat.succ.inj h)
      rw [groupRow_key hc]
      refine ⟨congrArg (· + 1) hwidth, ?_, ?_⟩
      · rw [keyCells_key hc, hkey]
      · rw [countCells_key hc, hcounts, List.countP_cons_of_neg (by simp [hc])]

/-! ## Partitions -/

/-- How many of some records have the key of a row. -/
def sharedBy (columns : List Column) (records : List Record) (row : Row) : Nat :=
  records.countP fun record => alikeRows (keyOf columns record) (keyCells columns row)

/-- Rows that share out some records by their keys and count them. -/
structure Partition (columns : List Column) (records : List Record) (rows : List Row) : Prop where
  width : ∀ row ∈ rows, row.length = columns.length
  distinct : rows.Pairwise fun row row' =>
    alikeRows (keyCells columns row) (keyCells columns row') = false
  placed : ∀ record ∈ records,
    rows.countP (fun row => alikeRows (keyOf columns record) (keyCells columns row)) = 1
  counted : ∀ row ∈ rows, countCells columns row = [.integer (sharedBy columns records row)] ∧
    1 ≤ sharedBy columns records row
  sum : ((rows.flatMap (countCells columns)).filterMap Value.asInteger?).sum = records.length

theorem alikeRows_eq_decide (as bs : Row) :
    alikeRows as bs = decide (keyText as = keyText bs) := by
  rw [Bool.eq_iff_iff, decide_eq_true_iff, keyText_eq_iff]

theorem alikeRows_comm (as bs : Row) : alikeRows as bs = alikeRows bs as := by
  rw [Bool.eq_iff_iff, ← keyText_eq_iff, ← keyText_eq_iff, eq_comm]

section Rows

variable {columns : List Column} {records : List Record} {rows rows' : List Row}

/-- The order of the rows does not matter. -/
theorem Partition.perm (h : Partition columns records rows) (hp : rows'.Perm rows) :
    Partition columns records rows' where
  width := fun row hrow => h.width row (hp.mem_iff.1 hrow)
  distinct := hp.symm.pairwise h.distinct fun {row row'} hne => by rwa [alikeRows_comm]
  placed := fun record hrecord => by rw [hp.countP_eq, h.placed record hrecord]
  counted := fun row hrow => h.counted row (hp.mem_iff.1 hrow)
  sum := by rw [((hp.flatMap_right _).filterMap _).sum_eq, h.sum]

/-- One group has a key that some key of the tally prints as. -/
theorem Tally.countP_eq_one {keys : List Row} {groups : List (Row × Nat)} (h : Tally keys groups)
    {key : Row} (hkey : key ∈ keys) : groups.countP (fun g => keyText g.1 = keyText key) = 1 := by
  obtain ⟨g, hg, ht⟩ := h.complete key hkey
  obtain ⟨before, after, rfl⟩ := List.append_of_mem hg
  obtain ⟨k, n⟩ := g
  have hothers := h.others_ne ht
  have hnone {gs : List (Row × Nat)} (hsub : gs ⊆ before ++ after) :
      gs.countP (fun g => keyText g.1 = keyText key) = 0 :=
    List.countP_eq_zero.2 fun g hmem => by simpa using hothers g (hsub hmem)
  rw [List.countP_append, List.countP_cons_of_pos (by simpa using ht),
    hnone (List.subset_append_left _ _), hnone (List.subset_append_right _ _)]

section Group

variable {g : Row × Nat} (hg : g ∈ groupsOf columns records)

include hg

theorem madeOf_group : MadeOf columns g.2 g.1 (groupRow g.2 columns g.1) := by
  obtain ⟨record, -, hkey⟩ := List.mem_map.1 ((tally_groupsOf columns records).counts g hg).1
  exact madeOf_groupRow g.2 (by rw [← hkey, length_keyOf])

/-- The records with the key of the row of a group are those that it counts. -/
theorem sharedBy_group : sharedBy columns records (groupRow g.2 columns g.1) = g.2 := by
  rw [sharedBy, (madeOf_group hg).key, ((tally_groupsOf columns records).counts g hg).2, countKey,
    ← List.countP_eq_length_filter, List.countP_map]
  simp only [alikeRows_eq_decide]
  rfl

theorem one_le_group : 1 ≤ g.2 := by
  obtain ⟨hkey, hcount⟩ := (tally_groupsOf columns records).counts g hg
  rw [hcount, countKey]
  exact List.length_pos_of_mem (List.mem_filter.2 ⟨hkey, decide_eq_true rfl⟩)

theorem countCells_group (hone : columns.countP Column.isCount = 1) :
    countCells columns (groupRow g.2 columns g.1) = [.integer g.2] := by
  rw [(madeOf_group hg).counts, hone]
  rfl

end Group

/-- The counts of the rows of all groups. -/
theorem counts_groupRows (hone : columns.countP Column.isCount = 1) (records : List Record) :
    (groupRows columns records).flatMap (countCells columns)
      = (groupsOf columns records).map fun g => .integer g.2 := by
  rw [groupRows, List.flatMap_map, List.map_eq_flatMap]
  exact List.flatMap_congr fun g hg => countCells_group hg hone

/-- The rows of the groups of some records share them out. -/
theorem partition_groupRows (hone : columns.countP Column.isCount = 1) (records : List Record) :
    Partition columns records (groupRows columns records) := by
  have htally := tally_groupsOf columns records
  refine ⟨fun row hrow => ?_, ?_, fun record hrecord => ?_, fun row hrow => ?_, ?_⟩
  · obtain ⟨g, hg, rfl⟩ := List.mem_map.1 hrow
    exact (madeOf_group hg).width
  · refine List.pairwise_map.2 (htally.distinct.imp_of_mem fun {g g'} hg hg' hne => ?_)
    rw [(madeOf_group hg).key, (madeOf_group hg').key, alikeRows_eq_decide]
    exact decide_eq_false hne
  · rw [groupRows, List.countP_map, ← htally.countP_eq_one (List.mem_map_of_mem hrecord)]
    refine List.countP_congr fun g hg => ?_
    rw [Function.comp_apply, (madeOf_group hg).key, alikeRows_eq_decide, decide_eq_true_iff,
      decide_eq_true_iff]
    exact eq_comm
  · obtain ⟨g, hg, rfl⟩ := List.mem_map.1 hrow
    rw [sharedBy_group hg]
    exact ⟨countCells_group hg hone, one_le_group hg⟩
  · rw [counts_groupRows hone, List.filterMap_map, ← sum_groupsOf columns records,
      Nat.cast_list_sum, List.map_map]
    exact congrArg List.sum (congrFun List.filterMap_eq_map _)

end Rows

/-! ## Searches -/

theorem isCount_ofSource {scope : Scope} {source : Source} {c : Column}
    (h : Column.ofSource scope source = .ok c) : c.isCount = decide (source = .count) := by
  cases source with
  | count =>
    obtain rfl := Except.ok.inj h
    rfl
  | field path | component path zone unit =>
    rw [Column.ofSource] at h
    cases hf : scope.field path with
    | error e => simp [hf, Except.map] at h
    | ok name =>
      rw [hf] at h
      obtain rfl := Except.ok.inj h
      rfl

/-- Each path of counts is a column of counts. -/
theorem countP_ofRetrievals {scope : Scope} {retrievals : List Retrieval} {columns : List Column}
    (h : Column.ofRetrievals scope retrievals = .ok columns) :
    columns.countP Column.isCount = retrievals.countP fun r => r.source = .count := by
  induction retrievals generalizing columns with
  | nil =>
    obtain rfl := Except.ok.inj h
    rfl
  | cons r rs ih =>
    rw [Column.ofRetrievals] at h
    cases hc : Column.ofSource scope r.source with
    | error e => simp [hc] at h
    | ok c =>
      cases hcs : Column.ofRetrievals scope rs with
      | error e => simp [hc, hcs, Except.map] at h
      | ok cs =>
        obtain rfl : c :: cs = columns := by simpa [hc, hcs, Except.map] using h
        rw [List.countP_cons, List.countP_cons, ih hcs, isCount_ofSource hc]

end EventSearch.Provider

namespace EventSearch.Pattern

open EventSearch.Text

/-! ## Terms without cases -/

/-- Folding changes no code point to this one and this one to none. -/
def Caseless (n : Nat) : Prop :=
  ∀ r ∈ foldRuns, ∀ k ∈ runPoints r, k ≠ n ∧ ((k : Int) + r.shift).toNat ≠ n

/-- A code point that folding neither moves nor is moved to is in no group of equal ones. -/
theorem Caseless.not_mem {n : Nat} (h : Caseless n) {group : List Nat} (hg : group ∈ foldGroups) :
    n ∉ group := by
  obtain ⟨pairs, hpairs, rfl⟩ := List.mem_map.1 hg
  have hne : ∀ p ∈ pairs, p.1 ≠ n ∧ p.2 ≠ n := by
    intro p hp
    have hmem : p ∈ foldPairs := by
      rw [← List.flatten_splitBy (fun p q => decide (p.1 = q.1)) foldPairs]
      exact List.mem_flatten.2 ⟨pairs, hpairs, hp⟩
    obtain ⟨r, hr, hp⟩ := List.mem_flatMap.1 (List.mem_mergeSort.1 hmem)
    obtain ⟨k, hk, rfl⟩ := List.mem_map.1 hp
    exact (h r hr k hk).symm
  intro hn
  rcases List.mem_append.1 hn with hhead | hsources
  · cases pairs with
    | nil => cases hhead
    | cons p pairs => exact (hne p List.mem_cons_self).1 (List.mem_singleton.1 hhead).symm
  · obtain ⟨p, hp, rfl⟩ := List.mem_map.1 hsources
    exact (hne p hp).2 rfl

/-- A character without cases is folded to itself. -/
theorem folded_single {c : Char} (h : Caseless c.toNat) : folded (.single c) = .single c := by
  have hnone : foldGroups.filter (fun group => group.any (CharSet.single c).hasCode) = [] := by
    refine List.filter_eq_nil_iff.2 fun group hg hany => ?_
    obtain ⟨n, hn, hc⟩ := List.any_eq_true.1 hany
    have hspan : c.toNat ≤ n ∧ n ≤ c.toNat := by
      simpa [CharSet.hasCode, CharSet.single, CharSet.range, Span.has] using hc
    exact h.not_mem hg (Nat.le_antisymm hspan.2 hspan.1 ▸ hn)
  simp only [folded, hnone, List.flatten_nil, List.map_nil, CharSet.union, CharSet.ofSpans,
    List.mergeSort_nil, Span.joined, List.merge_right]
  rfl

theorem literal?_caseless {c : Char} (h : Caseless c.toNat) :
    (Flags.initial true).literal? c = some (.char c) := by
  have hfold : (Flags.initial true).foldSet (.single c) = .single c := folded_single h
  simp only [Flags.literal?, hfold]
  rfl

end EventSearch.Pattern

namespace EventSearch.Search

open EventSearch.Pattern EventSearch.Data EventSearch.Query EventSearch.Provider

/-- A row as it is shown: with the matches of some terms marked in its texts, if marks are asked
for. -/
def shownRow (highlight : Option Highlight) (terms : List String) (row : Row) : Row :=
  highlight.elim row fun h => row.map (h.markCell terms)

theorem markRows_eq {highlight : Option Highlight} {terms : List String} {rows shown : List Row}
    (h : Store.markRows highlight terms rows = .ok shown) :
    shown = rows.map (shownRow highlight terms) := by
  cases highlight with
  | none => exact (Except.ok.inj h).symm.trans (List.map_id rows).symm
  | some hl =>
    rw [Store.markRows] at h
    split at h
    · exact (Except.ok.inj h).symm
    · cases h

/-- Counts are shown as they are. -/
theorem countCells_shownRow {columns : List Column} {records : List Record} {rows : List Row}
    (h : Partition columns records rows) (highlight : Option Highlight) (terms : List String) :
    ∀ row ∈ rows, countCells columns (shownRow highlight terms row) = countCells columns row := by
  intro row hrow
  cases highlight with
  | none => rfl
  | some hl =>
    rw [shownRow, Option.elim_some, countCells_map, (h.counted row hrow).1]
    rfl

/-- What an answered request went through. -/
theorem execute_parts {store : Store} {request : Request} {result : ResultSet}
    (h : store.execute request = .ok result) :
    ∃ d f columns shown, store.dataset request.datatype = .ok d ∧
      Filter.compile ⟨request.datatype, d⟩ request.criteria = .ok f ∧
      Column.ofRetrievals ⟨request.datatype, d⟩ request.retrievals = .ok columns ∧
      Store.markRows request.highlight f.freeTexts (Store.page request.offset request.limit
        (Store.allRows request f columns d.records)) = .ok shown ∧
      result = .ofRows shown (Store.allRows request f columns d.records).length := by
  simp only [Store.execute, bind, Except.bind] at h
  split at h
  · cases h
  · next d hd =>
    split at h
    · cases h
    · next f hf =>
      split at h
      · cases h
      · next columns hcolumns =>
        split at h
        · cases h
        · next shown hshown =>
          exact ⟨d, f, columns, shown, hd, hf, hcolumns, hshown, (Except.ok.inj h).symm⟩

/-- An answered request for counted groups that is not paged shows the rows of a partition of the
found records, in sorted order and with the marks it asks for; the total is their number. -/
theorem execute_partition {store : Store} {request : Request} {result : ResultSet}
    (haggregate : request.aggregate = true)
    (hone : (request.retrievals.countP fun r => r.source = .count) = 1)
    (hoffset : request.offset = 0) (hlimit : request.limit = none)
    (h : store.execute request = .ok result) :
    ∃ d f columns rows, store.dataset request.datatype = .ok d ∧
      Filter.compile ⟨request.datatype, d⟩ request.criteria = .ok f ∧
      Column.ofRetrievals ⟨request.datatype, d⟩ request.retrievals = .ok columns ∧
      rows = sortRows request.retrievals (groupRows columns (found d f)) ∧
      rows.Perm (groupRows columns (found d f)) ∧
      Partition columns (found d f) rows ∧
      result.rows = (rows.map (shownRow request.highlight f.freeTexts)).map .ok ∧
      (∀ row ∈ rows, countCells columns (shownRow request.highlight f.freeTexts row)
        = countCells columns row) ∧
      (request.highlight = none → result.rows = rows.map .ok) ∧
      result.total = rows.length := by
  obtain ⟨d, f, columns, shown, hd, hf, hcolumns, hshown, rfl⟩ := execute_parts h
  have hrows : Store.allRows request f columns d.records
      = sortRows request.retrievals (groupRows columns (found d f)) := by
    rw [Store.allRows, haggregate]
    rfl
  have hpage : Store.page request.offset request.limit (Store.allRows request f columns d.records)
      = sortRows request.retrievals (groupRows columns (found d f)) := by
    rw [hrows, hoffset, hlimit]
    rfl
  have hcount : columns.countP Column.isCount = 1 := (countP_ofRetrievals hcolumns).trans hone
  have hperm := sortRows_perm request.retrievals (groupRows columns (found d f))
  have hpartition := (partition_groupRows hcount (found d f)).perm hperm
  rw [hpage] at hshown
  obtain rfl := markRows_eq hshown
  refine ⟨d, f, columns, _, hd, hf, hcolumns, rfl, hperm, hpartition, rfl,
    countCells_shownRow hpartition _ _, fun hplain => ?_, congrArg List.length hrows⟩
  rw [hplain]
  exact congrArg (List.map Except.ok) (List.map_id _)

/-- Two events in one room and one in another. -/
def roomEvents : Dataset :=
  ⟨[("room", .text)], [[("room", .text "7")], [("room", .text "8")], [("room", .text "7")]]⟩

/-- A request for the rooms of events that hold a text, the most frequent first, each with its
number behind it. -/
def countRooms (part : String) (highlight : Option Highlight) : Request :=
  ⟨"events", [(Retrieval.field "events.room").asGroup, Retrieval.count.ordered .desc],
    .leaf ⟨"events._raw_query", "==", some part⟩, none, 0, true, highlight⟩

/-- Three events are shared out to two rooms. -/
theorem execute_partition_rooms : ∃ result f columns rows,
    Store.execute [("events", roomEvents)] (countRooms "" none) = .ok result ∧
    Partition columns (found roomEvents f) rows ∧ result.rows = rows.map .ok ∧ rows.length = 2 := by
  have htotal : (Store.execute [("events", roomEvents)] (countRooms "" none)).toOption.map (·.total)
      = some 2 := by
    decide +kernel
  cases hresult : Store.execute [("events", roomEvents)] (countRooms "" none) with
  | error e =>
    rw [hresult] at htotal
    cases htotal
  | ok result =>
    rw [hresult] at htotal
    obtain ⟨d, f, columns, rows, hd, -, -, -, -, hpartition, -, -, hplain, hlength⟩ :=
      execute_partition rfl rfl rfl rfl hresult
    obtain rfl : roomEvents = d := Except.ok.inj hd
    exact ⟨result, f, columns, rows, rfl, hpartition, hplain rfl,
      hlength.symm.trans (Option.some.inj htotal)⟩

/-- A term of one such character is not too large to be looked for. -/
theorem termsFit_seven : Highlight.termsFit ["7"] = true := by
  have hseven : Highlight.termPattern ['7'] = .char '7' := by
    have hcaseless : Caseless '7'.toNat := by
      unfold Caseless
      decide +kernel
    rw [Highlight.termPattern, List.filterMap_cons, literal?_caseless hcaseless]
    rfl
  rw [Highlight.termsFit, show Highlight.termsOf ["7"] = [['7']] from rfl, List.map_singleton,
    hseven]
  decide +kernel

/-- A request for one room, with marks. -/
def markedRoom : Request := countRooms "7" (some .default)

/-- The filter of that request. -/
def inRoom : Filter := .leaf ⟨.anywhere, .equal "7", false⟩

/-- The room of the found events is shown with marks, so no row has their key. -/
theorem execute_partition_marked : ∃ result columns,
    Store.execute [("events", roomEvents)] markedRoom = .ok result ∧
    Filter.compile ⟨"events", roomEvents⟩ markedRoom.criteria = .ok inRoom ∧
    Column.ofRetrievals ⟨"events", roomEvents⟩ markedRoom.retrievals = .ok columns ∧
    ∀ rows, result.rows = rows.map .ok → ¬ Partition columns (found roomEvents inRoom) rows := by
  have hd : Store.dataset [("events", roomEvents)] "events" = .ok roomEvents := rfl
  have hf : Filter.compile ⟨"events", roomEvents⟩ markedRoom.criteria = .ok inRoom := rfl
  have hc : Column.ofRetrievals ⟨"events", roomEvents⟩ markedRoom.retrievals
      = .ok [.field "room", .count] := rfl
  have hrows : Store.allRows markedRoom inRoom [.field "room", .count] roomEvents.records
      = [[.text "7", .integer 2]] := by
    decide +kernel
  have hmarked : Store.markRows (some .default) inRoom.freeTexts [[.text "7", .integer 2]]
      = .ok [[.text (Highlight.default.wrap "7"), .integer 2]] := by
    have hfit : Highlight.termsFit inRoom.freeTexts = true := termsFit_seven
    rw [Store.markRows, if_pos hfit]
    exact congrArg Except.ok (by decide +kernel)
  have hanswer : Store.execute [("events", roomEvents)] markedRoom
      = .ok (.ofRows [[.text (Highlight.default.wrap "7"), .integer 2]] 1) := by
    have hdatatype : markedRoom.datatype = "events" := rfl
    have hpage : Store.page markedRoom.offset markedRoom.limit [[.text "7", .integer 2]]
        = [[.text "7", .integer 2]] := rfl
    have hhighlight : markedRoom.highlight = some .default := rfl
    simp only [Store.execute, bind, Except.bind, hd, hdatatype, hf, hc, hrows, hpage, hhighlight,
      hmarked]
    rfl
  refine ⟨_, _, hanswer, hf, hc, fun rows hrows hpartition => ?_⟩
  obtain rfl : rows = [[.text (Highlight.default.wrap "7"), .integer 2]] :=
    List.map_injective_iff.2 (fun _ _ => Except.ok.inj) hrows.symm
  have hplaced := hpartition.placed [("room", .text "7")] (by decide +kernel)
  exact absurd hplaced (by decide +kernel)

end EventSearch.Search
