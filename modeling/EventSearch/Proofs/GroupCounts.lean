/-
# `EventSearch.Proofs.GroupCounts` — a group counts the records with its key

Groups are made by one pass over the keys of the records (`groupsOf_eq`).  The invariant of the pass
is a `Tally` of the keys seen so far: no two groups have keys with the same text, each group has the
key of some record and counts the keys that print as it does, and no key is left out.  What one key
changes is told by `addToGroup_cases`; `tally_groupsOf` is the invariant of the whole pass.  Each key
adds one to one count, so the counts add up to the number of records (`sum_groupsOf`).
-/
import Mathlib.Algebra.GroupWithZero.Nat
import EventSearch.Provider.Grouping

namespace EventSearch.Provider

open EventSearch.Data

/-! ## Groups -/

/-- How many keys print as a given one. -/
def countKey (key : Row) (keys : List Row) : Nat :=
  (keys.filter fun k => keyText k = keyText key).length

theorem countKey_append (key : Row) (keys more : List Row) :
    countKey key (keys ++ more) = countKey key keys + countKey key more := by
  rw [countKey, List.filter_append, List.length_append]
  rfl

theorem countKey_singleton (key k : Row) :
    countKey key [k] = if keyText k = keyText key then 1 else 0 := by
  by_cases h : keyText k = keyText key <;> simp [countKey, h]

/-- Groups that count some keys. -/
structure Tally (keys : List Row) (groups : List (Row × Nat)) : Prop where
  distinct : groups.Pairwise fun g g' => keyText g.1 ≠ keyText g'.1
  counts : ∀ g ∈ groups, g.1 ∈ keys ∧ g.2 = countKey g.1 keys
  complete : ∀ k ∈ keys, ∃ g ∈ groups, keyText g.1 = keyText k

theorem tally_nil : Tally [] [] := ⟨.nil, by simp, by simp⟩

/-- One more key raises the count of its group, or makes a new group at the end. -/
theorem addToGroup_cases (key : Row) (groups : List (Row × Nat)) :
    ((∀ g ∈ groups, keyText g.1 ≠ keyText key) ∧
      addToGroup key groups = groups ++ [(key, 1)]) ∨
    ∃ before k n after, groups = before ++ (k, n) :: after ∧ keyText k = keyText key ∧
      addToGroup key groups = before ++ (k, n + 1) :: after := by
  induction groups with
  | nil => exact .inl ⟨by simp, rfl⟩
  | cons g groups ih =>
    obtain ⟨k, n⟩ := g
    by_cases hk : keyText k = keyText key
    · exact .inr ⟨[], k, n, groups, rfl, hk, by simp [addToGroup, hk]⟩
    · rcases ih with ⟨hne, he⟩ | ⟨before, k', n', after, rfl, hk', he⟩
      · refine .inl ⟨fun g hg => ?_, by simp [addToGroup, hk, he]⟩
        rcases List.mem_cons.1 hg with rfl | hg
        · exact hk
        · exact hne g hg
      · exact .inr ⟨(k, n) :: before, k', n', after, rfl, hk', by simp [addToGroup, hk, he]⟩

theorem countKey_of_ne {key k : Row} (h : keyText k ≠ keyText key) (keys : List Row) :
    countKey k (keys ++ [key]) = countKey k keys := by
  rw [countKey_append, countKey_singleton, if_neg (Ne.symm h), Nat.add_zero]

theorem countKey_of_eq {key k : Row} (h : keyText k = keyText key) (keys : List Row) :
    countKey k (keys ++ [key]) = countKey k keys + 1 := by
  rw [countKey_append, countKey_singleton, if_pos h.symm]

/-- None of the keys so far prints as a key that no group has. -/
theorem Tally.countKey_eq_zero {keys : List Row} {groups : List (Row × Nat)} (h : Tally keys groups)
    {key : Row} (hne : ∀ g ∈ groups, keyText g.1 ≠ keyText key) : countKey key keys = 0 := by
  rw [countKey, List.length_eq_zero_iff, List.filter_eq_nil_iff]
  intro k hk hkey
  obtain ⟨g, hg, ht⟩ := h.complete k hk
  exact hne g hg (ht.trans (of_decide_eq_true hkey))

theorem Tally.newGroup {keys : List Row} {groups : List (Row × Nat)} (h : Tally keys groups)
    {key : Row} (hne : ∀ g ∈ groups, keyText g.1 ≠ keyText key) :
    Tally (keys ++ [key]) (groups ++ [(key, 1)]) := by
  constructor
  case distinct =>
    refine List.pairwise_append.2 ⟨h.distinct, List.pairwise_singleton _ _, ?_⟩
    intro g hg g' hg'
    obtain rfl := List.mem_singleton.1 hg'
    exact hne g hg
  case counts =>
    intro g hg
    rcases List.mem_append.1 hg with hg | hg
    · obtain ⟨hmem, hcount⟩ := h.counts g hg
      exact ⟨List.mem_append_left _ hmem, by rw [countKey_of_ne (hne g hg), hcount]⟩
    · obtain rfl := List.mem_singleton.1 hg
      exact ⟨List.mem_append_right _ List.mem_cons_self,
        by rw [countKey_of_eq rfl, h.countKey_eq_zero hne]⟩
  case complete =>
    intro k hk
    rcases List.mem_append.1 hk with hk | hk
    · obtain ⟨g, hg, ht⟩ := h.complete k hk
      exact ⟨g, List.mem_append_left _ hg, ht⟩
    · obtain rfl := List.mem_singleton.1 hk
      exact ⟨(k, 1), List.mem_append_right _ List.mem_cons_self, rfl⟩

section Raised

variable {keys : List Row} {key k : Row} {n : Nat} {before after : List (Row × Nat)}
  (h : Tally keys (before ++ (k, n) :: after)) (hk : keyText k = keyText key)

include h hk

/-- The keys of the other groups print differently. -/
theorem Tally.others_ne : ∀ g ∈ before ++ after, keyText g.1 ≠ keyText key := by
  intro g hg
  rw [← hk]
  have hd := List.pairwise_append.1 h.distinct
  rcases List.mem_append.1 hg with hg | hg
  · exact hd.2.2 g hg (k, n) List.mem_cons_self
  · exact Ne.symm ((List.pairwise_cons.1 hd.2.1).1 g hg)

theorem Tally.raisedGroup : Tally (keys ++ [key]) (before ++ (k, n + 1) :: after) := by
  have hgroup (m : Nat) {g : Row × Nat} : g ∈ before ++ (k, m) :: after ↔
      g ∈ before ++ after ∨ g = (k, m) := by
    simp only [List.mem_append, List.mem_cons]
    exact ⟨by rintro (hg | hg | hg) <;> simp [hg], by rintro ((hg | hg) | hg) <;> simp [hg]⟩
  constructor
  case distinct =>
    have hd := h.distinct
    rw [List.pairwise_append, List.pairwise_cons] at hd ⊢
    refine ⟨hd.1, hd.2.1, fun g hg g' hg' => ?_⟩
    rcases List.mem_cons.1 hg' with rfl | hg'
    · exact hd.2.2 g hg (k, n) List.mem_cons_self
    · exact hd.2.2 g hg g' (List.mem_cons_of_mem _ hg')
  case counts =>
    intro g hg
    rcases (hgroup (n + 1)).1 hg with hg | rfl
    · obtain ⟨hkeys, hcount⟩ := h.counts g ((hgroup n).2 (.inl hg))
      exact ⟨List.mem_append_left _ hkeys, by rw [countKey_of_ne (h.others_ne hk g hg), hcount]⟩
    · obtain ⟨hkeys, hcount⟩ := h.counts (k, n) ((hgroup n).2 (.inr rfl))
      exact ⟨List.mem_append_left _ hkeys, by rw [countKey_of_eq hk, ← hcount]⟩
  case complete =>
    intro k' hk'
    obtain ⟨g, hg, ht⟩ : ∃ g ∈ before ++ (k, n) :: after, keyText g.1 = keyText k' := by
      rcases List.mem_append.1 hk' with hk' | hk'
      · exact h.complete k' hk'
      · obtain rfl := List.mem_singleton.1 hk'
        exact ⟨(k, n), (hgroup n).2 (.inr rfl), hk⟩
    rcases (hgroup n).1 hg with hg | rfl
    · exact ⟨g, (hgroup (n + 1)).2 (.inl hg), ht⟩
    · exact ⟨(k, n + 1), (hgroup (n + 1)).2 (.inr rfl), ht⟩

end Raised

theorem Tally.addToGroup {keys : List Row} {groups : List (Row × Nat)} (h : Tally keys groups)
    (key : Row) : Tally (keys ++ [key]) (addToGroup key groups) := by
  rcases addToGroup_cases key groups with ⟨hne, he⟩ | ⟨before, k, n, after, rfl, hk, he⟩
  · rw [he]
    exact h.newGroup hne
  · rw [he]
    exact h.raisedGroup hk

theorem tally_foldl {keys : List Row} {groups : List (Row × Nat)} (h : Tally keys groups)
    (more : List Row) :
    Tally (keys ++ more) (more.foldl (fun groups key => addToGroup key groups) groups) := by
  induction more generalizing keys groups with
  | nil => rwa [List.append_nil]
  | cons key more ih =>
    have hstep := ih (h.addToGroup key)
    rwa [List.append_assoc] at hstep

theorem groupsOf_eq (columns : List Column) (records : List Record) :
    groupsOf columns records
      = (records.map (keyOf columns)).foldl (fun groups key => addToGroup key groups) [] := by
  rw [groupsOf, List.foldl_map]

/-- The groups of some records count their keys. -/
theorem tally_groupsOf (columns : List Column) (records : List Record) :
    Tally (records.map (keyOf columns)) (groupsOf columns records) := by
  rw [groupsOf_eq]
  exact tally_foldl tally_nil _

/-! ## Sums -/

/-- One more key adds one to one count. -/
theorem sum_addToGroup (key : Row) (groups : List (Row × Nat)) :
    ((addToGroup key groups).map (·.2)).sum = (groups.map (·.2)).sum + 1 := by
  rcases addToGroup_cases key groups with ⟨-, hnew⟩ | ⟨before, k, n, after, hold, -, hraised⟩
  · rw [hnew]
    simp
  · rw [hraised, hold]
    simp only [List.map_append, List.map_cons, List.sum_append, List.sum_cons]
    omega

/-- The counts of all groups add up to the number of records. -/
theorem sum_groupsOf (columns : List Column) (records : List Record) :
    ((groupsOf columns records).map (·.2)).sum = records.length := by
  have hfold : ∀ (keys : List Row) (groups : List (Row × Nat)),
      ((keys.foldl (fun groups key => addToGroup key groups) groups).map (·.2)).sum
        = (groups.map (·.2)).sum + keys.length := by
    intro keys
    induction keys with
    | nil => exact fun groups => rfl
    | cons key keys ih =>
      intro groups
      rw [List.foldl_cons, ih, sum_addToGroup, List.length_cons, Nat.add_assoc,
        Nat.add_comm 1]
  rw [groupsOf_eq, hfold, List.length_map, List.map_nil, List.sum_nil, Nat.zero_add]

/-! ## Rows -/

section Rows

variable {columns : List Column} (hplain : ∀ c ∈ columns, c.isCount = false)
include hplain

/-- The key of a record, when groups are counted in the first column. -/
theorem keyOf_plain (record : Record) :
    keyOf (.count :: columns) record = rowOf columns record := by
  have hfilter : columns.filter (fun c => !c.isCount) = columns :=
    List.filter_eq_self.2 fun c hc => by rw [hplain c hc]; rfl
  rw [keyOf, List.filter_cons_of_neg (by simp [Column.isCount]), hfilter, rowOf]

theorem groupRow_plain (count : Nat) {key : Row} (h : key.length = columns.length) :
    groupRow count columns key = key := by
  induction columns generalizing key with
  | nil => rw [List.length_eq_zero_iff.1 h]; rfl
  | cons c columns ih =>
    cases key with
    | nil => cases h
    | cons cell key =>
      have ih := ih (fun d hd => hplain d (List.mem_cons_of_mem c hd)) (Nat.succ.inj h)
      have hc := hplain c List.mem_cons_self
      cases c with
      | count => cases hc
      | field name => exact congrArg (cell :: ·) ih
      | component name zone unit => exact congrArg (cell :: ·) ih

/-- The groups of some records: each has the key of a record and counts the records with it. -/
theorem mem_groupsOf {records : List Record} {g : Row × Nat}
    (h : g ∈ groupsOf (.count :: columns) records) :
    ∃ record ∈ records, g.1 = rowOf columns record ∧
      g.2 = (records.filter fun r => keyText (rowOf columns r) = keyText g.1).length := by
  have hkey := keyOf_plain hplain
  obtain ⟨hmem, hcount⟩ := (tally_groupsOf _ records).counts _ h
  obtain ⟨record, hr, hg⟩ := List.mem_map.1 hmem
  refine ⟨record, hr, by rw [← hg, hkey], ?_⟩
  rw [hcount, countKey, List.filter_map, List.length_map]
  simp only [Function.comp_def, hkey]

/-- The row of a group starts with the count; its key follows. -/
theorem groupRows_plain (records : List Record) : groupRows (.count :: columns) records =
    (groupsOf (.count :: columns) records).map fun g => .integer g.2 :: g.1 := by
  refine List.map_congr_left fun g hg => ?_
  obtain ⟨record, -, hkey, -⟩ := mem_groupsOf hplain hg
  obtain ⟨key, count⟩ := g
  have hlength : key.length = columns.length := by
    rw [show key = rowOf columns record from hkey, rowOf, List.length_map]
  exact congrArg (.integer count :: ·) (groupRow_plain hplain count hlength)

end Rows

/-- The columns of some fields. -/
def fieldColumns (names : List String) : List Column := names.map .field

/-- The cells of a record in some fields. -/
def fieldCells (names : List String) (record : Record) : Row :=
  names.map fun name => Column.cell record (.field name)

theorem rowOf_fields (names : List String) (record : Record) :
    rowOf (fieldColumns names) record = fieldCells names record := by
  rw [rowOf, fieldColumns, fieldCells, List.map_map]
  rfl

/-- The row of a group starts with the count; the cells of some record follow it. -/
theorem mem_groupRows_fields {names : List String} {records : List Record} {row : Row}
    (h : row ∈ groupRows (.count :: fieldColumns names) records) :
    ∃ n : Nat, ∃ record ∈ records, row = .integer n :: fieldCells names record ∧
      n = (records.filter fun r =>
        keyText (fieldCells names r) = keyText (fieldCells names record)).length := by
  have hplain : ∀ c ∈ fieldColumns names, c.isCount = false := by
    intro c hc
    obtain ⟨name, -, rfl⟩ := List.mem_map.1 hc
    rfl
  rw [groupRows_plain hplain] at h
  obtain ⟨g, hg, rfl⟩ := List.mem_map.1 h
  obtain ⟨record, hr, hkey, hcount⟩ := mem_groupsOf hplain hg
  rw [rowOf_fields] at hkey
  refine ⟨g.2, record, hr, by rw [hkey], ?_⟩
  rw [hcount, hkey]
  simp only [rowOf_fields]

end EventSearch.Provider
