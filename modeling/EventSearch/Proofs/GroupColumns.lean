/-
# `EventSearch.Proofs.GroupColumns` — the columns of a grouped search

A plan keeps the names of its groups, how many columns each takes, what is retrieved and where the
calendar components begin, all beside one another.  They are walked in parallel later, when the
components were put together to one cell.

    retrieved    count | columns of each field ... | year, month, ... down to the unit
    put together count | columns of each field ... | timestamp

Both fit together (`make_columns`): a link hands each field the columns it is retrieved by and the
cells that stand in these, however many they are, and the time unit its timestamp.  The same theorem
tells which searches can be planned, and what is objected to the others.
-/
import EventSearch.Proofs.ChartCounts
import Mathlib.Data.List.SplitLengths

namespace EventSearch.Search

open EventSearch.Data EventSearch.Calendar EventSearch.Query EventSearch.Provider

variable {σ : Type}

/-! ## Names to group by -/

namespace SearchParams

/-- The fields to group by, each once. -/
def groupFields (p : SearchParams) : List String :=
  p.groupby.eraseDups.filter fun name => !TimeUnit.isTemporal name

/-- The names of time units to group by, each once. -/
def groupUnits (p : SearchParams) : List String := p.groupby.eraseDups.filter TimeUnit.isTemporal

/-- The first time unit to group by. -/
def unit? (p : SearchParams) : Option TimeUnit := p.groupby.findSome? TimeUnit.ofName?

/-- At most one time unit is named, however often. -/
def OneUnit (p : SearchParams) : Prop :=
  ∀ a ∈ p.groupby, ∀ b ∈ p.groupby, ∀ u v, TimeUnit.ofName? a = some u →
    TimeUnit.ofName? b = some v → u = v

end SearchParams

/-- Names are told apart like the units they denote. -/
theorem ofName?_eq_some {name : String} {u : TimeUnit} :
    TimeUnit.ofName? name = some u ↔ name = u.name := by
  constructor
  · intro h
    have hfound := List.find?_some h
    exact (of_decide_eq_true hfound).symm
  · rintro rfl
    exact ofName?_name u

theorem mem_groupUnits {p : SearchParams} {name : String} : name ∈ p.groupUnits ↔
    name ∈ p.groupby ∧ TimeUnit.isTemporal name = true := by
  rw [SearchParams.groupUnits, List.mem_filter, List.mem_eraseDups]

theorem mem_groupFields {p : SearchParams} {name : String} : name ∈ p.groupFields ↔
    name ∈ p.groupby ∧ TimeUnit.isTemporal name = false := by
  rw [SearchParams.groupFields, List.mem_filter, List.mem_eraseDups, Bool.not_eq_true']

/-- One unit at most is left without repetitions, and it is the first. -/
theorem groupUnits_cases {p : SearchParams} (h : p.OneUnit) :
    p.groupUnits = [] ∧ p.unit? = none ∨ ∃ u, p.groupUnits = [u.name] ∧ p.unit? = some u := by
  have hsame : ∀ a ∈ p.groupby.eraseDups, ∀ b ∈ p.groupby.eraseDups,
      TimeUnit.isTemporal a = true → TimeUnit.isTemporal b = true → a = b := by
    intro a ha b hb hat hbt
    obtain ⟨u, hu⟩ := Option.isSome_iff_exists.1 hat
    obtain ⟨v, hv⟩ := Option.isSome_iff_exists.1 hbt
    obtain rfl := h a (List.mem_eraseDups.1 ha) b (List.mem_eraseDups.1 hb) u v hu hv
    rw [ofName?_eq_some.1 hu, ofName?_eq_some.1 hv]
  rcases units_cases (nodup_eraseDups p.groupby) hsame with hnone | ⟨name, u, hname, hone⟩
  · refine .inl ⟨hnone, List.findSome?_eq_none_iff.2 fun name hmem => ?_⟩
    refine Option.not_isSome_iff_eq_none.1 fun htemporal => ?_
    have hunit : name ∈ p.groupUnits := mem_groupUnits.2 ⟨hmem, htemporal⟩
    rw [show p.groupUnits = [] from hnone] at hunit
    cases hunit
  · obtain rfl := ofName?_eq_some.1 hname
    have hmem : u.name ∈ p.groupUnits := by
      rw [show p.groupUnits = [u.name] from hone]
      exact List.mem_singleton_self _
    refine .inr ⟨u, hone, ?_⟩
    cases hunit : p.unit? with
    | none =>
      have hno := List.findSome?_eq_none_iff.1 hunit u.name (mem_groupUnits.1 hmem).1
      rw [hname] at hno
      cases hno
    | some v =>
      obtain ⟨b, hb, hv⟩ := List.exists_of_findSome?_eq_some hunit
      rw [h b hb u.name (mem_groupUnits.1 hmem).1 v u hv hname]

theorem not_oneUnit {p : SearchParams} (h : ¬ p.OneUnit) : 1 < p.groupUnits.length := by
  by_contra hfew
  refine h fun a ha b hb u v hu hv => ?_
  have hau : a ∈ p.groupUnits := mem_groupUnits.2 ⟨ha, by rw [TimeUnit.isTemporal, hu]; rfl⟩
  have hbu : b ∈ p.groupUnits := mem_groupUnits.2 ⟨hb, by rw [TimeUnit.isTemporal, hv]; rfl⟩
  obtain ⟨name, hname⟩ := List.length_eq_one_iff.1
    (Nat.le_antisymm (Nat.le_of_not_lt hfew) (List.length_pos_of_mem hau))
  rw [hname, List.mem_singleton] at hau hbu
  rw [hau] at hu
  rw [hbu, hu] at hv
  exact Option.some.inj hv

/-! ## Fields -/

namespace Surface

/-- A field that a search can be grouped by: it is translated, or declared and groupable. -/
def Groups (s : Surface σ) (name : String) : Prop :=
  (s.translations.get? name).isSome = true ∨
    ∃ f, s.fieldInfo? name = some f ∧ f.info.groupable = true

/-- The columns of a field: all paths of a translated one, else its own. -/
def groupColumns (s : Surface σ) (name : String) : List Retrieval :=
  match s.translations.get? name with
  | some translation => translation.paths.map fun path => (Retrieval.field path).asGroup
  | none => (s.fieldInfo? name).toList.map fun f => (Retrieval.field f.info.path).asGroup

/-- What is said of a field that a search cannot be grouped by. -/
def objection (s : Surface σ) (name : String) : QueryError :=
  if (s.fieldInfo? name).isSome then .notGroupable name else .unknownPath name

variable {s : Surface σ} {name : String}

theorem groupPaths_of_groups (h : s.Groups name) :
    s.groupPaths name = .ok (s.groupColumns name) := by
  unfold groupPaths groupColumns
  cases ht : s.translations.get? name with
  | some translation => rfl
  | none =>
    rcases h with h | ⟨f, hf, hgroupable⟩
    · rw [ht] at h
      cases h
    · simp only [hf, hgroupable, if_true, Option.toList_some, List.map_cons, List.map_nil]

theorem groupPaths_of_not (h : ¬ s.Groups name) :
    s.groupPaths name = .error (s.objection name) := by
  unfold groupPaths objection
  cases ht : s.translations.get? name with
  | some translation => exact absurd (.inl (by rw [ht]; rfl)) h
  | none =>
    cases hf : s.fieldInfo? name with
    | none => rfl
    | some f =>
      cases hgroupable : f.info.groupable with
      | true => exact absurd (.inr ⟨f, hf, hgroupable⟩) h
      | false => simp only [hgroupable, Bool.false_eq_true, if_false, Option.isSome_some, if_true]

end Surface

variable {s : Surface σ}

theorem fieldPaths_of_groups {names : List String} (h : ∀ name ∈ names, s.Groups name) :
    Grouping.fieldPaths s names = .ok (names.map s.groupColumns) := by
  induction names with
  | nil => rfl
  | cons name names ih =>
    have hmore := ih fun n hn => h n (List.mem_cons_of_mem name hn)
    rw [Grouping.fieldPaths, Surface.groupPaths_of_groups (h name List.mem_cons_self)]
    simp only [hmore]
    rfl

/-- The first bad field is objected to. -/
theorem fieldPaths_of_not {before after : List String} {name : String}
    (hbefore : ∀ n ∈ before, s.Groups n) (h : ¬ s.Groups name) :
    Grouping.fieldPaths s (before ++ name :: after) = .error (s.objection name) := by
  induction before with
  | nil =>
    rw [List.nil_append, Grouping.fieldPaths, Surface.groupPaths_of_not h]
  | cons n before ih =>
    have hmore := ih fun m hm => hbefore m (List.mem_cons_of_mem n hm)
    rw [List.cons_append, Grouping.fieldPaths,
      Surface.groupPaths_of_groups (hbefore n List.mem_cons_self)]
    simp only [hmore]
    rfl

/-! ## Plans -/

/-- The query of a search, compiled. -/
def SearchParams.compiled (p : SearchParams) (s : Surface σ) : Except String Criteria :=
  compile s.datatype s.translations (p.mode.getD s.defaultMode) p.query

variable {context : Context} {p : SearchParams}

theorem eraseDups_eq_nil {names : List String} : names.eraseDups = [] ↔ names = [] := by
  cases names with
  | nil => simp
  | cons name names => simp [List.eraseDups_cons]

theorem make_of_unreadable {near : String} (h : p.compiled s = .error near) :
    Plan.make s context p = .error (.unreadable near) := by
  have hquery : Plan.compileQuery s (p.mode.getD s.defaultMode) p.query
      = .error (.unreadable near) := by
    rw [Plan.compileQuery, show compile _ _ _ _ = _ from h]
  simp only [Plan.make, hquery]
  rfl

theorem compileQuery_of_compiled {c : Criteria} (h : p.compiled s = .ok c) :
    Plan.compileQuery s (p.mode.getD s.defaultMode) p.query = .ok c := by
  rw [Plan.compileQuery, show compile _ _ _ _ = _ from h]

/-- A query that compiles leaves it to the grouping whether a search can be planned. -/
theorem make_of_compiled {c : Criteria} (h : p.compiled s = .ok c) (hne : p.groupby ≠ []) :
    Plan.make s context p = (Grouping.ofNames s context.zone p.groupby.eraseDups).map fun g =>
      ⟨s, context, p.query, p.mode.getD s.defaultMode, c, c.and (context.ambient s.timePath), g,
        g.retrievals, p.offset, p.limit⟩ := by
  have hsome : p.groupby.eraseDups.isEmpty = false := by
    rw [List.isEmpty_eq_false_iff, Ne, eraseDups_eq_nil]
    exact hne
  simp only [Plan.make, compileQuery_of_compiled h, bind, Except.bind, distinct_eq, hsome,
    Bool.false_eq_true, if_false]
  cases Grouping.ofNames s context.zone p.groupby.eraseDups <;> rfl

theorem ofNames_of_units (h : ¬ p.OneUnit) : Grouping.ofNames s context.zone p.groupby.eraseDups
    = .error (.manyUnits p.groupUnits) :=
  if_pos (not_oneUnit h)

/-- One unit at most leaves it to the fields. -/
theorem ofNames_of_oneUnit (h : p.OneUnit) : Grouping.ofNames s context.zone p.groupby.eraseDups
    = (Grouping.fieldPaths s p.groupFields).map fun paths =>
      .ofPaths s.timePath context.zone p.groupFields paths p.unit? := by
  have hfew : ¬ 1 < p.groupUnits.length ∧ p.groupUnits.head?.bind TimeUnit.ofName? = p.unit? := by
    rcases groupUnits_cases h with ⟨hunits, hunit⟩ | ⟨u, hunits, hunit⟩
    · rw [hunits, hunit]
      exact ⟨Nat.not_lt_zero _, rfl⟩
    · rw [hunits, hunit]
      exact ⟨Nat.lt_irrefl _, ofName?_name u⟩
  have hofNames : Grouping.ofNames s context.zone p.groupby.eraseDups
      = if 1 < p.groupUnits.length then .error (.manyUnits p.groupUnits)
        else (Grouping.fieldPaths s p.groupFields).map fun paths =>
          .ofPaths s.timePath context.zone p.groupFields paths
            (p.groupUnits.head?.bind TimeUnit.ofName?) := rfl
  rw [hofNames, if_neg hfew.1, hfew.2]

/-- A search without groups asks no more than that its query compiles. -/
theorem make_of_nothing {c : Criteria} (hc : p.compiled s = .ok c) (h : p.groupby = []) :
    ∃ plan, Plan.make s context p = .ok plan := by
  have hempty : (Grouping.distinct p.groupby).isEmpty = true := by
    rw [h]
    rfl
  simp only [Plan.make, compileQuery_of_compiled hc, bind, Except.bind, hempty, if_true]
  exact ⟨_, rfl⟩

/-- The grouping of a search. -/
def SearchParams.grouping (p : SearchParams) (s : Surface σ) (context : Context) : Grouping :=
  .ofPaths s.timePath context.zone p.groupFields (p.groupFields.map s.groupColumns) p.unit?

theorem make_of_groups {c : Criteria} (hc : p.compiled s = .ok c) (hne : p.groupby ≠ [])
    (h : p.OneUnit) (hfields : ∀ name ∈ p.groupFields, s.Groups name) :
    Plan.make s context p = .ok ⟨s, context, p.query, p.mode.getD s.defaultMode, c,
      c.and (context.ambient s.timePath), p.grouping s context, (p.grouping s context).retrievals,
      p.offset, p.limit⟩ := by
  rw [make_of_compiled hc hne, ofNames_of_oneUnit h, fieldPaths_of_groups hfields]
  rfl

theorem make_of_units {c : Criteria} (hc : p.compiled s = .ok c) (h : ¬ p.OneUnit) :
    Plan.make s context p = .error (.manyUnits p.groupUnits) := by
  have hne : p.groupby ≠ [] := by
    intro hnil
    refine h fun a ha => ?_
    rw [hnil] at ha
    cases ha
  rw [make_of_compiled hc hne, ofNames_of_units h]
  rfl

theorem make_of_bad {c : Criteria} (hc : p.compiled s = .ok c) (h : p.OneUnit)
    {before after : List String} {name : String} (hfields : p.groupFields = before ++ name :: after)
    (hbefore : ∀ n ∈ before, s.Groups n) (hbad : ¬ s.Groups name) :
    Plan.make s context p = .error (s.objection name) := by
  have hmem : name ∈ p.groupFields := by
    rw [hfields]
    exact List.mem_append_right before List.mem_cons_self
  have hne : p.groupby ≠ [] := List.ne_nil_of_mem (mem_groupFields.1 hmem).1
  rw [make_of_compiled hc hne, ofNames_of_oneUnit h, hfields, fieldPaths_of_not hbefore hbad]
  rfl

/-- Fields that are not all good have a first bad one. -/
theorem exists_first_bad {names : List String} (h : ¬ ∀ name ∈ names, s.Groups name) :
    ∃ before name after, names = before ++ name :: after ∧ (∀ n ∈ before, s.Groups n) ∧
      ¬ s.Groups name := by
  induction names with
  | nil => exact absurd (fun name hmem => absurd hmem List.not_mem_nil) h
  | cons name names ih =>
    by_cases hname : s.Groups name
    · have hmore : ¬ ∀ n ∈ names, s.Groups n := by
        intro hall
        refine h fun n hn => ?_
        rcases List.mem_cons.1 hn with rfl | hn
        · exact hname
        · exact hall n hn
      obtain ⟨before, bad, after, hsplit, hbefore, hbad⟩ := ih hmore
      refine ⟨name :: before, bad, after, by rw [hsplit, List.cons_append], ?_, hbad⟩
      intro n hn
      rcases List.mem_cons.1 hn with rfl | hn
      · exact hname
      · exact hbefore n hn
    · exact ⟨[], name, names, rfl, fun n hn => absurd hn List.not_mem_nil, hname⟩

/-- Which searches can be planned. -/
theorem make_isOk : (∃ plan, Plan.make s context p = .ok plan) ↔
    (∃ c, p.compiled s = .ok c) ∧ p.OneUnit ∧ ∀ name ∈ p.groupFields, s.Groups name := by
  constructor
  · rintro ⟨plan, hplan⟩
    cases hc : p.compiled s with
    | error near =>
      rw [make_of_unreadable hc] at hplan
      cases hplan
    | ok c =>
      have hunit : p.OneUnit := by
        by_contra hunits
        rw [make_of_units hc hunits] at hplan
        cases hplan
      refine ⟨⟨c, rfl⟩, hunit, ?_⟩
      by_contra hbad
      obtain ⟨before, name, after, hfields, hbefore, hname⟩ := exists_first_bad hbad
      rw [make_of_bad hc hunit hfields hbefore hname] at hplan
      cases hplan
  · rintro ⟨⟨c, hc⟩, hunit, hfields⟩
    by_cases hnil : p.groupby = []
    · exact make_of_nothing hc hnil
    · exact ⟨_, make_of_groups hc hnil hunit hfields⟩

/-! ## Columns -/

/-- The columns of a grouped plan: behind the count those of each field, then the components of the
time unit.  Without one the largest groups come first. -/
structure Plan.LaidOut (plan : Plan σ) (fields : List String) (u : Option TimeUnit) : Prop where
  names : plan.grouping.names = fields ++ u.toList.map TimeUnit.name
  widths : plan.grouping.widths
    = fields.map (fun name => (plan.surface.groupColumns name).length) ++ u.toList.map fun _ => 1
  unit : plan.grouping.unit = u
  timeIndex : plan.grouping.timeIndex
    = u.map fun _ => 1 + (fields.flatMap plan.surface.groupColumns).length
  retrievals : plan.retrievals
    = (if u.isSome then Retrieval.count else Retrieval.count.ordered .desc) ::
        (fields.flatMap plan.surface.groupColumns ++
          u.elim [] (Grouping.components plan.surface.timePath plan.context.zone))

/-- Grouped plans are laid out so. -/
theorem make_laidOut {plan : Plan σ} (h : Plan.make s context p = .ok plan) (hne : p.groupby ≠ []) :
    plan.surface = s ∧ plan.context = context ∧ plan.LaidOut p.groupFields p.unit? := by
  obtain ⟨⟨c, hc⟩, hunit, hfields⟩ := make_isOk.1 ⟨plan, h⟩
  rw [make_of_groups hc hne hunit hfields] at h
  obtain rfl := Except.ok.inj h
  have hcolumns :
      (p.groupFields.map s.groupColumns).flatten = p.groupFields.flatMap s.groupColumns :=
    List.flatMap_def.symm
  refine ⟨rfl, rfl, ?_⟩
  cases hu : p.unit? with
  | none =>
    constructor <;>
      simp [SearchParams.grouping, hu, Grouping.ofPaths, hcolumns, Function.comp_def]
  | some u =>
    constructor <;>
      simp [SearchParams.grouping, hu, Grouping.ofPaths, hcolumns, Function.comp_def, Nat.add_comm]

/-! ## Rows -/

/-- The number of cells that calendar components take in a row of the provider. -/
def cascadeWidth (u : Option TimeUnit) : Nat := u.elim 0 (·.cascade.length)

/-- A row of the provider, and the row put together from it: behind the count a block of cells for
each field, as many as the field has columns, and then the components or the time they tell. -/
structure Plan.Blocks (plan : Plan σ) (fields : List String) (u : Option TimeUnit) (raw row : Row)
    (count : Value) (blocks : List (List Value)) (time : Option Timestamp) : Prop where
  widths : blocks.map (·.length) = fields.map fun name => (plan.surface.groupColumns name).length
  raw : ∃ components : Row, raw = count :: (blocks.flatten ++ components) ∧
    components.length = cascadeWidth u ∧
    time = u.bind fun _ => keyStart? plan.context.zone components
  row : row = count :: (blocks.flatten ++ time.toList.map .timestamp)
  time : time.isSome = u.isSome

theorem length_components (timePath : String) (zone : Zone) (u : Option TimeUnit) :
    (u.elim [] (Grouping.components timePath zone)).length = cascadeWidth u := by
  cases u with
  | none => rfl
  | some u => exact List.length_map _

theorem sum_widths {plan : Plan σ} {fields : List String} {u : Option TimeUnit}
    (hl : plan.LaidOut fields u) : plan.grouping.widths.sum
      = (fields.flatMap plan.surface.groupColumns).length + u.toList.length := by
  rw [hl.widths, List.sum_append, List.length_flatMap]
  cases u <;> rfl

/-- A row as wide as what is retrieved falls into blocks. -/
theorem exists_blocks {plan : Plan σ} {fields : List String} {u : Option TimeUnit}
    (hl : plan.LaidOut fields u) {raw : Row} (h : raw.length = plan.retrievals.length) :
    ∃ (count : Value) (blocks : List (List Value)) (components : Row),
      raw = count :: (blocks.flatten ++ components) ∧
      blocks.map (·.length) = fields.map (fun name => (plan.surface.groupColumns name).length) ∧
      components.length = cascadeWidth u := by
  rw [hl.retrievals, List.length_cons, List.length_append, length_components,
    List.length_flatMap] at h
  cases raw with
  | nil => cases h
  | cons count cells =>
    generalize fields.map (fun name => (plan.surface.groupColumns name).length) = widths at h ⊢
    have hcells : cells.length = widths.sum + cascadeWidth u := Nat.succ.inj h
    have htake : (cells.take widths.sum).length = widths.sum :=
      List.length_take_of_le (by omega)
    refine ⟨count, widths.splitLengths (cells.take widths.sum), cells.drop widths.sum, ?_,
      List.map_splitLengths_length _ _ (Nat.le_of_eq htake.symm), ?_⟩
    · rw [List.flatten_splitLengths _ _ (Nat.le_of_eq htake), List.take_append_drop]
    · rw [List.length_drop]
      omega

/-- Each good row is put together from the good row at its place. -/
theorem blocks_of_finish {plan : Plan σ} {fields : List String} {u : Option TimeUnit}
    (hl : plan.LaidOut fields u) {r : ResultSet}
    (hr : ∀ raw, .ok raw ∈ r.rows → raw.length = plan.retrievals.length) {i : Nat} {row : Row}
    (h : (Session.finish plan r).rows[i]? = some (.ok row)) :
    ∃ raw count blocks time, r.rows[i]? = some (.ok raw) ∧
      plan.Blocks fields u raw row count blocks time := by
  cases u with
  | none =>
    have hfinish : Session.finish plan r = r := by
      rw [Session.finish, hl.timeIndex]
      rfl
    rw [hfinish] at h
    -- without a unit no cells are left behind the blocks
    obtain ⟨count, blocks, components, hraw, hwidths, hnone⟩ :=
      exists_blocks hl (hr row (List.mem_of_getElem? h))
    obtain rfl := List.eq_nil_of_length_eq_zero hnone
    exact ⟨row, count, blocks, none, h, hwidths, ⟨[], hraw, rfl, rfl⟩, hraw, rfl⟩
  | some u =>
    have hfinish : Session.finish plan r = rebuildRows
        (1 + (fields.flatMap plan.surface.groupColumns).length) plan.context.zone r := by
      rw [Session.finish, hl.timeIndex]
      rfl
    rw [hfinish, rebuildRows, List.getElem?_map] at h
    cases hi : r.rows[i]? with
    | none =>
      rw [hi] at h
      cases h
    | some first =>
      rw [hi] at h
      cases first with
      | error e => cases Option.some.inj h
      | ok raw =>
        have hrebuild := Option.some.inj h
        obtain ⟨count, blocks, components, rfl, hwidths, hmany⟩ :=
          exists_blocks hl (hr raw (List.mem_of_getElem? hi))
        have hindex : 1 + (fields.flatMap plan.surface.groupColumns).length
            = blocks.flatten.length + 1 := by
          rw [List.length_flatMap, List.length_flatten, hwidths, Nat.add_comm]
        have hsome : components ≠ [] := by
          rw [← List.length_pos_iff, hmany]
          exact cascade_pos u
        obtain ⟨t, ht, hrow⟩ := (rebuildRow_eq_ok hsome).1 (hindex ▸ hrebuild)
        exact ⟨_, count, blocks, some t, rfl, hwidths, ⟨components, rfl, hmany, ht.symm⟩, hrow, rfl⟩

theorem length_of_blocks {plan : Plan σ} {fields : List String} {u : Option TimeUnit}
    (hl : plan.LaidOut fields u) {raw row : Row} {count : Value} {blocks : List (List Value)}
    {time : Option Timestamp} (h : plan.Blocks fields u raw row count blocks time) :
    row.length = 1 + plan.grouping.widths.sum := by
  have htime : time.toList.length = u.toList.length := by
    have hsome := h.time
    cases time <;> cases u <;> first | rfl | cases hsome
  rw [h.row, sum_widths hl, List.length_cons, List.length_append, List.length_map, htime,
    List.length_flatten, h.widths, List.length_flatMap, Nat.add_comm]

/-! ## Links -/

/-- A slice is the block that begins at its start, also an empty one behind the end. -/
theorem slice_block {α : Type} {start : Nat} {block xs values : List α}
    (h : values.drop start = block ++ xs) : Plan.slice start block.length values = block ∧
      values.drop (start + block.length) = xs := by
  have hlength := congrArg List.length h
  rw [List.length_drop, List.length_append] at hlength
  constructor
  · rw [Plan.slice]
    split
    · rw [h, List.take_left]
    · exact (List.eq_nil_of_length_eq_zero (by omega)).symm
  · rw [← List.drop_drop, h, List.drop_left]

/-- Each field in front is handed its own columns and the block of its cells.  The cursor stands at
the blocks of the fields that are left, in the row and, one further, in what is retrieved. -/
theorem narrow_fieldBlocks (plan : Plan σ) (step : Step) (values : List Value) (params : Params)
    (groups : List (String × Nat)) {fields : List String} {blocks : List (List Value)}
    {cursor : Nat} {cells : List Value} {more : List Retrieval}
    (hfields : ∀ name ∈ fields, TimeUnit.isTemporal name = false)
    (hwidths : blocks.map (·.length)
      = fields.map fun name => (plan.surface.groupColumns name).length)
    (hvalues : values.drop cursor = blocks.flatten ++ cells)
    (hretrievals : plan.retrievals.drop (cursor + 1)
      = fields.flatMap plan.surface.groupColumns ++ more) :
    plan.narrow step values cursor params
        (fields.zip (fields.map fun name => (plan.surface.groupColumns name).length) ++ groups)
      = (List.zipWith (fun name block =>
            plan.groupCriterion name (plan.surface.groupColumns name) block) fields blocks ++
          (plan.narrow step values (cursor + blocks.flatten.length) params groups).1,
        (plan.narrow step values (cursor + blocks.flatten.length) params groups).2) := by
  induction fields generalizing blocks cursor with
  | nil =>
    obtain rfl := List.map_eq_nil_iff.1 hwidths
    rfl
  | cons name fields ih =>
    cases blocks with
    | nil => cases hwidths
    | cons block blocks =>
      obtain ⟨hhead, hwidths⟩ := List.cons.inj hwidths
      have hwidth : block.length = (plan.surface.groupColumns name).length := hhead
      rw [List.flatten_cons, List.append_assoc] at hvalues
      rw [List.flatMap_cons, List.append_assoc] at hretrievals
      obtain ⟨hcells, hvalues⟩ := slice_block hvalues
      obtain ⟨hcolumns, hretrievals⟩ := slice_block hretrievals
      rw [hwidth] at hcells hvalues
      rw [Nat.add_right_comm] at hretrievals
      have hrest := ih (fun n hn => hfields n (List.mem_cons_of_mem name hn)) hwidths hvalues
        hretrievals
      simp only [List.map_cons, List.zip_cons_cons, List.cons_append, Plan.narrow, hcells, hcolumns,
        hfields name List.mem_cons_self, Bool.false_eq_true, if_false, hrest,
        List.zipWith_cons_cons, List.flatten_cons, List.length_append, hwidth, Nat.add_assoc]

/-- The time unit behind the fields is handed the timestamp. -/
theorem narrow_of_blocks {plan : Plan σ} {fields : List String} {u : Option TimeUnit}
    (hl : plan.LaidOut fields u) (hfields : ∀ name ∈ fields, TimeUnit.isTemporal name = false)
    {raw row : Row} {count : Value} {blocks : List (List Value)} {time : Option Timestamp}
    (h : plan.Blocks fields u raw row count blocks time) (step : Step) (params : Params) :
    plan.narrow step row.tail 0 params (plan.grouping.names.zip plan.grouping.widths)
      = (List.zipWith (fun name block =>
            plan.groupCriterion name (plan.surface.groupColumns name) block) fields blocks,
        time.elim params fun t => plan.bucketParams step t params) := by
  have hretrievals : plan.retrievals.drop (0 + 1) = fields.flatMap plan.surface.groupColumns ++
      u.elim [] (Grouping.components plan.surface.timePath plan.context.zone) := by
    rw [hl.retrievals]
    rfl
  have hvalues : row.tail.drop 0 = blocks.flatten ++ time.toList.map .timestamp := by
    rw [h.row]
    rfl
  have hsome := h.time
  rw [hl.names, hl.widths, List.zip_append (List.length_map _).symm,
    narrow_fieldBlocks plan step row.tail params _ hfields h.widths hvalues hretrievals]
  cases u with
  | none =>
    obtain rfl : time = none := by
      cases time with
      | none => rfl
      | some t => cases hsome
    simp only [Option.toList_none, List.map_nil, List.zip_nil_left, Plan.narrow, List.append_nil,
      Option.elim_none]
  | some u =>
    obtain ⟨t, rfl⟩ := Option.isSome_iff_exists.1 hsome
    have htemporal : TimeUnit.isTemporal u.name = true := by
      rw [TimeUnit.isTemporal, ofName?_name]
      rfl
    have hcell : Plan.slice blocks.flatten.length 1 row.tail = [.timestamp t] := by
      have hdrop : row.tail.drop blocks.flatten.length = [Value.timestamp t] ++ [] := by
        rw [List.drop_zero] at hvalues
        rw [hvalues, List.drop_left]
        rfl
      exact (slice_block hdrop).1
    simp only [Option.toList_some, List.map_cons, List.map_nil, List.zip_cons_cons,
      List.zip_nil_left, Plan.narrow, htemporal, if_true, Nat.zero_add, hcell, List.append_nil,
      Option.elim_some]
    rfl

/-- Which searches are planned, and how.  A search is planned when its query compiles, at most one
time unit is named and every field is good; else the first of these that fails is told, and of the
fields the first bad one.  A grouped plan retrieves the count, the columns of each field in the
order of first occurrence and the components of the unit.  When the rows of a result are as wide,
each good row that is put together has a cell for the count and as many as the groups are wide, and
a link hands each field its columns and its cells, and the unit its timestamp. -/
theorem make_columns (s : Surface σ) (context : Context) (p : SearchParams) :
    ((∃ plan, Plan.make s context p = .ok plan) ↔
      (∃ c, p.compiled s = .ok c) ∧ p.OneUnit ∧ ∀ name ∈ p.groupFields, s.Groups name) ∧
    (∀ near, p.compiled s = .error near →
      Plan.make s context p = .error (.unreadable near)) ∧
    (∀ c, p.compiled s = .ok c → ¬ p.OneUnit →
      Plan.make s context p = .error (.manyUnits p.groupUnits)) ∧
    (∀ c, p.compiled s = .ok c → p.OneUnit → ∀ before name after,
      p.groupFields = before ++ name :: after → (∀ n ∈ before, s.Groups n) → ¬ s.Groups name →
      Plan.make s context p = .error (s.objection name)) ∧
    ∀ plan, Plan.make s context p = .ok plan → p.groupby ≠ [] →
      plan.surface = s ∧ plan.context = context ∧ plan.LaidOut p.groupFields p.unit? ∧
      ∀ r : ResultSet, (∀ raw : Row, .ok raw ∈ r.rows → raw.length = plan.retrievals.length) →
        ∀ (i : Nat) (row : Row), (Session.finish plan r).rows[i]? = some (.ok row) →
          row.length = 1 + plan.grouping.widths.sum ∧
          ∃ (raw : Row) (count : Value) (blocks : List (List Value)) (time : Option Timestamp),
            r.rows[i]? = some (.ok raw) ∧
            plan.Blocks p.groupFields p.unit? raw row count blocks time ∧
            ∀ step params,
              plan.narrow step row.tail 0 params (plan.grouping.names.zip plan.grouping.widths)
                = (List.zipWith (fun name block =>
                      plan.groupCriterion name (s.groupColumns name) block) p.groupFields blocks,
                  time.elim params fun t => plan.bucketParams step t params) := by
  refine ⟨make_isOk, fun near hnear => make_of_unreadable hnear, fun c hc hunits =>
    make_of_units hc hunits, fun c hc hunit before name after hfields hbefore hbad =>
    make_of_bad hc hunit hfields hbefore hbad, fun plan hplan hne => ?_⟩
  obtain ⟨rfl, hcontext, hl⟩ := make_laidOut hplan hne
  refine ⟨rfl, hcontext, hl, fun r hr i row hrow => ?_⟩
  obtain ⟨raw, count, blocks, time, hraw, hblocks⟩ := blocks_of_finish hl hr hrow
  exact ⟨length_of_blocks hl hblocks, raw, count, blocks, time, hraw, hblocks,
    narrow_of_blocks hl (fun name hname => (mem_groupFields.1 hname).2) hblocks⟩

/-- A surface where a host has two paths and a void has none. -/
def voidSurface : Surface Unit :=
  ⟨"events", "events", (Store.ofList []).provider,
    ⟨[("host", ⟨["events.src", "events.dst"], none⟩), ("void", ⟨[], none⟩)]⟩,
    [⟨"name", .ofType "events.name" .text, 0⟩], .lucene, "timestamp", "timestamp", [], .default⟩

/-- A search grouped by days and fields, one of them named twice. -/
def byVoid : SearchParams := ⟨"", none, ["day", "host", "void", "name", "host"], 0, none⟩

/-- A row that counts two events of a day. -/
def voidRows : ResultSet :=
  ⟨[.ok [.integer 2, .text "a", .null, .text "x", .integer 2024, .integer 3, .integer 1]], 1⟩

/-- The void takes no cell, the host two, and the day is put last. -/
theorem make_columns_void : ∃ plan, Plan.make voidSurface ⟨.fixed 0, none, []⟩ byVoid = .ok plan ∧
    plan.grouping.names = ["host", "void", "name", "day"] ∧
    plan.grouping.widths = [2, 0, 1, 1] ∧
    ∃ row, (Session.finish plan voidRows).rows[0]? = some (.ok row) ∧ row.length = 5 := by
  have hshape : (Plan.make voidSurface ⟨.fixed 0, none, []⟩ byVoid).toOption.map (fun plan =>
      (plan.retrievals.length, (Session.finish plan voidRows).rows[0]?.map (·.toBool)))
        = some (7, some true) := by
    decide +kernel
  cases hplan : Plan.make voidSurface ⟨.fixed 0, none, []⟩ byVoid with
  | error e =>
    rw [hplan] at hshape
    cases hshape
  | ok plan =>
    rw [hplan] at hshape
    obtain ⟨hseven, hgood⟩ := Prod.mk.inj (Option.some.inj hshape)
    obtain ⟨hsurface, -, hl, hrows⟩ :=
      (make_columns voidSurface ⟨.fixed 0, none, []⟩ byVoid).2.2.2.2 plan hplan
        (List.cons_ne_nil _ _)
    have haligned : ∀ raw : Row, .ok raw ∈ voidRows.rows → raw.length = plan.retrievals.length := by
      intro raw hraw
      obtain rfl := Except.ok.inj (List.mem_singleton.1 hraw)
      exact hseven.symm
    have hwidths : plan.grouping.widths = [2, 0, 1, 1] := by
      rw [hl.widths, hsurface]
      rfl
    refine ⟨plan, rfl, hl.names, hwidths, ?_⟩
    obtain ⟨first, hfirst, htrue⟩ := Option.map_eq_some_iff.1 hgood
    cases first with
    | error e => cases htrue
    | ok row =>
      obtain ⟨hlength, -⟩ := hrows voidRows haligned 0 row hfirst
      rw [hwidths] at hlength
      exact ⟨row, hfirst, hlength⟩

end EventSearch.Search
