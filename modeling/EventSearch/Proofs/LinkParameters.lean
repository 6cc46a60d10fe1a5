/-
# `EventSearch.Proofs.LinkParameters` — the parameters of a link

Four writers fill the parameters of a link, one after the other (`params_link`).

| writer | parameters | how |
| :-- | :-- | :-- |
| the caller's page | any | first |
| the window of the search | `timeline_mode`, `timeline_start`, `timeline_end` | put behind |
| the bucket of the row | the same three | set |
| the limit | `limit` | set |

What is set keeps distinct keys distinct, and what is put behind does not look at the keys before
it.  So a link names each parameter once, and the bucket's bounds are the only ones it tells,
exactly when there is no window or the caller's page has no parameter of that name
(`link_names_once`).  Else the parameter stands twice, and the bucket replaces the first of the two:
the bounds of the window are left behind it (`link_repeats`).
-/
import EventSearch.Proofs.CriterionLinks
import EventSearch.Proofs.Drilldown
import EventSearch.Proofs.GroupColumns
import EventSearch.Proofs.KeyedLists

namespace EventSearch.Search

open EventSearch.Text EventSearch.Calendar EventSearch.Data EventSearch.Query

variable {σ : Type}

/-! ## Parameters -/

/-- A parameter that is there, with one value wherever it stands. -/
def Params.Tell (params : Params) (key value : String) : Prop :=
  (key, value) ∈ params ∧ ∀ v, (key, v) ∈ params → v = value

theorem Params.tell_iff {params : Params} {key value : String} {more : List String}
    (h : valuesOf key params = value :: more) :
    params.Tell key value ↔ ∀ v ∈ more, v = value := by
  simp [Params.Tell, ← mem_valuesOf, h]

/-! ## Contexts -/

namespace Context

/-- The parameters that tell a window. -/
def windowKeys : List String := ["timeline_mode", "timeline_start", "timeline_end"]

/-- The parameters of the window of a context, if there is one. -/
def ownWindow (c : Context) : Params :=
  c.window.elim [] fun w => windowParams (w.start.tdiv 1000) (w.stop.tdiv 1000)

/-- No parameter of the caller's page has a name that the window of the search uses. -/
def Clear (c : Context) : Prop :=
  c.window.isSome = true → ∀ key ∈ windowKeys, key ∉ c.menu.map (·.1)

variable {c : Context}

theorem urlParams_eq (c : Context) : c.urlParams = c.menu ++ c.ownWindow := by
  rw [urlParams, ownWindow]
  cases c.window with
  | none => exact (List.append_nil _).symm
  | some w => rfl

/-- To put the window behind the other parameters is harmless when none has a name of it. -/
theorem nodup_urlParams (hm : (c.menu.map (·.1)).Nodup) :
    (c.urlParams.map (·.1)).Nodup ↔ c.Clear := by
  rw [urlParams_eq, List.map_append, ownWindow, Clear]
  cases c.window with
  | none => simpa using hm
  | some w =>
    have hwindow : windowKeys.Nodup := by decide
    have hkeys : (windowParams (w.start.tdiv 1000) (w.stop.tdiv 1000)).map (·.1) = windowKeys := rfl
    rw [Option.elim_some, hkeys, List.nodup_append', and_iff_right hm, and_iff_right hwindow]
    exact ⟨fun h _ key hkey hmenu => h hmenu hkey, fun h key hmenu hkey => h rfl key hkey hmenu⟩

/-- What stands behind the first value of a parameter of the window. -/
theorem tail_valuesOf_urlParams (hm : (c.menu.map (·.1)).Nodup) {key : String}
    {value : Window → String}
    (hw : ∀ w : Window,
      valuesOf key (windowParams (w.start.tdiv 1000) (w.stop.tdiv 1000)) = [value w]) :
    (valuesOf key c.urlParams).tail
      = if key ∈ c.menu.map (·.1) then (c.window.map value).toList else [] := by
  have hown : valuesOf key c.ownWindow = (c.window.map value).toList := by
    rw [ownWindow]
    cases c.window with
    | none => rfl
    | some w => exact hw w
  rw [urlParams_eq, valuesOf_append, hown]
  split
  · next hkey =>
    obtain ⟨⟨k, v⟩, hmem, rfl⟩ := List.mem_map.1 hkey
    rw [valuesOf_of_mem hm hmem]
    rfl
  · next hkey =>
    rw [valuesOf_eq_nil.2 hkey, List.nil_append]
    cases c.window <;> rfl

end Context

/-! ## Buckets of rows -/

namespace Plan

/-- The start of the bucket of a row, which comes without its count: what the cell tells that the
calendar components were put together to. -/
def bucketStart? (p : Plan σ) (values : List Value) : Option Timestamp :=
  p.grouping.timeIndex.bind fun index => values[index - 1]?.bind Value.asTimestamp?

/-- The last second of a bucket, or its start when it ends beyond the years in use. -/
def bucketStop (p : Plan σ) (step : Step) (start : Timestamp) : Timestamp :=
  (step.bucketEnd? start p.context.zone).getD start

variable {p : Plan σ}

/-- The groups of a plan: fields, and behind them at most one time unit, one column wide. -/
theorem Planned.groups (h : p.Planned) : ∃ fields : List (String × Nat),
    (∀ field ∈ fields, TimeUnit.isTemporal field.1 = false) ∧
      (p.grouping.names.zip p.grouping.widths = fields ∧ p.grouping.timeIndex = none ∨
        ∃ u : TimeUnit, p.grouping.names.zip p.grouping.widths = fields ++ [(u.name, 1)] ∧
          p.grouping.timeIndex = some ((fields.map (·.2)).sum + 1)) := by
  induction h with
  | @made s context params p h =>
    by_cases hne : params.groupby = []
    · have hnone : p.grouping.names.zip p.grouping.widths = [] ∧ p.grouping.timeIndex = none := by
        rcases (make_cases h).2 with hg | hg
        · rw [hg]
          exact ⟨rfl, rfl⟩
        · rw [hne] at hg
          rw [← Except.ok.inj hg]
          exact ⟨rfl, rfl⟩
      exact ⟨[], fun _ hf => absurd hf List.not_mem_nil, .inl hnone⟩
    · obtain ⟨rfl, -, hl⟩ := make_laidOut h hne
      let width (name : String) : Nat := (p.surface.groupColumns name).length
      have hzip : p.grouping.names.zip p.grouping.widths
          = params.groupFields.map (fun name => (name, width name)) ++
            params.unit?.toList.map fun u => (u.name, 1) := by
        rw [hl.names, hl.widths, List.zip_append (List.length_map _).symm, List.zip_map',
          List.map_prod_left_eq_zip]
      refine ⟨params.groupFields.map fun name => (name, width name), ?_, ?_⟩
      · intro field hfield
        obtain ⟨name, hname, rfl⟩ := List.mem_map.1 hfield
        exact (mem_groupFields.1 hname).2
      · rw [hzip, hl.timeIndex]
        cases params.unit? with
        | none => exact .inl ⟨List.append_nil _, rfl⟩
        | some u =>
          refine .inr ⟨u, rfl, ?_⟩
          rw [Option.map_some, List.length_flatMap, List.map_map, Nat.add_comm]
          rfl
  | ordered field direction _ ih => exact ih

/-- Fields leave the parameters as they are. -/
theorem narrow_fields_params (step : Step) (values : List Value) (params : Params)
    {fields : List (String × Nat)} (h : ∀ field ∈ fields, TimeUnit.isTemporal field.1 = false)
    (cursor : Nat) (groups : List (String × Nat)) :
    (p.narrow step values cursor params (fields ++ groups)).2
      = (p.narrow step values (cursor + (fields.map (·.2)).sum) params groups).2 := by
  induction fields generalizing cursor with
  | nil => rfl
  | cons field fields ih =>
    obtain ⟨name, width⟩ := field
    obtain ⟨hname, hfields⟩ := List.forall_mem_cons.1 h
    have hrest := ih hfields (cursor + width)
    simp only [List.cons_append, narrow, hname, Bool.false_eq_true, if_false, hrest, List.map_cons,
      List.sum_cons, Nat.add_assoc]

/-- A time unit reads its own cell. -/
theorem narrow_unit_params (step : Step) (values : List Value) (params : Params) (u : TimeUnit)
    (cursor : Nat) : (p.narrow step values cursor params [(u.name, 1)]).2
      = (values[cursor]?.bind Value.asTimestamp?).elim params
          fun start => p.bucketParams step start params := by
  have htemporal : TimeUnit.isTemporal u.name = true := by
    rw [TimeUnit.isTemporal, ofName?_name]
    rfl
  have hcell : (firstCell (slice cursor 1 values)).asTimestamp?
      = values[cursor]?.bind Value.asTimestamp? := by
    rw [slice]
    split
    · next hlength =>
      rw [List.take_one_drop_eq_of_lt_length (by omega), List.getElem?_eq_getElem (by omega)]
      exact congrArg Value.asTimestamp? (firstCell_singleton _)
    · next hlength =>
      rw [List.getElem?_eq_none (by omega)]
      rfl
  simp only [narrow, htemporal, if_true, hcell]
  cases values[cursor]?.bind Value.asTimestamp? <;> rfl

/-- What a link sets behind the parameters of its context. -/
def linkUpdates (p : Plan σ) (values : List Value) (step : Step) : Params :=
  ((p.bucketStart? values).elim [] fun start =>
      Context.windowParams start.unixSeconds (p.bucketStop step start).unixSeconds) ++
    p.limit.toList.map fun n => ("limit", toString n)

theorem params_link (h : p.Planned) (values : List Value) (step : Step) :
    (p.link values step).params = setAll (p.linkUpdates values step) p.context.urlParams := by
  have hbucket : (p.narrow step values 0 p.context.urlParams
      (p.grouping.names.zip p.grouping.widths)).2
        = (p.bucketStart? values).elim p.context.urlParams
            fun start => p.bucketParams step start p.context.urlParams := by
    obtain ⟨fields, hfields, ⟨hgroups, hindex⟩ | ⟨u, hgroups, hindex⟩⟩ := h.groups
    · have hnone := narrow_fields_params (p := p) step values p.context.urlParams hfields 0 []
      rw [List.append_nil] at hnone
      rw [hgroups, bucketStart?, hindex, hnone]
      rfl
    · rw [hgroups, bucketStart?, hindex, narrow_fields_params step values _ hfields,
        narrow_unit_params, Nat.zero_add]
      rfl
  have hlink : (p.link values step).params = (p.limit.toList.map fun n => ("limit", toString n)).foldl
      (fun params u => upsert u.1 u.2 params) (p.narrow step values 0 p.context.urlParams
        (p.grouping.names.zip p.grouping.widths)).2 := by
    rw [link]
    cases p.limit <;> rfl
  rw [hlink, hbucket, setAll, linkUpdates, List.foldl_append]
  cases p.bucketStart? values <;> rfl

end Plan

/-! ## Links -/

section Links

variable {p : Plan σ} (hp : p.Planned) (hm : (p.context.menu.map (·.1)).Nodup)
  (values : List Value) (step : Step)

/-- The bounds of a bucket are set once. -/
theorem valuesOf_linkUpdates {start : Timestamp} (h : p.bucketStart? values = some start) :
    valuesOf "timeline_start" (p.linkUpdates values step) = [toString start.unixSeconds] ∧
      valuesOf "timeline_end" (p.linkUpdates values step)
        = [toString (p.bucketStop step start).unixSeconds] := by
  rw [Plan.linkUpdates, h]
  cases p.limit <;> simp [valuesOf, Context.windowParams]

/-- Nothing but a window and the limit is set. -/
theorem valuesOf_linkUpdates_eq_nil {key : String} (hwindow : key ∉ Context.windowKeys)
    (hlimit : key ≠ "limit") : valuesOf key (p.linkUpdates values step) = [] := by
  have hbucket : key ∉ ((p.bucketStart? values).elim [] fun start => Context.windowParams
      start.unixSeconds (p.bucketStop step start).unixSeconds).map (·.1) := by
    cases p.bucketStart? values with
    | none => exact List.not_mem_nil
    | some start => exact hwindow
  have hpaging : key ∉ (p.limit.toList.map fun n => ("limit", toString n)).map (·.1) := by
    cases p.limit with
    | none => exact List.not_mem_nil
    | some n => exact fun h => hlimit (List.mem_singleton.1 h)
  rw [Plan.linkUpdates, valuesOf_append, valuesOf_eq_nil.2 hbucket, valuesOf_eq_nil.2 hpaging]
  rfl

include hp hm

/-- A parameter that neither a window nor the limit has keeps its value. -/
theorem valuesOf_link {key value : String} (h : (key, value) ∈ p.context.menu)
    (hwindow : key ∉ Context.windowKeys) (hlimit : key ≠ "limit") :
    valuesOf key (p.link values step).params = [value] := by
  have hown : valuesOf key p.context.ownWindow = [] := by
    rw [Context.ownWindow]
    cases p.context.window with
    | none => rfl
    | some w => exact valuesOf_eq_nil.2 hwindow
  rw [Plan.params_link hp, valuesOf_setAll, valuesOf_linkUpdates_eq_nil values step hwindow hlimit,
    Context.urlParams_eq, valuesOf_append, hown, valuesOf_of_mem hm h]
  rfl

/-- The bound of a bucket comes first, and the bound of the window stays behind it when the caller's
page has a parameter of that name. -/
theorem tell_bound {key : String} {bound : Window → Int} {seconds : Int}
    (hset : valuesOf key (p.linkUpdates values step) = [toString seconds])
    (hw : ∀ w : Window, valuesOf key (Context.windowParams (w.start.tdiv 1000) (w.stop.tdiv 1000))
      = [toString (bound w)]) :
    Params.Tell (p.link values step).params key (toString seconds) ↔
      ∀ w, p.context.window = some w → key ∈ p.context.menu.map (·.1) → bound w = seconds := by
  have hvalues : valuesOf key (p.link values step).params = toString seconds ::
      (valuesOf key p.context.urlParams).tail := by
    rw [Plan.params_link hp, valuesOf_setAll, hset]
    rfl
  rw [Params.tell_iff hvalues, Context.tail_valuesOf_urlParams hm hw]
  cases p.context.window with
  | none => simp
  | some w =>
    by_cases hkey : key ∈ p.context.menu.map (·.1)
    · rw [if_pos hkey]
      simp only [Option.map_some, Option.toList_some, List.forall_mem_singleton, Option.some.injEq,
        forall_eq', hkey, forall_const]
      exact ⟨Number.Double.toString_injective, fun h => by rw [h]⟩
    · rw [if_neg hkey]
      simp [hkey]

/-- What the parameters of a link tell, whatever the row holds.  Each stands once exactly when the
window of the search, if there is one, meets no parameter of the caller's page; those of the page
that neither a window nor the limit has keep their values.  When the cell of the time unit tells the
start of a bucket, each bound of the bucket is told exactly when the one that the window leaves
behind it, if any, is the same. -/
theorem link_names_once :
    (((p.link values step).params.map (·.1)).Nodup ↔ p.context.Clear) ∧
      (∀ key value, (key, value) ∈ p.context.menu → key ∉ Context.windowKeys → key ≠ "limit" →
        valuesOf key (p.link values step).params = [value]) ∧
      ∀ start, p.bucketStart? values = some start →
        (Params.Tell (p.link values step).params "timeline_start" (toString start.unixSeconds) ↔
          ∀ w, p.context.window = some w → "timeline_start" ∈ p.context.menu.map (·.1) →
            w.start.tdiv 1000 = start.unixSeconds) ∧
        (Params.Tell (p.link values step).params "timeline_end"
            (toString (p.bucketStop step start).unixSeconds) ↔
          ∀ w, p.context.window = some w → "timeline_end" ∈ p.context.menu.map (·.1) →
            w.stop.tdiv 1000 = (p.bucketStop step start).unixSeconds) := by
  refine ⟨?_, fun key value h hwindow hlimit => valuesOf_link hp hm values step h hwindow hlimit, ?_⟩
  · rw [Plan.params_link hp, nodup_setAll, Context.nodup_urlParams hm]
  · intro start hstart
    obtain ⟨hfirst, hlast⟩ := valuesOf_linkUpdates values step hstart
    refine ⟨tell_bound hp hm values step hfirst ?_, tell_bound hp hm values step hlast ?_⟩
    · intro w
      simp [valuesOf, Context.windowParams]
    · intro w
      simp [valuesOf, Context.windowParams]

end Links

/-! ## Samples -/

/-- The plan of a search by days in a window of 1000 seconds, limited to 20 rows. -/
def windowedPlan (menu : Params) : Plan Unit :=
  bucketPlan (timedSurface .empty) ⟨.fixed 0, some ⟨0, 1000000⟩, menu⟩ "" .lucene .empty .day 0
    (some 20)

theorem planned_windowedPlan (menu : Params) : (windowedPlan menu).Planned := by
  have hmake : Plan.make (timedSurface .empty) ⟨.fixed 0, some ⟨0, 1000000⟩, menu⟩
      ⟨"", none, ["day"], 0, some 20⟩ = .ok (windowedPlan menu) := make_bucketed (u := .day) rfl
  exact .made hmake

/-- The first of March 2024. -/
def marchStart : Timestamp := ⟨⟨1709251200, 0⟩, 0⟩

/-- A page with parameters of its own and a limit: all stand once, as do the bounds of the day. -/
theorem link_names_once_page :
    let p := windowedPlan [("menu", "events"), ("limit", "5")]
    let l := p.link [.timestamp marchStart] ⟨.day, 1⟩
    p.Planned ∧ (l.params.map (·.1)).Nodup ∧ valuesOf "menu" l.params = ["events"] ∧
      Params.Tell l.params "timeline_start" "1709251200" ∧
      Params.Tell l.params "timeline_end" "1709337599" := by
  intro p l
  have hp : p.Planned := planned_windowedPlan _
  have hclear : p.context.Clear := fun _ => by decide
  have hstart : p.bucketStart? [.timestamp marchStart] = some marchStart := by decide +kernel
  have hfirst : toString marchStart.unixSeconds = "1709251200" := by decide +kernel
  have hlast : toString (p.bucketStop ⟨.day, 1⟩ marchStart).unixSeconds = "1709337599" := by
    decide +kernel
  obtain ⟨hnodup, hmenu, hbounds⟩ :=
    link_names_once hp (by decide) [.timestamp marchStart] ⟨.day, 1⟩
  obtain ⟨hbegin, hend⟩ := hbounds marchStart hstart
  rw [hfirst] at hbegin
  rw [hlast] at hend
  refine ⟨hp, hnodup.2 hclear, hmenu "menu" "events" List.mem_cons_self (by decide) (by decide),
    hbegin.2 ?_, hend.2 ?_⟩
  · intro w _ hmem
    exact absurd hmem (by decide)
  · intro w _ hmem
    exact absurd hmem (by decide)

/-- A page that has the parameters of a window gets them twice, and the search that the link opens
is told two windows: the day and, behind it, what the day was found in. -/
theorem link_repeats :
    let page : Params := [("timeline_mode", "custom"), ("timeline_start", "5"), ("timeline_end", "6")]
    let p := windowedPlan page
    let l := p.link [.timestamp marchStart] ⟨.day, 1⟩
    p.Planned ∧ (page.map (·.1)).Nodup ∧ p.bucketStart? [.timestamp marchStart] = some marchStart ∧
      l.params = [("timeline_mode", "custom"), ("timeline_start", "1709251200"),
        ("timeline_end", "1709337599"), ("timeline_mode", "custom"), ("timeline_start", "0"),
        ("timeline_end", "1000"), ("limit", "20")] ∧
      ¬ (l.params.map (·.1)).Nodup ∧
      ¬ Params.Tell l.params "timeline_start" (toString marchStart.unixSeconds) := by
  intro page p l
  have hparams : l.params = [("timeline_mode", "custom"), ("timeline_start", "1709251200"),
      ("timeline_end", "1709337599"), ("timeline_mode", "custom"), ("timeline_start", "0"),
      ("timeline_end", "1000"), ("limit", "20")] := by decide +kernel
  refine ⟨planned_windowedPlan _, by decide, by decide +kernel, hparams, ?_, ?_⟩
  · rw [hparams]
    decide
  · rintro ⟨-, hone⟩
    have hzero : ("timeline_start", "0") ∈ l.params := by
      rw [hparams]
      decide
    have hsame := hone "0" hzero
    exact absurd hsame (by decide +kernel)

end EventSearch.Search
