/-
# `EventSearch.Proofs.SinglePass` — a session executes once and hands its rows out once

A session is used by acts in any order: it is sorted, its result is asked for and read in part, its
chart is drawn.  What this asks of the provider is told by a provider that records its calls
(`recordedProvider`); a session over it answers as it did before (`playAll_recorded`).

A use of a session has two phases, either of which may be missing.

| | |
| :-- | :-- |
| `Waiting` | no execution succeeded: each act that needs the result sends the plan as it is ordered by then, and a failure leaves nothing behind |
| `Passing` | one execution succeeded and none is sent any more: the plan stays, each act takes rows in front of those that are left |

The second begins with the act whose execution succeeds (`plays_once`).  What is said of the rows
is said of the rows as a session hands them out, with calendar components put together.
-/
import EventSearch.Search.Chart
import Mathlib.Data.List.Forall2

namespace EventSearch.Search

open EventSearch.Calendar EventSearch.Data EventSearch.Provider

variable {σ : Type}

/-! ## Recorded calls -/

/-- A request that was sent to a provider, and its answer. -/
structure Call where
  request : Request
  answer : Except Error ResultSet

/-- A provider that keeps its calls beside its state. -/
def recordedProvider (p : Provider σ) : Provider (σ × List Call) where
  execute request state :=
    let (answer, next) := p.execute request state.1
    (answer, next, state.2 ++ [⟨request, answer⟩])
  paths := p.paths
  pathInfo := p.pathInfo
  label := p.label

/-- A surface whose calls are recorded. -/
def Surface.recorded (s : Surface σ) : Surface (σ × List Call) :=
  ⟨s.datatype, s.label, recordedProvider s.provider, s.translations, s.fields, s.defaultMode,
    s.defaultSort, s.timeField, s.defaultGroupby, s.highlight⟩

/-- A plan whose calls are recorded. -/
def Plan.recorded (p : Plan σ) : Plan (σ × List Call) :=
  ⟨p.surface.recorded, p.context, p.query, p.mode, p.criteria, p.allCriteria, p.grouping,
    p.retrievals, p.offset, p.limit⟩

/-- A session whose calls are recorded, behind those that were made before. -/
def Session.recorded (s : Session σ) (calls : List Call) : Session (σ × List Call) :=
  ⟨s.plan.recorded, s.result, (s.state, calls)⟩

/-! ## Acts -/

/-- What is done with a session. -/
inductive Act where
  | order (field direction : String)
  | sort (field : String) (d : Direction)
  /-- Ask for the result, and read some of its rows. -/
  | read (rows : Nat)
  | chart (step : Step)

/-- What an act tells. -/
inductive Answer where
  | silent
  | total (total : Except QueryError Nat)
  | bars (bars : Except QueryError (List Bar))

/-- What an act tells, and the rows that it takes out of the result. -/
structure Delivery where
  answer : Answer
  rows : List (Except Error Row)

/-- A delivery without a total, without rows and without bars. -/
def Delivery.Empty (d : Delivery) : Prop :=
  d.rows = [] ∧ match d.answer with
    | .silent => True
    | .total total => ∃ e, total = .error e
    | .bars bars => ∀ shown, bars = .ok shown → shown = []

/-- The rows that are read until one is bad, and this one. -/
def untilBad : List (Except Error Row) → List (Except Error Row)
  | [] => []
  | .error e :: _ => [.error e]
  | .ok row :: rows => .ok row :: untilBad rows

namespace Act

/-- The acts that need the result; a listing has no chart. -/
def asks (p : Plan σ) : Act → Bool
  | .order _ _ | .sort _ _ => false
  | .read _ => true
  | .chart _ => p.isAggregate

/-- The rows that an act takes from those that are left. -/
def takes (p : Plan σ) (rows : List (Except Error Row)) : Act → List (Except Error Row)
  | .order _ _ | .sort _ _ => []
  | .read n => rows.take n
  | .chart _ => if p.isAggregate then untilBad rows else []

end Act

namespace Plan

/-- The bars of some rows, if every one of them is good. -/
def barsOf (p : Plan σ) (step : Step) (rows : List (Except Error Row)) :
    Except QueryError (List Bar) :=
  match (Session.goodRows rows).1 with
  | .ok rows => .ok (rows.filterMap (p.bar? step))
  | .error e => .error (.provider e)

/-- The plan as an act orders it. -/
def after (p : Plan σ) : Act → Plan σ
  | .order field direction =>
    match Direction.ofName? direction with
    | some d => p.sortedBy field d
    | none => p
  | .sort field d => p.sortedBy field d
  | .read _ | .chart _ => p

/-- The plan as some acts order it. -/
def afterAll (p : Plan σ) (acts : List Act) : Plan σ := acts.foldl after p

/-- The requests of the acts that need the result, each with the order of its time. -/
def requests (p : Plan σ) : List Act → List Request
  | [] => []
  | a :: acts => (if a.asks p then [p.request] else []) ++ requests (p.after a) acts

end Plan

/-- What an act tells of a result with a total, when it takes some rows. -/
def Act.tells (p : Plan σ) (total : Nat) (rows : List (Except Error Row)) : Act → Answer
  | .order _ _ | .sort _ _ => .silent
  | .read _ => .total (.ok total)
  | .chart step => .bars (if p.isAggregate then p.barsOf step rows else .ok [])

namespace Session

/-- One act: what it delivers, and the session after it. -/
def play (s : Session σ) : Act → Delivery × Session σ
  | .order field direction => (⟨.silent, []⟩, s.orderBy field direction)
  | .sort field d => (⟨.silent, []⟩, s.sortBy field d)
  | .read n => (⟨.total s.total.1, (s.take n).1.toOption.getD []⟩, (s.take n).2)
  | .chart step =>
    let rows := if s.plan.isAggregate then s.run.1.toOption.elim [] (untilBad ·.rows) else []
    (⟨.bars (s.chart step).1, rows⟩, (s.chart step).2)

/-- Some acts, one after another. -/
def playAll (s : Session σ) : List Act → List Delivery × Session σ
  | [] => ([], s)
  | a :: acts =>
    let (delivery, s) := s.play a
    let (deliveries, s) := s.playAll acts
    (delivery :: deliveries, s)

/-! ## One act -/

theorem goodRows_untilBad (rows : List (Except Error Row)) :
    untilBad rows ++ (goodRows rows).2 = rows ∧
      goodRows (untilBad rows) = ((goodRows rows).1, []) := by
  induction rows with
  | nil => exact ⟨rfl, rfl⟩
  | cons row rows ih =>
    obtain ⟨happend, hgood⟩ := ih
    cases row with
    | error e => exact ⟨rfl, rfl⟩
    | ok row =>
      refine ⟨congrArg (Except.ok row :: ·) happend, ?_⟩
      simp only [untilBad, goodRows, hgood]

/-- An act takes rows in front of those that are left. -/
theorem takes_append (p : Plan σ) (rows : List (Except Error Row)) (a : Act) :
    a.takes p rows ++ rows.drop (a.takes p rows).length = rows := by
  refine List.prefix_iff_eq_append.1 ?_
  cases a with
  | order field direction => exact List.nil_prefix
  | sort field d => exact List.nil_prefix
  | read n => exact List.take_prefix n rows
  | chart step =>
    rw [Act.takes]
    split
    · exact ⟨_, (goodRows_untilBad rows).1⟩
    · exact List.nil_prefix

variable {s : Session σ}

/-- A session with a result answers with it and stays as it is. -/
theorem run_of_result {r : ResultSet} (h : s.result = some r) : s.run = (.ok r, s) := by
  rw [run, h]

/-- A session that is not executed sends its plan once. -/
theorem run_of_none (h : s.result = none) : s.run =
    match s.plan.surface.provider.execute s.plan.request s.state with
    | (.error e, state) => (.error (.provider e), { s with state })
    | (.ok r, state) =>
      (.ok (finish s.plan r), { s with result := some (finish s.plan r), state }) := by
  obtain ⟨plan, result, state⟩ := s
  obtain rfl : result = none := h
  rfl

/-- Collecting takes the rows until one is bad, and these decide what is told. -/
theorem chart_of_result {r : ResultSet} (h : s.result = some r) (ha : s.plan.isAggregate = true)
    (step : Step) : s.chart step =
      (s.plan.barsOf step (untilBad r.rows),
        s.leaving (r.rows.drop (untilBad r.rows).length) r) := by
  obtain ⟨happend, hgood⟩ := goodRows_untilBad r.rows
  have hunread := @List.drop_left _ (untilBad r.rows) (goodRows r.rows).2
  rw [happend] at hunread
  simp only [chart, ha, if_true, collect, run_of_result h, Plan.barsOf, hgood, hunread]
  cases goodRows r.rows with
  | mk answer unread => cases answer <;> rfl

/-- An act takes its rows in front of those that are left, and nothing else changes. -/
theorem play_of_result {r : ResultSet} (h : s.result = some r) (a : Act) : s.play a =
    (⟨a.tells s.plan r.total (a.takes s.plan r.rows), a.takes s.plan r.rows⟩,
      s.leaving (r.rows.drop (a.takes s.plan r.rows).length) r) := by
  have hsame : s.leaving r.rows r = s := by
    obtain ⟨plan, result, state⟩ := s
    obtain rfl := h
    rfl
  have hsort (field : String) (d : Direction) : s.sortBy field d = s := by
    rw [sortBy, h]
  cases a with
  | order field direction =>
    have horder : s.orderBy field direction = s := by
      rw [orderBy]
      cases Direction.ofName? direction with
      | none => rfl
      | some d => exact hsort field d
    simp only [play, horder, Act.tells, Act.takes, List.length_nil, List.drop_zero, hsame]
  | sort field d =>
    simp only [play, hsort, Act.tells, Act.takes, List.length_nil, List.drop_zero, hsame]
  | read n =>
    have hdrop : r.rows.drop (r.rows.take n).length = r.rows.drop n := by
      rw [List.length_take]
      rcases Nat.le_total n r.rows.length with hle | hle
      · rw [Nat.min_eq_left hle]
      · rw [Nat.min_eq_right hle, List.drop_length, List.drop_eq_nil_of_le hle]
    simp only [play, total, take, run_of_result h, Act.tells, Act.takes, hdrop]
    rfl
  | chart step =>
    cases ha : s.plan.isAggregate with
    | true =>
      simp only [play, chart_of_result h ha, run_of_result h, ha, if_true, Act.tells, Act.takes]
      rfl
    | false =>
      simp [play, chart, ha, Act.tells, Act.takes, hsame]

/-- An act that does not need the result orders the plan at most. -/
theorem play_quiet (h : s.result = none) {a : Act} (ha : a.asks s.plan = false) :
    (s.play a).1.Empty ∧ (s.play a).2 = { s with plan := s.plan.after a } := by
  have hsort (field : String) (d : Direction) :
      s.sortBy field d = { s with plan := s.plan.sortedBy field d } := by
    rw [sortBy, h]
  cases a with
  | order field direction =>
    refine ⟨⟨rfl, trivial⟩, ?_⟩
    simp only [play, orderBy, Plan.after]
    cases Direction.ofName? direction with
    | none => rfl
    | some d => exact hsort field d
  | sort field d => exact ⟨⟨rfl, trivial⟩, hsort field d⟩
  | read n => cases ha
  | chart step =>
    have hlisting : s.plan.isAggregate = false := ha
    simp only [play, chart, hlisting, Bool.false_eq_true, if_false, Plan.after]
    exact ⟨⟨rfl, fun shown hshown => (Except.ok.inj hshown).symm⟩, trivial⟩

/-- An act that needs a result starts from the session that runs. -/
theorem play_of_run {r : ResultSet} {t : Session σ} (hr : s.run = (.ok r, t))
    (ht : t.run = (.ok r, t)) (hp : t.plan = s.plan) {a : Act} (ha : a.asks s.plan = true) :
    s.play a = t.play a := by
  cases a with
  | order field direction => cases ha
  | sort field d => cases ha
  | read n => simp only [play, total, take, hr, ht]
  | chart step =>
    have haggregate : s.plan.isAggregate = true := ha
    simp only [play, chart, collect, hr, ht, hp, haggregate, if_true]

/-- A failed execution delivers nothing and leaves the plan as it is. -/
theorem play_of_error {e : Error} {state : σ} (h : s.result = none)
    (he : s.plan.surface.provider.execute s.plan.request s.state = (.error e, state)) {a : Act}
    (ha : a.asks s.plan = true) : (s.play a).1.Empty ∧ (s.play a).2 = { s with state } := by
  have hrun : s.run = (.error (.provider e), { s with state }) := by
    rw [run_of_none h, he]
  cases a with
  | order field direction => cases ha
  | sort field d => cases ha
  | read n =>
    simp only [play, total, take, hrun]
    exact ⟨⟨rfl, _, rfl⟩, trivial⟩
  | chart step =>
    have haggregate : s.plan.isAggregate = true := ha
    simp only [play, chart, collect, hrun, haggregate, if_true]
    exact ⟨⟨rfl, fun shown hshown => by cases hshown⟩, trivial⟩

/-- The first execution that succeeds gives the result that the act takes its rows from. -/
theorem play_of_ok {r : ResultSet} {state : σ} (h : s.result = none)
    (hr : s.plan.surface.provider.execute s.plan.request s.state = (.ok r, state)) {a : Act}
    (ha : a.asks s.plan = true) :
    s.play a = play { s with result := some (finish s.plan r), state } a := by
  have hrun :
      s.run = (.ok (finish s.plan r), { s with result := some (finish s.plan r), state }) := by
    rw [run_of_none h, hr]
  exact play_of_run hrun (run_of_result rfl) rfl ha

end Session

/-! ## Recording -/

section Recording

variable (p : Plan σ) (s : Session σ) (calls : List Call)

theorem narrow_recorded (step : Step) (values : List Value) (cursor : Nat) (params : Params)
    (groups : List (String × Nat)) : p.recorded.narrow step values cursor params groups
      = p.narrow step values cursor params groups := by
  induction groups generalizing cursor params with
  | nil => rfl
  | cons group groups ih =>
    obtain ⟨name, width⟩ := group
    simp only [Plan.narrow, ih]
    rfl

theorem bar?_recorded (step : Step) (row : Row) :
    p.recorded.bar? step row = p.bar? step row := by
  cases row with
  | nil => rfl
  | cons count cells =>
    simp only [Plan.bar?, Plan.link, narrow_recorded]
    rfl

theorem plan_recorded : (s.recorded calls).plan = s.plan.recorded := rfl

theorem isAggregate_recorded : p.recorded.isAggregate = p.isAggregate := rfl

/-- The calls that a session makes when its result is asked for. -/
def Session.callsOfRun : List Call :=
  match s.result with
  | some _ => []
  | none => [⟨s.plan.request, (s.plan.surface.provider.execute s.plan.request s.state).1⟩]

/-- The calls that an act makes. -/
def Session.callsOf (a : Act) : List Call := if a.asks s.plan then s.callsOfRun else []

theorem run_recorded :
    (s.recorded calls).run = (s.run.1, s.run.2.recorded (calls ++ s.callsOfRun)) := by
  obtain ⟨plan, result, state⟩ := s
  cases result with
  | some r => simp only [Session.run, Session.recorded, Session.callsOfRun, List.append_nil]
  | none =>
    have hexec : plan.recorded.surface.provider.execute plan.recorded.request (state, calls)
        = ((plan.surface.provider.execute plan.request state).1,
            (plan.surface.provider.execute plan.request state).2,
            calls ++ [⟨plan.request, (plan.surface.provider.execute plan.request state).1⟩]) := rfl
    simp only [Session.run, Session.recorded, Session.callsOfRun, hexec]
    obtain ⟨answer, next⟩ := plan.surface.provider.execute plan.request state
    cases answer <;> rfl

theorem sortBy_recorded (field : String) (d : Direction) :
    (s.recorded calls).sortBy field d = (s.sortBy field d).recorded calls := by
  obtain ⟨plan, result, state⟩ := s
  cases result <;> rfl

theorem orderBy_recorded (field direction : String) :
    (s.recorded calls).orderBy field direction = (s.orderBy field direction).recorded calls := by
  rw [Session.orderBy, Session.orderBy]
  cases Direction.ofName? direction with
  | none => rfl
  | some d => exact sortBy_recorded s calls field d

theorem take_recorded (n : Nat) : (s.recorded calls).take n
    = ((s.take n).1, (s.take n).2.recorded (calls ++ s.callsOfRun)) := by
  rw [Session.take, Session.take, run_recorded]
  obtain ⟨answer, t⟩ := s.run
  cases answer <;> rfl

theorem collect_recorded : (s.recorded calls).collect
    = (s.collect.1, s.collect.2.recorded (calls ++ s.callsOfRun)) := by
  rw [Session.collect, Session.collect, run_recorded]
  obtain ⟨answer, t⟩ := s.run
  cases answer with
  | error e => rfl
  | ok r =>
    simp only
    obtain ⟨good, unread⟩ := Session.goodRows r.rows
    cases good <;> rfl

/-- A record of the calls changes nothing in what an act delivers. -/
theorem play_recorded (a : Act) : (s.recorded calls).play a
    = ((s.play a).1, (s.play a).2.recorded (calls ++ s.callsOf a)) := by
  cases a with
  | order field direction =>
    simp [Session.play, orderBy_recorded, Session.callsOf, Act.asks]
  | sort field d => simp [Session.play, sortBy_recorded, Session.callsOf, Act.asks]
  | read n =>
    simp [Session.play, Session.total, run_recorded, take_recorded, Session.callsOf, Act.asks]
  | chart step =>
    cases ha : s.plan.isAggregate with
    | false =>
      simp [Session.play, Session.chart, Session.callsOf, Act.asks, plan_recorded,
        isAggregate_recorded, ha]
    | true =>
      simp only [Session.play, Session.chart, Session.callsOf, Act.asks, plan_recorded,
        isAggregate_recorded, ha, if_true, collect_recorded, run_recorded, bar?_recorded]

end Recording

/-- The calls that some acts make. -/
def Session.callsOfAll (s : Session σ) : List Act → List Call
  | [] => []
  | a :: acts => s.callsOf a ++ (s.play a).2.callsOfAll acts

theorem playAll_recorded (s : Session σ) (calls : List Call) (acts : List Act) :
    (s.recorded calls).playAll acts
      = ((s.playAll acts).1, (s.playAll acts).2.recorded (calls ++ s.callsOfAll acts)) := by
  induction acts generalizing s calls with
  | nil => simp [Session.playAll, Session.callsOfAll]
  | cons a acts ih =>
    simp only [Session.playAll, Session.callsOfAll, play_recorded, ih, List.append_assoc]

theorem playAll_append (s : Session σ) (acts more : List Act) : s.playAll (acts ++ more)
    = ((s.playAll acts).1 ++ ((s.playAll acts).2.playAll more).1,
        ((s.playAll acts).2.playAll more).2) := by
  induction acts generalizing s with
  | nil => rfl
  | cons a acts ih => simp only [List.cons_append, Session.playAll, ih]

/-! ## Uses of a session -/

/-- What was delivered, the session and its calls while no execution succeeded: each act that needed
the result sent the plan as it was ordered by then, every time in vain. -/
structure Waiting (p : Plan σ) (acts : List Act) (use : List Delivery × Session σ)
    (calls : List Call) : Prop where
  plan : use.2.plan = p.afterAll acts
  result : use.2.result = none
  requests : calls.map (·.request) = p.requests acts
  failed : ∀ call ∈ calls, ∃ e, call.answer = .error e
  empty : ∀ d ∈ use.1, d.Empty

/-- What is delivered, and the session, once an execution of a plan was answered by `r`: the plan
stays, every act tells the same total, and the rows are handed out in their order, none of them
twice. -/
structure Passing (p : Plan σ) (r : ResultSet) (acts : List Act)
    (use : List Delivery × Session σ) : Prop where
  plan : use.2.plan = p
  tells : List.Forall₂ (fun a d => d.answer = a.tells p r.total d.rows) acts use.1
  rows : ∃ unread, use.2.result = some ⟨unread, r.total⟩ ∧
    use.1.flatMap (·.rows) ++ unread = (Session.finish p r).rows

/-- The act `a` asks for the execution that succeeds, answered by `r`: it is the last call. -/
structure Succeeds (s : Session σ) (before : List Act) (a : Act) (after : List Act)
    (r : ResultSet) : Prop where
  waiting : Waiting s.plan before (s.playAll before) (s.callsOfAll before)
  asks : a.asks (s.plan.afterAll before) = true
  calls : s.callsOfAll (before ++ a :: after)
    = s.callsOfAll before ++ [⟨(s.plan.afterAll before).request, .ok r⟩]
  passing : Passing (s.plan.afterAll before) r (a :: after)
    ((s.playAll before).2.playAll (a :: after))

/-- A session with a result makes no call, keeps plan and total, and hands out what is left. -/
theorem playAll_of_result {s : Session σ} {r : ResultSet} (h : s.result = some r)
    (acts : List Act) : s.callsOfAll acts = [] ∧ (s.playAll acts).2.plan = s.plan ∧
      List.Forall₂ (fun a d => d.answer = a.tells s.plan r.total d.rows) acts (s.playAll acts).1 ∧
      ∃ unread, (s.playAll acts).2.result = some ⟨unread, r.total⟩ ∧
        (s.playAll acts).1.flatMap (·.rows) ++ unread = r.rows := by
  induction acts generalizing s r with
  | nil => exact ⟨rfl, rfl, .nil, r.rows, h, rfl⟩
  | cons a acts ih =>
    have hquiet : s.callsOf a = [] := by
      rw [Session.callsOf, Session.callsOfRun, h, ite_self]
    let left := r.rows.drop (a.takes s.plan r.rows).length
    have hplay := Session.play_of_result h a
    obtain ⟨hcalls, hplan, htells, unread, hresult, hrows⟩ :=
      @ih (s.leaving left r) ⟨left, r.total⟩ rfl
    simp only [Session.playAll, Session.callsOfAll, hplay, hquiet]
    refine ⟨hcalls, hplan, .cons rfl htells, unread, hresult, ?_⟩
    rw [List.flatMap_cons, List.append_assoc, hrows]
    exact Session.takes_append s.plan r.rows a

section Vain

variable {s : Session σ} {a : Act} (hempty : (s.play a).1.Empty)
  (hplan : (s.play a).2.plan = s.plan.after a)
  (hrequests : (s.callsOf a).map (·.request) = if a.asks s.plan then [s.plan.request] else [])
  (hfailed : ∀ call ∈ s.callsOf a, ∃ e, call.answer = .error e)

include hempty hplan hrequests hfailed

/-- An act in vain, and then some others. -/
theorem Waiting.cons {acts : List Act} (h : Waiting (s.play a).2.plan acts
      ((s.play a).2.playAll acts) ((s.play a).2.callsOfAll acts)) :
    Waiting s.plan (a :: acts) (s.playAll (a :: acts)) (s.callsOfAll (a :: acts)) := by
  rw [hplan] at h
  constructor
  · exact h.plan
  · exact h.result
  · rw [Session.callsOfAll, List.map_append, hrequests, h.requests, Plan.requests]
  · intro call hc
    exact (List.mem_append.1 hc).elim (hfailed call) (h.failed call)
  · intro d hd
    rcases List.mem_cons.1 hd with rfl | hd
    · exact hempty
    · exact h.empty d hd

/-- An act in vain, and then a success. -/
theorem Succeeds.cons {before after : List Act} {b : Act} {r : ResultSet}
    (h : Succeeds (s.play a).2 before b after r) : Succeeds s (a :: before) b after r := by
  have hafter : (s.play a).2.plan.afterAll before = s.plan.afterAll (a :: before) := by
    rw [hplan]
    rfl
  constructor
  · exact h.waiting.cons hempty hplan hrequests hfailed
  · rw [← hafter]
    exact h.asks
  · rw [List.cons_append, Session.callsOfAll, Session.callsOfAll, h.calls, hafter,
      List.append_assoc]
  · rw [← hafter]
    exact h.passing

end Vain

theorem waiting_nil {s : Session σ} (h : s.result = none) :
    Waiting s.plan [] (s.playAll []) (s.callsOfAll []) :=
  ⟨rfl, h, rfl, fun _ hc => absurd hc List.not_mem_nil, fun _ hd => absurd hd List.not_mem_nil⟩

/-- An act asks for an execution that succeeds: what follows is handed out of its result. -/
theorem succeeds_first {s : Session σ} {r : ResultSet} {state : σ} (h : s.result = none)
    (hr : s.plan.surface.provider.execute s.plan.request s.state = (.ok r, state)) {a : Act}
    (ha : a.asks s.plan = true) (after : List Act) : Succeeds s [] a after r := by
  let t : Session σ := { s with result := some (Session.finish s.plan r), state }
  have hplay : s.play a = t.play a := Session.play_of_ok h hr ha
  have hfirst : s.callsOf a = [⟨s.plan.request, .ok r⟩] := by
    simp [Session.callsOf, Session.callsOfRun, ha, h, hr]
  obtain ⟨hcalls, hplan, htells, hrows⟩ :=
    @playAll_of_result _ t (Session.finish s.plan r) rfl (a :: after)
  have hmore : (t.play a).2.callsOfAll after = [] := (List.append_eq_nil_iff.1 hcalls).2
  have htotal : (Session.finish s.plan r).total = r.total := by
    rw [Session.finish]
    cases s.plan.grouping.timeIndex <;> rfl
  have huse : s.playAll (a :: after) = t.playAll (a :: after) := by
    rw [Session.playAll, Session.playAll, hplay]
  have hall : s.callsOfAll (a :: after) = [⟨s.plan.request, .ok r⟩] := by
    rw [Session.callsOfAll, hfirst, hplay, hmore]
    rfl
  rw [htotal] at htells hrows
  constructor
  · exact waiting_nil h
  · exact ha
  · exact hall
  · show Passing s.plan r (a :: after) (s.playAll (a :: after))
    rw [huse]
    exact ⟨hplan, htells, hrows⟩

/-- A session without a result waits until an execution succeeds, if one does. -/
theorem waiting_or_succeeds {s : Session σ} (h : s.result = none) (acts : List Act) :
    Waiting s.plan acts (s.playAll acts) (s.callsOfAll acts) ∨
      ∃ before a after r, acts = before ++ a :: after ∧ Succeeds s before a after r := by
  induction acts generalizing s with
  | nil => exact .inl (waiting_nil h)
  | cons a acts ih =>
    -- an act in vain leaves a session without a result behind
    have hvain (hnext : (s.play a).2.result = none) (hempty : (s.play a).1.Empty)
        (hplan : (s.play a).2.plan = s.plan.after a)
        (hrequests : (s.callsOf a).map (·.request)
          = if a.asks s.plan then [s.plan.request] else [])
        (hfailed : ∀ call ∈ s.callsOf a, ∃ e, call.answer = .error e) :
        Waiting s.plan (a :: acts) (s.playAll (a :: acts)) (s.callsOfAll (a :: acts)) ∨
          ∃ before b after r, a :: acts = before ++ b :: after ∧ Succeeds s before b after r := by
      rcases ih hnext with hwaiting | ⟨before, b, after, r, rfl, hsucceeds⟩
      · exact .inl (hwaiting.cons hempty hplan hrequests hfailed)
      · exact .inr ⟨a :: before, b, after, r, rfl,
          hsucceeds.cons hempty hplan hrequests hfailed⟩
    -- an act that asks for nothing is in vain, and so is one whose execution fails
    cases ha : a.asks s.plan with
    | false =>
      obtain ⟨hempty, hnext⟩ := Session.play_quiet h ha
      have hcalls : s.callsOf a = [] := by
        simp [Session.callsOf, ha]
      refine hvain (by rw [hnext, h]) hempty (by rw [hnext]) (by simp [hcalls, ha]) ?_
      simp [hcalls]
    | true =>
      have hafter : s.plan.after a = s.plan := by
        cases a with
        | order field direction => cases ha
        | sort field d => cases ha
        | read n => rfl
        | chart step => rfl
      have hcalls : s.callsOf a = [⟨s.plan.request,
          (s.plan.surface.provider.execute s.plan.request s.state).1⟩] := by
        simp [Session.callsOf, Session.callsOfRun, ha, h]
      cases hexec : s.plan.surface.provider.execute s.plan.request s.state with
      | mk answer state =>
        rw [hexec] at hcalls
        cases answer with
        | error e =>
          obtain ⟨hempty, hnext⟩ := Session.play_of_error h hexec ha
          refine hvain (by rw [hnext, h]) hempty (by rw [hnext, hafter]) (by simp [hcalls, ha]) ?_
          intro call hc
          rw [hcalls] at hc
          obtain rfl := List.mem_singleton.1 hc
          exact ⟨e, rfl⟩
        | ok r => exact .inr ⟨[], a, acts, r, rfl, succeeds_first h hexec ha acts⟩

/-- A session is used in any way.  It waits until the first success, which is the last call, and
then hands out the rows of that one result, in order and none of them twice. -/
theorem plays_once (p : Plan σ) (state : σ) (acts : List Act) :
    let s := Session.start p state
    (s.recorded []).playAll acts
        = ((s.playAll acts).1, (s.playAll acts).2.recorded (s.callsOfAll acts)) ∧
      (Waiting p acts (s.playAll acts) (s.callsOfAll acts) ∨
        ∃ before a after r, acts = before ++ a :: after ∧ Succeeds s before a after r ∧
          ∃ unread, (s.playAll acts).2.result = some ⟨unread, r.total⟩ ∧
            (s.playAll acts).1.flatMap (·.rows) ++ unread
              = (Session.finish (p.afterAll before) r).rows ∧
            ∀ next, ((s.playAll acts).2.play next).1.rows
              = next.takes (p.afterAll before) unread) := by
  intro s
  refine ⟨playAll_recorded s [] acts, ?_⟩
  rcases waiting_or_succeeds (s := s) rfl acts with hwaiting | ⟨before, a, after, r, rfl, hs⟩
  · exact .inl hwaiting
  · obtain ⟨unread, hresult, hrows⟩ := hs.passing.rows
    have hnone : (s.playAll before).1.flatMap (·.rows) = [] :=
      List.flatMap_eq_nil_iff.2 fun d hd => (hs.waiting.empty d hd).1
    refine .inr ⟨before, a, after, r, rfl, hs, unread, ?_⟩
    rw [playAll_append, List.flatMap_append, hnone]
    refine ⟨hresult, hrows, fun next => ?_⟩
    rw [Session.play_of_result hresult next, hs.passing.plan]
    rfl

end EventSearch.Search
