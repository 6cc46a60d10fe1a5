/-
# `EventSearch.Proofs.ChartSteps` — which step is taken for a chart

The bars of a chart are as fine as a limit on their number allows.  `Step.forWindow` counts the whole
buckets of a window and drops what is left over, so the unit it takes is the finest for which the
window is shorter than one bucket more than the limit (`forWindow_finest`).  That is the finest for
which the window is no longer than the limit, unless the window overhangs: it is longer than that by
less than a bucket of some unit that is not the last resort.

| | |
| :-- | :-- |
| `Spans` | no more buckets than the limit are needed |
| `Overhangs` | one more is needed, and it is not filled |
| `Finest` | what is asked of a unit: it fits and no finer one does, or none fits and it is the year |

The smallest overhang shows with a limit of one: a minute and a half is given one bar of a minute.
-/
import EventSearch.Calendar.Window

namespace EventSearch.Calendar

/-- The length of a window in milliseconds. -/
def Window.length (w : Window) : Int := w.stop - w.start

namespace TimeUnit

/-! ## Finer units -/

/-- The width of a bucket in milliseconds. -/
def approxMillis (u : TimeUnit) : Int := u.approxSeconds * 1000

/-- Finer units need more calendar components. -/
def Finer (v u : TimeUnit) : Prop := u.precision < v.precision

theorem mem_all (u : TimeUnit) : u ∈ all := by cases u <;> decide

theorem all_finer : all.reverse.Pairwise Finer := by
  unfold Finer
  decide

theorem finer_year {u : TimeUnit} (h : u ≠ .year) : u.Finer .year := by
  cases u with
  | year => exact absurd rfl h
  | month | day | hour | minute => unfold Finer; decide

theorem finer_or_finer {u v : TimeUnit} (h : u ≠ v) : u.Finer v ∨ v.Finer u := by
  unfold Finer
  cases u <;> cases v <;> first | exact absurd rfl h | decide

/-- A bucket holds so many of any finer unit that one more makes no difference. -/
theorem succ_mul_approxMillis_le {v u : TimeUnit} (h : v.Finer u) {most : Int} (hmost : 1 ≤ most) :
    (most + 1) * v.approxMillis ≤ most * u.approxMillis := by
  have hlower : 2 * v.approxMillis ≤ u.approxMillis := by
    unfold Finer at h
    cases u <;> cases v <;> simp only [precision] at h <;> first | omega | decide
  have hpos : 0 ≤ v.approxMillis := by cases v <;> decide
  calc (most + 1) * v.approxMillis ≤ (most * 2) * v.approxMillis :=
        Int.mul_le_mul_of_nonneg_right (by omega) hpos
    _ = most * (2 * v.approxMillis) := Int.mul_assoc ..
    _ ≤ most * u.approxMillis := Int.mul_le_mul_of_nonneg_left hlower (by omega)

/-! ## The finest unit of some -/

/-- The finest unit with a property, or the year when no unit has it. -/
def Finest (p : TimeUnit → Prop) (u : TimeUnit) : Prop :=
  (p u ∧ ∀ v, v.Finer u → ¬ p v) ∨ u = .year ∧ ∀ v, ¬ p v

/-- Going through the units from the minute on finds the finest. -/
theorem finest_find (p : TimeUnit → Bool) :
    Finest (p · = true) ((all.reverse.find? p).getD .year) := by
  cases hfind : all.reverse.find? p with
  | none =>
    refine .inr ⟨rfl, fun v => ?_⟩
    exact List.find?_eq_none.1 hfind v (List.mem_reverse.2 v.mem_all)
  | some u =>
    obtain ⟨hu, finer, coarser, hall, hfiner⟩ := List.find?_eq_some_iff_append.1 hfind
    refine .inl ⟨hu, fun v hv hp => ?_⟩
    have horder := List.pairwise_append.1 (hall ▸ all_finer)
    have hmem : v ∈ finer ++ u :: coarser := hall ▸ List.mem_reverse.2 v.mem_all
    rcases List.mem_append.1 hmem with hbefore | hfrom
    · have hnot := hfiner v hbefore
      rw [hp] at hnot
      cases hnot
    · rcases List.mem_cons.1 hfrom with rfl | hafter
      · exact absurd hv (Nat.lt_irrefl _)
      · have huv := (List.pairwise_cons.1 horder.2.1).1 v hafter
        exact absurd hv (Nat.lt_asymm huv)

/-! ## Windows and buckets -/

/-- A window that is no longer than some buckets of a unit. -/
def Spans (w : Window) (most : Int) (u : TimeUnit) : Prop := w.length ≤ most * u.approxMillis

/-- A window that is longer than some buckets of a unit, but by less than a bucket. -/
def Overhangs (w : Window) (most : Int) (u : TimeUnit) : Prop :=
  most * u.approxMillis < w.length ∧ w.length < (most + 1) * u.approxMillis

/-- Whole buckets are counted: one that is begun does not count. -/
theorem whole_buckets_iff (w : Window) {most : Int} (hmost : 1 ≤ most) (u : TimeUnit) :
    max w.durationSeconds 1 / u.approxSeconds ≤ most ↔ w.length < (most + 1) * u.approxMillis := by
  have hwidth : 60 ≤ u.approxSeconds := by cases u <;> decide
  have hbound : 2 ≤ (most + 1) * u.approxSeconds := by
    have := Int.mul_le_mul (show (2 : Int) ≤ most + 1 by omega) hwidth (by decide) (by omega)
    omega
  have hlength : w.durationSeconds = w.length.tdiv 1000 := rfl
  rw [← Int.lt_add_one_iff, Int.ediv_lt_iff_lt_mul (by omega), approxMillis, ← Int.mul_assoc, hlength]
  generalize (most + 1) * u.approxSeconds = bound at hbound ⊢
  generalize w.length = n
  rcases Int.le_total 0 n with hn | hn
  · rw [Int.tdiv_eq_ediv_of_nonneg hn]
    omega
  · have hseconds : n.tdiv 1000 = -(-n / 1000) := by
      rw [← Int.tdiv_eq_ediv_of_nonneg (Int.neg_nonneg_of_nonpos hn), Int.neg_tdiv, Int.neg_neg]
    omega

/-- The finest unit for which the window is short enough is also the finest that spans it, unless the
window overhangs for some unit that is not the last resort. -/
theorem finest_spans_iff {w : Window} {most : Int} (hmost : 1 ≤ most) {u : TimeUnit}
    (h : Finest (fun v => w.length < (most + 1) * v.approxMillis) u) :
    Finest (Spans w most) u ↔ ∀ v : TimeUnit, v ≠ .year → ¬ Overhangs w most v := by
  have hshort : ∀ v, Spans w most v → w.length < (most + 1) * v.approxMillis := by
    intro v hv
    have hpos : 0 < v.approxMillis := by cases v <;> decide
    unfold Spans at hv
    rw [Int.add_mul]
    omega
  constructor
  · rintro hspans v hv ⟨hlong, hone⟩
    -- the unit is at least as fine as one that is short enough
    rcases h with ⟨hu, hfiner⟩ | ⟨-, hnone⟩
    · by_cases hvu : u.Finer v
      · have := succ_mul_approxMillis_le hvu hmost
        omega
      · have heq : u = v :=
          Decidable.byContradiction fun hne =>
            (finer_or_finer hne).elim hvu fun hvu => hfiner v hvu hone
        subst heq
        rcases hspans with ⟨hspans, -⟩ | ⟨hyear, -⟩
        · exact absurd hlong (Int.not_lt.2 hspans)
        · exact hv hyear
    · exact hnone v hone
  · intro hover
    rcases h with ⟨hu, hfiner⟩ | ⟨hyear, hnone⟩
    · by_cases hspans : Spans w most u
      · exact .inl ⟨hspans, fun v hv hs => hfiner v hv (hshort v hs)⟩
      · have hyear : u = .year := Decidable.byContradiction fun hne =>
          hover u hne ⟨Int.not_le.1 hspans, hu⟩
        subst hyear
        refine .inr ⟨rfl, fun v hs => ?_⟩
        by_cases hv : v = .year
        · exact hspans (hv ▸ hs)
        · exact hfiner v (finer_year hv) (hshort v hs)
    · exact .inr ⟨hyear, fun v hs => hnone v (hshort v hs)⟩

end TimeUnit

namespace Step

open TimeUnit

/-- The step of a window is one unit: the finest for which the window is shorter than one bucket more
than the limit.  It is the finest for which the window is within the limit exactly when the window
overhangs for no unit below the year. -/
theorem forWindow_finest (w : Window) {most : Int} (hmost : 1 ≤ most) :
    (forWindow w most).count = 1 ∧
      Finest (fun u => w.length < (most + 1) * u.approxMillis) (forWindow w most).unit ∧
      (Finest (Spans w most) (forWindow w most).unit ↔
        ∀ u : TimeUnit, u ≠ .year → ¬ Overhangs w most u) := by
  have hfinest : Finest (fun u => w.length < (most + 1) * u.approxMillis) (forWindow w most).unit := by
    have hfound : Finest (fun u => decide (max w.durationSeconds 1 / u.approxSeconds ≤ most) = true)
        (forWindow w most).unit := finest_find _
    simp only [decide_eq_true_eq, whole_buckets_iff w hmost] at hfound
    exact hfound
  exact ⟨rfl, hfinest, finest_spans_iff hmost hfinest⟩

/-- A day has an hour for its step when there may be a hundred bars, and overhangs for no unit. -/
theorem forWindow_finest_day : (1 : Int) ≤ 100 ∧ forWindow ⟨0, 86400000⟩ 100 = ⟨.hour, 1⟩ ∧
    Finest (Spans ⟨0, 86400000⟩ 100) .hour := by
  have hstep : forWindow ⟨0, 86400000⟩ 100 = ⟨.hour, 1⟩ := by decide
  have hover : ∀ u : TimeUnit, u ≠ .year → ¬ Overhangs ⟨0, 86400000⟩ 100 u := by
    intro u _
    unfold Overhangs
    cases u <;> decide
  have hmost : (1 : Int) ≤ 100 := by decide
  have hfinest := (forWindow_finest ⟨0, 86400000⟩ hmost).2.2.2 hover
  exact ⟨hmost, hstep, by rwa [hstep] at hfinest⟩

/-- A minute and a half is given a step of one minute where there may be one bar, though it is longer
than a minute and one hour spans it. -/
theorem forWindow_misses : forWindow ⟨0, 90000⟩ 1 = ⟨.minute, 1⟩ ∧
    Finest (Spans ⟨0, 90000⟩ 1) .hour ∧ ¬ Finest (Spans ⟨0, 90000⟩ 1) .minute := by
  have hminute : ¬ Spans ⟨0, 90000⟩ 1 .minute := by
    unfold Spans
    decide
  have hhour : Spans ⟨0, 90000⟩ 1 .hour := by
    unfold Spans
    decide
  refine ⟨by decide, .inl ⟨hhour, fun v hv => ?_⟩, ?_⟩
  · cases v with
    | minute => exact hminute
    | year | month | day | hour => exact absurd hv (by unfold Finer; decide)
  · rintro (⟨h, -⟩ | ⟨h, -⟩)
    · exact hminute h
    · cases h

end Step

end EventSearch.Calendar
