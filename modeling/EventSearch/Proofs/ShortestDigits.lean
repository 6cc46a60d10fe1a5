/-
# `EventSearch.Proofs.ShortestDigits` — the shortest decimal lies within the interval

The search for the shortest decimal of a number tries one grid of decimals after the other.  What it
finds on a grid lies within the interval of the number (`onGrid?_eq_some`); on a grid that is fine
enough it finds something (`onGrid?_isSome`), and the last grids it tries are (`grid_fine`).  The
decimal it returns is therefore rounded to the number again (`shortest_spec`).
-/
import EventSearch.Proofs.Rounding

namespace EventSearch.Number

/-- The value of a decimal. -/
def Decimal.size (d : Decimal) : ℚ := d.digits * 10 ^ d.exponent

namespace Double

theorem ten_zpow_pos (p : Int) : (0 : ℚ) < 10 ^ p := zpow_pos (by norm_num) p

/-! ## The interval of a number -/

theorem ratio_spec (k : Nat) (e : Int) : 0 < (ratio k e).2 ∧
    ((ratio k e).1 : ℚ) / (ratio k e).2 = k * 2 ^ e := by
  cases e with
  | ofNat n => simp [ratio]
  | negSucc n =>
    refine ⟨Nat.pow_pos (by decide), ?_⟩
    simp [ratio, zpow_negSucc, div_eq_mul_inv]

/-- The ends of the interval of a number, over its denominator. -/
theorem interval_spec {m : Nat} (hm : 0 < m) (e : Int) : 0 < (interval m e).den ∧
    ((interval m e).low : ℚ) / (interval m e).den = (m - reach m e) * 2 ^ e ∧
    ((interval m e).num : ℚ) / (interval m e).den = m * 2 ^ e ∧
    ((interval m e).high : ℚ) / (interval m e).den = (m + 1 / 2) * 2 ^ e ∧
    (interval m e).closed = decide (m % 2 = 0) := by
  obtain ⟨hden, hscale⟩ := ratio_spec 1 (e - 2)
  have hquarter : (2 : ℚ) ^ (e - 2) = 2 ^ e / 4 := by
    rw [zpow_sub₀ (by norm_num)]
    norm_num
  rw [Nat.cast_one, one_mul, hquarter] at hscale
  have hsteps (a : Nat) : ((a * (ratio 1 (e - 2)).1 : Nat) : ℚ) / (ratio 1 (e - 2)).2
      = a / 4 * 2 ^ e := by
    rw [Nat.cast_mul, mul_div_assoc, hscale]
    ring
  refine ⟨hden, ?_, ?_, ?_, rfl⟩
  · rw [show (interval m e).low = (if Dense m e then 4 * m - 1 else 4 * m - 2) *
      (ratio 1 (e - 2)).1 from rfl, show (interval m e).den = (ratio 1 (e - 2)).2 from rfl, hsteps,
      reach]
    split
    · rw [Nat.cast_sub (by omega)]
      push_cast
      ring
    · rw [Nat.cast_sub (by omega)]
      push_cast
      ring
  · rw [show (interval m e).num = 4 * m * (ratio 1 (e - 2)).1 from rfl,
      show (interval m e).den = (ratio 1 (e - 2)).2 from rfl, hsteps]
    push_cast
    ring
  · rw [show (interval m e).high = (4 * m + 2) * (ratio 1 (e - 2)).1 from rfl,
      show (interval m e).den = (ratio 1 (e - 2)).2 from rfl, hsteps]
    push_cast
    ring

/-- `n · 10 ^ p` times a denominator, as a ratio. -/
def overDen (den n : Nat) (p : Int) : Nat × Nat :=
  match p with
  | .ofNat k => (n * Nat.pow 10 k * den, 1)
  | .negSucc k => (n * den, Nat.pow 10 (k + 1))

/-- A decimal is compared with a ratio in whole numbers. -/
theorem overDen_spec {den : Nat} (hd : 0 < den) (a n : Nat) (p : Int) :
    (a * (overDen den n p).2 ≤ (overDen den n p).1 ↔ (a : ℚ) / den ≤ n * 10 ^ p) ∧
      ((overDen den n p).1 ≤ a * (overDen den n p).2 ↔ (n : ℚ) * 10 ^ p ≤ a / den) := by
  have hden : (0 : ℚ) < den := by exact_mod_cast hd
  rw [div_le_iff₀ hden, le_div_iff₀ hden]
  cases p with
  | ofNat k =>
    simp only [overDen, Nat.pow_eq, Int.ofNat_eq_natCast, zpow_natCast, Nat.mul_one]
    exact ⟨by exact_mod_cast Iff.rfl, by exact_mod_cast Iff.rfl⟩
  | negSucc k =>
    have hpow : (0 : ℚ) < 10 ^ (k + 1) := by positivity
    have hmove : (n : ℚ) * (10 ^ (k + 1))⁻¹ * den = n * den / 10 ^ (k + 1) := by
      rw [div_eq_mul_inv]
      ring
    simp only [overDen, Nat.pow_eq, zpow_negSucc]
    rw [hmove, le_div_iff₀ hpow, div_le_iff₀ hpow]
    exact ⟨by exact_mod_cast Iff.rfl, by exact_mod_cast Iff.rfl⟩

theorem holds_eq (i : Interval) (n : Nat) (p : Int) : i.holds n p =
    if i.closed then
      decide (i.low * (overDen i.den n p).2 ≤ (overDen i.den n p).1) &&
        decide ((overDen i.den n p).1 ≤ i.high * (overDen i.den n p).2)
    else
      decide (i.low * (overDen i.den n p).2 < (overDen i.den n p).1) &&
        decide ((overDen i.den n p).1 < i.high * (overDen i.den n p).2) := by
  cases p <;> rfl

/-- The test of a decimal is whether it lies within the interval. -/
theorem holds_iff {m : Nat} (hm : 0 < m) (e : Int) (n : Nat) (p : Int) :
    (interval m e).holds n p = true ↔ Within m e (n * 10 ^ p) := by
  obtain ⟨hden, hlow, -, hhigh, hclosed⟩ := interval_spec hm e
  obtain ⟨hl1, hl2⟩ := overDen_spec hden (interval m e).low n p
  obtain ⟨hh1, hh2⟩ := overDen_spec hden (interval m e).high n p
  have hpos := two_zpow_pos e
  rw [hlow, ← le_div_iff₀ hpos] at hl1
  rw [hlow, ← div_le_iff₀ hpos] at hl2
  rw [hhigh, ← le_div_iff₀ hpos] at hh1
  rw [hhigh, ← div_le_iff₀ hpos] at hh2
  rw [holds_eq, hclosed]
  by_cases he : m % 2 = 0
  · simp only [he, decide_true, if_true, Bool.and_eq_true, decide_eq_true_eq]
    rw [hl1, hh2]
    exact ⟨fun h => ⟨h.1, h.2, .inl he⟩, fun h => ⟨h.low, h.high⟩⟩
  · simp only [he, decide_false, Bool.false_eq_true, if_false, Bool.and_eq_true, decide_eq_true_eq]
    rw [← not_le, ← not_le, hl2, hh1, not_le, not_le]
    exact ⟨fun h => ⟨h.1.le, h.2.le, .inr h⟩, fun h => h.even.resolve_left he⟩

/-! ## Grids -/

/-- A ratio in multiples of `10 ^ p`. -/
def inGrid (num den : Nat) (p : Int) : Nat × Nat :=
  match p with
  | .ofNat k => (num, den * Nat.pow 10 k)
  | .negSucc k => (num * Nat.pow 10 (k + 1), den)

theorem inGrid_spec (num : Nat) {den : Nat} (hd : 0 < den) (p : Int) : 0 < (inGrid num den p).2 ∧
    ((inGrid num den p).1 : ℚ) / (inGrid num den p).2 = num / den / 10 ^ p := by
  cases p with
  | ofNat k =>
    refine ⟨Nat.mul_pos hd (Nat.pow_pos (by decide)), ?_⟩
    simp [inGrid, div_div]
  | negSucc k =>
    refine ⟨hd, ?_⟩
    simp [inGrid, zpow_negSucc, mul_div_right_comm]

theorem neighbour_fst (i : Interval) (tie : Tie) (p : Int) :
    (i.neighbour tie p).1 = (inGrid i.num i.den p).1 / (inGrid i.num i.den p).2 := by
  cases p <;> rfl

/-- The neighbour of a number is the multiple next below it. -/
theorem neighbour_spec {m : Nat} (hm : 0 < m) (e : Int) (tie : Tie) (p : Int) :
    (((interval m e).neighbour tie p).1 : ℚ) * 10 ^ p ≤ m * 2 ^ e ∧
      (m : ℚ) * 2 ^ e < (((interval m e).neighbour tie p).1 + 1) * 10 ^ p := by
  obtain ⟨hden, -, hnum, -, -⟩ := interval_spec hm e
  obtain ⟨hg, hgrid⟩ := inGrid_spec (interval m e).num hden p
  have hgq : (0 : ℚ) < (inGrid (interval m e).num (interval m e).den p).2 := by exact_mod_cast hg
  rw [hnum] at hgrid
  have hpos := ten_zpow_pos p
  rw [neighbour_fst, ← le_div_iff₀ hpos, ← div_lt_iff₀ hpos, ← hgrid, le_div_iff₀ hgq,
    div_lt_iff₀ hgq]
  constructor
  · exact_mod_cast Nat.div_mul_le_self _ _
  · exact_mod_cast Nat.lt_mul_of_div_lt (Nat.lt_succ_self _) hg

/-- One decimal tried. -/
def hit? (i : Interval) (p : Int) (n : Nat) : Option Decimal :=
  if n ≠ 0 && i.holds n p then some ⟨n, p⟩ else none

/-- Both neighbours of a number are tried. -/
theorem onGrid?_eq (i : Interval) (tie : Tie) (p : Int) : i.onGrid? tie p =
    if (i.neighbour tie p).2 then
      (hit? i p ((i.neighbour tie p).1 + 1)).or (hit? i p (i.neighbour tie p).1)
    else (hit? i p (i.neighbour tie p).1).or (hit? i p ((i.neighbour tie p).1 + 1)) := by
  have hor (a b : Bool) (x y : Decimal) : (if a then some x else if b then some y else none)
      = (if a then some x else none).or (if b then some y else none) := by
    cases a <;> rfl
  simp only [Interval.onGrid?, hit?]
  cases (i.neighbour tie p).2 <;> exact hor _ _ _ _

theorem hit?_eq_some {m : Nat} (hm : 0 < m) {e : Int} {p : Int} {n : Nat} {d : Decimal}
    (h : hit? (interval m e) p n = some d) : d.digits ≠ 0 ∧ d.exponent = p ∧ Within m e d.size := by
  unfold hit? at h
  split at h
  · next hn =>
    rw [Bool.and_eq_true, decide_eq_true_eq] at hn
    obtain rfl := Option.some.inj h
    exact ⟨hn.1, rfl, (holds_iff hm e n p).1 hn.2⟩
  · cases h

/-- What is found on a grid lies within the interval. -/
theorem onGrid?_eq_some {m : Nat} (hm : 0 < m) {e : Int} {tie : Tie} {p : Int} {d : Decimal}
    (h : (interval m e).onGrid? tie p = some d) :
    d.digits ≠ 0 ∧ d.exponent = p ∧ Within m e d.size := by
  rw [onGrid?_eq] at h
  split at h
  · rcases Option.or_eq_some_iff.1 h with h | ⟨-, h⟩
    · exact hit?_eq_some hm h
    · exact hit?_eq_some hm h
  · rcases Option.or_eq_some_iff.1 h with h | ⟨-, h⟩
    · exact hit?_eq_some hm h
    · exact hit?_eq_some hm h

/-- A grid that is finer than a quarter of a step has a decimal of the interval. -/
theorem onGrid?_isSome {m : Nat} (hm : 0 < m) {e : Int} (tie : Tie) {p : Int}
    (hp : (10 : ℚ) ^ p ≤ 2 ^ (e - 2)) : ((interval m e).onGrid? tie p).isSome = true := by
  obtain ⟨hle, hlt⟩ := neighbour_spec hm e tie p
  have hpos := two_zpow_pos e
  have hone : (1 : ℚ) ≤ m := by exact_mod_cast hm
  have hquarter : (2 : ℚ) ^ (e - 2) = 2 ^ e / 4 := by
    rw [zpow_sub₀ (by norm_num)]
    norm_num
  rw [hquarter] at hp
  have hnear : ((m : ℚ) - 1 / 4) * 2 ^ e < (((interval m e).neighbour tie p).1 : ℚ) * 10 ^ p := by
    linarith
  have hne : ((interval m e).neighbour tie p).1 ≠ 0 := by
    intro hzero
    rw [hzero, Nat.cast_zero, zero_mul] at hnear
    have hfactor : (0 : ℚ) ≤ (m - 1 / 4) * 2 ^ e := mul_nonneg (by linarith) hpos.le
    linarith
  have hwithin : Within m e (((interval m e).neighbour tie p).1 * 10 ^ p) := by
    have hreach := (reach_bounds m e).1
    have hlow : (m : ℚ) - reach m e < ((interval m e).neighbour tie p).1 * 10 ^ p / 2 ^ e := by
      rw [lt_div_iff₀ hpos]
      exact lt_of_le_of_lt (mul_le_mul_of_nonneg_right (by linarith) hpos.le) hnear
    have hhigh : (((interval m e).neighbour tie p).1 : ℚ) * 10 ^ p / 2 ^ e < m + 1 / 2 := by
      rw [div_lt_iff₀ hpos]
      exact hle.trans_lt (mul_lt_mul_of_pos_right (by linarith) hpos)
    exact ⟨hlow.le, hhigh.le, .inr ⟨hlow, hhigh⟩⟩
  have hhit : (hit? (interval m e) p ((interval m e).neighbour tie p).1).isSome = true := by
    rw [hit?, if_pos (by simp [hne, (holds_iff hm e _ p).2 hwithin])]
    rfl
  rw [onGrid?_eq]
  split
  · rw [Option.isSome_or, hhit, Bool.or_true]
  · rw [Option.isSome_or, hhit, Bool.true_or]

/-! ## The search -/

/-- A search that comes to a grid with a decimal of the interval finds one. -/
theorem search_spec {m : Nat} (hm : 0 < m) {e : Int} {tie : Tie} {fuel : Nat} {p : Int}
    (h : ∃ j < fuel, ((interval m e).onGrid? tie (p - j)).isSome = true) :
    ((interval m e).search tie fuel p).digits ≠ 0 ∧
      p - fuel < ((interval m e).search tie fuel p).exponent ∧
      ((interval m e).search tie fuel p).exponent ≤ p ∧
      Within m e ((interval m e).search tie fuel p).size := by
  induction fuel generalizing p with
  | zero =>
    obtain ⟨j, hj, -⟩ := h
    cases hj
  | succ fuel ih =>
    cases hp : (interval m e).onGrid? tie p with
    | some d =>
      obtain ⟨hne, hexp, hwithin⟩ := onGrid?_eq_some hm hp
      simp only [Interval.search, hp]
      refine ⟨hne, ?_, hexp.le, hwithin⟩
      push_cast
      omega
    | none =>
      have hlater : ∃ j < fuel, ((interval m e).onGrid? tie (p - 1 - j)).isSome = true := by
        obtain ⟨j, hj, hsome⟩ := h
        cases j with
        | zero =>
          rw [Nat.cast_zero, Int.sub_zero, hp] at hsome
          cases hsome
        | succ j =>
          refine ⟨j, Nat.lt_of_succ_lt_succ hj, ?_⟩
          rwa [show p - 1 - (j : Int) = p - ((j + 1 : Nat) : Int) by push_cast; omega]
      obtain ⟨hne, hlow, hhigh, hwithin⟩ := ih hlater
      simp only [Interval.search, hp]
      refine ⟨hne, ?_, ?_, hwithin⟩
      · push_cast
        omega
      · omega

/-- Trailing zeros do not count. -/
theorem stripZeros_spec (fuel : Nat) (d : Decimal) : (d.stripZeros fuel).size = d.size ∧
    (d.digits ≠ 0 → (d.stripZeros fuel).digits ≠ 0) ∧ d.exponent ≤ (d.stripZeros fuel).exponent ∧
    (d.stripZeros fuel).exponent ≤ d.exponent + fuel := by
  induction fuel generalizing d with
  | zero => exact ⟨rfl, id, le_rfl, by simp [Decimal.stripZeros]⟩
  | succ fuel ih =>
    unfold Decimal.stripZeros
    split
    · next h =>
      obtain ⟨hsize, hne, hlow, hhigh⟩ := ih ⟨d.digits / 10, d.exponent + 1⟩
      refine ⟨?_, fun _ => hne (by simp only; omega), ?_, ?_⟩
      · have hten : (d.digits : ℚ) = 10 * ((d.digits / 10 : Nat) : ℚ) := by
          exact_mod_cast (Nat.mul_div_cancel' (Nat.dvd_of_mod_eq_zero h.2)).symm
        rw [hsize, Decimal.size, Decimal.size, hten, zpow_add₀ (by norm_num), zpow_one]
        ring
      · simp only at hlow
        omega
      · simp only at hhigh
        push_cast
        omega
    · refine ⟨rfl, id, le_rfl, ?_⟩
      push_cast
      omega

/-- `30103 / 100000` is just above the logarithm of two, by which the first grid is chosen. -/
theorem grid_fine_up : ∀ j < 1024, 10 ^ (j * 30103 / 100000) * 2 ^ 54 ≤ 10 ^ 17 * 2 ^ j := by
  decide +kernel

theorem grid_fine_down :
    ∀ j < 1075, 2 ^ 54 * 2 ^ j ≤ 10 ^ 17 * 10 ^ ((j * 30103 + 99999) / 100000) := by
  decide +kernel

/-- The last grid that is tried is finer than the steps of a number. -/
theorem grid_fine {k : Int} (hlow : -1074 ≤ k) (hhigh : k ≤ 1023) :
    (10 : ℚ) ^ (k * 30103 / 100000 - 17) ≤ 2 ^ (k - 54) := by
  have h10 : (0 : ℚ) < 10 ^ 17 := by norm_num
  have h2 : (0 : ℚ) < 2 ^ 54 := by norm_num
  rcases Int.le_total 0 k with h | h
  · obtain ⟨j, rfl⟩ := Int.eq_ofNat_of_zero_le h
    have hj := grid_fine_up j (by omega)
    rw [show (j : Int) * 30103 / 100000 = ((j * 30103 / 100000 : Nat) : Int) by push_cast; rfl,
      zpow_sub₀ (by norm_num), zpow_sub₀ (by norm_num), zpow_natCast, zpow_natCast]
    rw [show ((10 : ℚ) ^ (17 : Int)) = 10 ^ 17 by norm_cast,
      show ((2 : ℚ) ^ (54 : Int)) = 2 ^ 54 by norm_cast, div_le_div_iff₀ h10 h2, mul_comm (2 ^ j)]
    exact_mod_cast hj
  · obtain ⟨j, hj⟩ := Int.eq_ofNat_of_zero_le (Int.neg_nonneg.2 h)
    have hk : k = -(j : Int) := by omega
    subst hk
    have hj := grid_fine_down j (by omega)
    have hgrid : -(j : Int) * 30103 / 100000 - 17
        = -(((j * 30103 + 99999) / 100000 + 17 : Nat) : Int) := by
      push_cast
      omega
    have hstep : -(j : Int) - 54 = -((j + 54 : Nat) : Int) := by
      push_cast
      omega
    have hle : (2 : ℚ) ^ (j + 54) ≤ 10 ^ ((j * 30103 + 99999) / 100000 + 17) := by
      have hj : 2 ^ (j + 54) ≤ 10 ^ ((j * 30103 + 99999) / 100000 + 17) := by
        rwa [pow_add, pow_add, mul_comm, mul_comm (10 ^ ((j * 30103 + 99999) / 100000))]
      exact_mod_cast hj
    rw [hgrid, hstep, zpow_neg, zpow_neg, zpow_natCast, zpow_natCast]
    exact inv_anti₀ (by positivity) hle

/-! ## Shortest decimals -/

/-- The exponent of a canonical number in base two. -/
theorem magnitude_bounds {m : Nat} {e : Int} (hc : Canonical (.finite false m e)) (hm : 0 < m)
    {num den : Nat} (hd : 0 < den) (hq : (num : ℚ) / den = m * 2 ^ e) :
    e ≤ magnitude num den ∧ magnitude num den ≤ e + 52 := by
  have hpos := two_zpow_pos e
  have hone : (1 : ℚ) ≤ m := by exact_mod_cast hm
  have hlt : (m : ℚ) < 2 ^ 53 := by exact_mod_cast hc.1
  have hnum : 0 < num := by
    refine Nat.pos_of_ne_zero ?_
    rintro rfl
    rw [Nat.cast_zero, zero_div] at hq
    have hprod : (0 : ℚ) < m * 2 ^ e := mul_pos (by linarith) hpos
    linarith
  obtain ⟨hlow, hhigh⟩ := magnitude_spec hnum hd
  rw [hq] at hlow hhigh
  constructor
  · have hle : (2 : ℚ) ^ e ≤ m * 2 ^ e := by
      calc (2 : ℚ) ^ e = 1 * 2 ^ e := (one_mul _).symm
        _ ≤ m * 2 ^ e := mul_le_mul_of_nonneg_right hone hpos.le
    have hexp : e < magnitude num den + 1 :=
      (zpow_lt_zpow_iff_right₀ (by norm_num)).1 (hle.trans_lt hhigh)
    omega
  · have hexp : magnitude num den < e + (53 : Nat) := by
      refine (zpow_lt_zpow_iff_right₀ (by norm_num : (1 : ℚ) < 2)).1 (hlow.trans_lt ?_)
      rw [← pow_mul_zpow]
      exact mul_lt_mul_of_pos_right hlt hpos
    push_cast at hexp
    omega

/-- The shortest decimal of a number lies within its interval; its exponent is not far from zero. -/
theorem shortest_spec {m : Nat} {e : Int} (hc : Canonical (.finite false m e)) (hm : 0 < m)
    (tie : Tie) : (shortest tie m e).digits ≠ 0 ∧ Within m e (shortest tie m e).size ∧
      -400 < (shortest tie m e).exponent ∧ (shortest tie m e).exponent < 400 := by
  obtain ⟨hden, -, hnum, -, -⟩ := interval_spec hm e
  obtain ⟨hlow, hhigh⟩ := magnitude_bounds hc hm hden hnum
  obtain ⟨k, hk⟩ : ∃ k, k = magnitude (interval m e).num (interval m e).den := ⟨_, rfl⟩
  have hmin : -1074 ≤ e := hc.2.2.1
  have hmax : e ≤ 971 := hc.2.2.2
  rw [← hk] at hlow hhigh
  have hstart : (k * 30103).fdiv 100000 = k * 30103 / 100000 :=
    Int.fdiv_eq_ediv_of_nonneg _ (by decide)
  have hfine : (10 : ℚ) ^ (k * 30103 / 100000 + 2 - (19 : Nat)) ≤ 2 ^ (e - 2) := by
    rw [show k * 30103 / 100000 + 2 - ((19 : Nat) : Int) = k * 30103 / 100000 - 17 by
      push_cast; omega]
    exact (grid_fine (by omega) (by omega)).trans (zpow_le_zpow_right₀ (by norm_num) (by omega))
  obtain ⟨hne, hfrom, hto, hwithin⟩ := @search_spec m hm e tie 20 (k * 30103 / 100000 + 2)
    ⟨19, by decide, onGrid?_isSome hm tie hfine⟩
  obtain ⟨hsize, hstrip, hup, hdown⟩ := stripZeros_spec 20
    ((interval m e).search tie 20 (k * 30103 / 100000 + 2))
  have hshortest : shortest tie m e
      = ((interval m e).search tie 20 (k * 30103 / 100000 + 2)).stripZeros 20 := by
    rw [← hstart, hk]
    rfl
  rw [hshortest, hsize]
  push_cast at hfrom hdown
  exact ⟨hstrip hne, hwithin, by omega, by omega⟩

end Double

end EventSearch.Number
