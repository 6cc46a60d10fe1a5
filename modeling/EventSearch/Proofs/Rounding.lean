/-
# `EventSearch.Proofs.Rounding` — a number is the nearest one to all of its interval

Sizes are compared as rational numbers.  `magnitude` is the exponent of a ratio in base two
(`magnitude_spec`), `inSteps` the nearest whole number of steps (`inSteps_spec`), so rounding
returns canonical numbers (`canonical_roundRatio`) and takes every ratio within the interval of a
canonical number to that number (`roundRatio_within`).
-/
import Mathlib.Algebra.Order.Field.Power
import Mathlib.Data.Rat.Cast.Order
import Mathlib.Tactic.FieldSimp
import Mathlib.Tactic.Linarith
import Mathlib.Tactic.NormNum
import Mathlib.Tactic.Positivity
import Mathlib.Tactic.Ring
import EventSearch.Number.Shortest

namespace EventSearch.Number.Double

/-! ## Powers of two -/

theorem two_zpow_pos (e : Int) : (0 : ℚ) < 2 ^ e := zpow_pos (by norm_num) e

theorem two_zpow_succ (e : Int) : (2 : ℚ) ^ (e + 1) = 2 * 2 ^ e := by
  rw [zpow_add₀ (by norm_num), zpow_one, mul_comm]

/-- The exponents of two powers that hold the same number between them and their doubles. -/
theorem exponent_unique {q : ℚ} {a b : Int} (ha : (2 : ℚ) ^ a ≤ q ∧ q < 2 ^ (a + 1))
    (hb : (2 : ℚ) ^ b ≤ q ∧ q < 2 ^ (b + 1)) : a = b := by
  have hab : a < b + 1 := (zpow_lt_zpow_iff_right₀ (by norm_num)).1 (ha.1.trans_lt hb.2)
  have hba : b < a + 1 := (zpow_lt_zpow_iff_right₀ (by norm_num)).1 (hb.1.trans_lt ha.2)
  omega

/-! ## Magnitudes -/

/-- Whether a ratio is at least a power of two, in whole numbers. -/
def reaches (num den : Nat) (e : Int) : Bool :=
  match e with
  | .ofNat k => den * Nat.pow 2 k ≤ num
  | .negSucc k => den ≤ num * Nat.pow 2 (k + 1)

theorem reaches_iff (num : Nat) {den : Nat} (hd : 0 < den) (e : Int) :
    reaches num den e = true ↔ (2 : ℚ) ^ e ≤ (num : ℚ) / den := by
  have hden : (0 : ℚ) < den := by exact_mod_cast hd
  rw [le_div_iff₀ hden]
  cases e with
  | ofNat k =>
    simp only [reaches, decide_eq_true_eq, Nat.pow_eq, Int.ofNat_eq_natCast, zpow_natCast]
    rw [mul_comm]
    exact_mod_cast Iff.rfl
  | negSucc k =>
    have hpow : (0 : ℚ) < 2 ^ (k + 1) := by positivity
    simp only [reaches, decide_eq_true_eq, Nat.pow_eq, zpow_negSucc]
    rw [inv_mul_le_iff₀ hpow, mul_comm]
    exact_mod_cast Iff.rfl

theorem log2_bounds {n : Nat} (hn : 0 < n) : (2 : ℚ) ^ (n.log2 : Int) ≤ n ∧
    (n : ℚ) < 2 ^ ((n.log2 : Int) + 1) := by
  have hlow := Nat.log2_self_le (Nat.pos_iff_ne_zero.1 hn)
  have hhigh : n < 2 ^ (n.log2 + 1) := Nat.lt_log2_self
  rw [zpow_natCast, show (n.log2 : Int) + 1 = ((n.log2 + 1 : Nat) : Int) by push_cast; rfl,
    zpow_natCast]
  exact ⟨by exact_mod_cast hlow, by exact_mod_cast hhigh⟩

/-- The magnitude of a ratio is its exponent in base two. -/
theorem magnitude_spec {num den : Nat} (hn : 0 < num) (hd : 0 < den) :
    (2 : ℚ) ^ magnitude num den ≤ (num : ℚ) / den ∧
      (num : ℚ) / den < 2 ^ (magnitude num den + 1) := by
  have hden : (0 : ℚ) < den := by exact_mod_cast hd
  obtain ⟨hn1, hn2⟩ := log2_bounds hn
  obtain ⟨hd1, hd2⟩ := log2_bounds hd
  have hpos := two_zpow_pos
  -- the difference of the logarithms is the exponent or one more
  have hupper : (num : ℚ) / den < 2 ^ ((num.log2 : Int) - den.log2 + 1) := by
    rw [div_lt_iff₀ hden]
    calc (num : ℚ) < 2 ^ ((num.log2 : Int) + 1) := hn2
      _ = 2 ^ ((num.log2 : Int) - den.log2 + 1) * 2 ^ (den.log2 : Int) := by
        rw [← zpow_add₀ (by norm_num)]
        ring_nf
      _ ≤ 2 ^ ((num.log2 : Int) - den.log2 + 1) * den :=
        mul_le_mul_of_nonneg_left hd1 (hpos _).le
  have hlower : (2 : ℚ) ^ ((num.log2 : Int) - den.log2 - 1) ≤ (num : ℚ) / den := by
    rw [le_div_iff₀ hden]
    calc (2 : ℚ) ^ ((num.log2 : Int) - den.log2 - 1) * den
        ≤ 2 ^ ((num.log2 : Int) - den.log2 - 1) * 2 ^ ((den.log2 : Int) + 1) :=
          mul_le_mul_of_nonneg_left hd2.le (hpos _).le
      _ = 2 ^ (num.log2 : Int) := by
        rw [← zpow_add₀ (by norm_num)]
        ring_nf
      _ ≤ num := hn1
  have hreach := reaches_iff num hd ((num.log2 : Int) - den.log2)
  have hmagnitude : magnitude num den = if reaches num den ((num.log2 : Int) - den.log2)
      then (num.log2 : Int) - den.log2 else (num.log2 : Int) - den.log2 - 1 := rfl
  rw [hmagnitude]
  split
  · next h => exact ⟨hreach.1 h, hupper⟩
  · next h =>
    refine ⟨hlower, ?_⟩
    rw [Int.sub_add_cancel]
    exact not_le.1 fun hle => h (hreach.2 hle)

/-! ## Nearest whole numbers -/

/-- A whole number nearest to a size, the even one where two are. -/
structure Nearest (n : Nat) (q : ℚ) : Prop where
  low : (n : ℚ) - 1 / 2 ≤ q
  high : q ≤ (n : ℚ) + 1 / 2
  even : n % 2 = 0 ∨ ((n : ℚ) - 1 / 2 < q ∧ q < (n : ℚ) + 1 / 2)

theorem Nearest.not_lt {n k : Nat} {q : ℚ} (hn : Nearest n q) (hk : Nearest k q) : ¬ n < k := by
  intro h
  have hle : (k : ℚ) ≤ (n : ℚ) + 1 := by linarith [hk.low, hn.high]
  obtain rfl : k = n + 1 := by
    have hle : k ≤ n + 1 := by exact_mod_cast hle
    omega
  -- the size lies in the middle between both, so both are even
  have hk := hk.low
  have hmiddle : q = (n : ℚ) + 1 / 2 := by
    push_cast at hk
    linarith [hn.high]
  have hn2 : n % 2 = 0 := by
    rcases hn.even with he | ⟨-, hlt⟩
    · exact he
    · exact absurd hmiddle hlt.ne
  rcases ‹Nearest (n + 1) q›.even with he | ⟨hlt, -⟩
  · omega
  · push_cast at hlt
    linarith

theorem Nearest.unique {n k : Nat} {q : ℚ} (hn : Nearest n q) (hk : Nearest k q) : n = k :=
  Nat.le_antisymm (Nat.not_lt.1 (hk.not_lt hn)) (Nat.not_lt.1 (hn.not_lt hk))

/-- A part of a step is compared with half a step without a division. -/
theorem two_mul_lt_iff (r : Nat) {den : Nat} (hd : 0 < den) :
    2 * r < den ↔ (r : ℚ) / den < 1 / 2 := by
  have hden : (0 : ℚ) < den := by exact_mod_cast hd
  have hcast : 2 * r < den ↔ (2 : ℚ) * r < den := by exact_mod_cast Iff.rfl
  rw [hcast, div_lt_iff₀ hden]
  constructor <;> intro h <;> linarith

theorem lt_two_mul_iff (r : Nat) {den : Nat} (hd : 0 < den) :
    den < 2 * r ↔ 1 / 2 < (r : ℚ) / den := by
  have hden : (0 : ℚ) < den := by exact_mod_cast hd
  have hcast : den < 2 * r ↔ (den : ℚ) < 2 * r := by exact_mod_cast Iff.rfl
  rw [hcast, lt_div_iff₀ hden]
  constructor <;> intro h <;> linarith

theorem nearestEven_spec (num : Nat) {den : Nat} (hd : 0 < den) :
    Nearest (nearestEven num den) ((num : ℚ) / den) := by
  have hden : (0 : ℚ) < den := by exact_mod_cast hd
  have hless := two_mul_lt_iff (num % den) hd
  have hmore := lt_two_mul_iff (num % den) hd
  -- the ratio is its whole part and a rest `t`, and only `t` decides how it is rounded
  obtain ⟨t, ht⟩ : ∃ t : ℚ, t = ((num % den : Nat) : ℚ) / den := ⟨_, rfl⟩
  have hsplit : (num : ℚ) / den = ((num / den : Nat) : ℚ) + t := by
    have hnum : (num : ℚ) = den * ((num / den : Nat) : ℚ) + ((num % den : Nat) : ℚ) := by
      exact_mod_cast (Nat.div_add_mod num den).symm
    rw [ht, hnum, add_div, mul_div_cancel_left₀ _ hden.ne']
  have hnonneg : 0 ≤ t := by rw [ht]; positivity
  have hlt : t < 1 := by
    rw [ht, div_lt_one hden]
    exact_mod_cast Nat.mod_lt num hd
  rw [← ht] at hless hmore
  rw [hsplit, nearestEven]
  split
  · next h =>
    have h := hless.1 h
    exact ⟨by linarith, by linarith, .inr ⟨by linarith, by linarith⟩⟩
  · next hn =>
    have hn := not_lt.1 (mt hless.2 hn)
    split
    · next h =>
      have h := hmore.1 h
      exact ⟨by push_cast; linarith, by push_cast; linarith,
        .inr ⟨by push_cast; linarith, by push_cast; linarith⟩⟩
    · next hm =>
      -- halfway: the even one of both neighbours
      have hm := not_lt.1 (mt hmore.2 hm)
      split
      · next he => exact ⟨by linarith, by linarith, .inl he⟩
      · next he => exact ⟨by push_cast; linarith, by push_cast; linarith, .inl (by omega)⟩

/-- A ratio in steps is rounded to the nearest number of them. -/
theorem inSteps_spec (num : Nat) {den : Nat} (hd : 0 < den) (e : Int) :
    Nearest (inSteps num den e) ((num : ℚ) / den / 2 ^ e) := by
  cases e with
  | ofNat k =>
    have h := nearestEven_spec num (Nat.mul_pos hd (Nat.pow_pos Nat.two_pos : 0 < 2 ^ k))
    rw [Int.ofNat_eq_natCast, zpow_natCast, div_div]
    simpa [inSteps] using h
  | negSucc k =>
    have h := nearestEven_spec (num * Nat.pow 2 (k + 1)) hd
    rw [zpow_negSucc, div_inv_eq_mul, div_mul_eq_mul_div]
    simpa [inSteps] using h

/-! ## Canonical numbers -/

/-- A number in its one form: 53 binary digits, or fewer with the least exponent. -/
def Canonical : Double → Prop
  | .finite _ m e => m < 2 ^ 53 ∧ (2 ^ 52 ≤ m ∨ e = minExponent) ∧ minExponent ≤ e ∧ e ≤ maxExponent
  | _ => True

/-- The exponent of the steps in which a ratio is rounded. -/
def stepExponent (num den : Nat) : Int := max (magnitude num den - 52) minExponent

/-- A significand of up to 53 digits, or the first one of 54. -/
def carried (negative : Bool) (m : Nat) (e : Int) : Double :=
  if m = 2 ^ 53 then
    if e + 1 > maxExponent then .infinite negative else .finite negative (2 ^ 52) (e + 1)
  else if e > maxExponent then .infinite negative else .finite negative m e

theorem roundRatio_eq {num : Nat} (hn : num ≠ 0) (negative : Bool) (den : Nat) :
    roundRatio negative num den = carried negative (inSteps num den (stepExponent num den))
      (stepExponent num den) := by
  unfold roundRatio carried
  rw [if_neg hn]
  simp only [Nat.pow_eq, ← stepExponent.eq_1]
  split <;> rfl

theorem roundRatio_ne_nan (negative : Bool) (num den : Nat) : roundRatio negative num den ≠ .nan := by
  by_cases hn : num = 0
  · rw [roundRatio, if_pos hn]
    exact Double.noConfusion
  · rw [roundRatio_eq hn, carried]
    split
    · split <;> exact Double.noConfusion
    · split <;> exact Double.noConfusion

theorem pow_mul_zpow (k : Nat) (e : Int) : (2 : ℚ) ^ k * 2 ^ e = 2 ^ (e + k) := by
  rw [zpow_add₀ (by norm_num), zpow_natCast, mul_comm]

/-- A ratio is less than `2 ^ 53` steps. -/
theorem steps_lt {num den : Nat} (hn : 0 < num) (hd : 0 < den) :
    (num : ℚ) / den / 2 ^ stepExponent num den < 2 ^ 53 := by
  rw [div_lt_iff₀ (two_zpow_pos _), pow_mul_zpow]
  refine (magnitude_spec hn hd).2.trans_le (zpow_le_zpow_right₀ (by norm_num) ?_)
  rw [stepExponent]
  omega

/-- Rounded to steps, a ratio is at most the first number of 54 digits. -/
theorem inSteps_le {num den : Nat} (hn : 0 < num) (hd : 0 < den) :
    inSteps num den (stepExponent num den) ≤ 2 ^ 53 := by
  have hlt := steps_lt hn hd
  have hnear := inSteps_spec num hd (stepExponent num den)
  have hq : (inSteps num den (stepExponent num den) : ℚ) < (2 ^ 53 + 1 : Nat) := by
    push_cast
    linarith [hnear.low]
  have hq : inSteps num den (stepExponent num den) < 2 ^ 53 + 1 := by exact_mod_cast hq
  omega

/-- Above the least step there are all 53 digits. -/
theorem le_inSteps {num den : Nat} (hn : 0 < num) (hd : 0 < den)
    (he : stepExponent num den ≠ minExponent) :
    2 ^ 52 ≤ inSteps num den (stepExponent num den) := by
  have hnear := inSteps_spec num hd (stepExponent num den)
  have hexp : stepExponent num den + (52 : Nat) = magnitude num den := by
    rw [stepExponent] at he ⊢
    omega
  have hge : (2 : ℚ) ^ 52 ≤ (num : ℚ) / den / 2 ^ stepExponent num den := by
    rw [le_div_iff₀ (two_zpow_pos _), pow_mul_zpow, hexp]
    exact (magnitude_spec hn hd).1
  have hq : ((2 ^ 52 : Nat) : ℚ) < (inSteps num den (stepExponent num den) + 1 : Nat) := by
    push_cast
    linarith [hnear.high]
  have hq : 2 ^ 52 < inSteps num den (stepExponent num den) + 1 := by exact_mod_cast hq
  omega

/-- Rounding returns canonical numbers. -/
theorem canonical_roundRatio (negative : Bool) (num : Nat) {den : Nat} (hd : 0 < den) :
    Canonical (roundRatio negative num den) := by
  by_cases hn : num = 0
  · rw [roundRatio, if_pos hn]
    exact ⟨by decide, .inr rfl, by decide, by decide⟩
  · have hpos := Nat.pos_of_ne_zero hn
    have hmin : minExponent ≤ stepExponent num den := le_max_right _ _
    have hle := inSteps_le hpos hd
    rw [roundRatio_eq hn, carried]
    split
    · split
      · trivial
      · next hmax => exact ⟨by norm_num, .inl le_rfl, by omega, by omega⟩
    · next hne =>
      split
      · trivial
      · next hmax =>
        refine ⟨by omega, ?_, hmin, by omega⟩
        by_cases he : stepExponent num den = minExponent
        · exact .inr he
        · exact .inl (le_inSteps hpos hd he)

/-! ## Intervals -/

/-- Below a power of two the numbers lie twice as dense. -/
def Dense (m : Nat) (e : Int) : Prop := m = 2 ^ 52 ∧ e > minExponent

instance (m : Nat) (e : Int) : Decidable (Dense m e) := inferInstanceAs (Decidable (_ ∧ _))

/-- How far the interval of a number reaches below it, in steps. -/
def reach (m : Nat) (e : Int) : ℚ := if Dense m e then 1 / 4 else 1 / 2

theorem reach_bounds (m : Nat) (e : Int) : 1 / 4 ≤ reach m e ∧ reach m e ≤ 1 / 2 := by
  unfold reach
  split <;> norm_num

/-- The sizes that are rounded to `m · 2 ^ e`: those next to it, the ends for even `m` only. -/
structure Within (m : Nat) (e : Int) (q : ℚ) : Prop where
  low : (m : ℚ) - reach m e ≤ q / 2 ^ e
  high : q / 2 ^ e ≤ (m : ℚ) + 1 / 2
  even : m % 2 = 0 ∨ ((m : ℚ) - reach m e < q / 2 ^ e ∧ q / 2 ^ e < (m : ℚ) + 1 / 2)

theorem Within.nearest {m : Nat} {e : Int} {q : ℚ} (h : Within m e q) : Nearest m (q / 2 ^ e) := by
  have hr := (reach_bounds m e).2
  refine ⟨by linarith [h.low], h.high, h.even.imp id fun hs => ⟨by linarith [hs.1], hs.2⟩⟩

/-- A number lies within its interval. -/
theorem within_self (m : Nat) (e : Int) : Within m e (m * 2 ^ e) := by
  have hr := (reach_bounds m e).1
  have hself : (m : ℚ) * 2 ^ e / 2 ^ e = m := mul_div_cancel_right₀ _ (two_zpow_pos e).ne'
  constructor
  · rw [hself]
    linarith
  · rw [hself]
    linarith
  · rw [hself]
    exact .inr ⟨by linarith, by linarith⟩

theorem Within.pos {m : Nat} {e : Int} (hm : 0 < m) {q : ℚ} (h : Within m e q) : 0 < q := by
  have hone : (1 : ℚ) ≤ m := by exact_mod_cast hm
  have hr := (reach_bounds m e).2
  have hlow := h.low
  have hq : 0 < q / 2 ^ e := by linarith
  exact (div_pos_iff_of_pos_right (two_zpow_pos e)).1 hq

theorem Within.lt {m : Nat} {e : Int} (hm : m < 2 ^ 53) {q : ℚ} (h : Within m e q) :
    q < 2 ^ (e + (53 : Nat)) := by
  have hle : (m : ℚ) + 1 ≤ 2 ^ 53 := by exact_mod_cast hm
  rw [← pow_mul_zpow, ← div_lt_iff₀ (two_zpow_pos e)]
  linarith [h.high]

theorem Within.num_pos {m : Nat} {e : Int} (hm : 0 < m) {num den : Nat}
    (h : Within m e ((num : ℚ) / den)) : 0 < num := by
  refine Nat.pos_of_ne_zero ?_
  rintro rfl
  have hpos := h.pos hm
  rw [Nat.cast_zero, zero_div] at hpos
  exact lt_irrefl _ hpos

section Rounded

variable {m : Nat} {e : Int} (hc : Canonical (.finite false m e)) (hm : 0 < m) {num den : Nat}
  (hd : 0 < den) (h : Within m e ((num : ℚ) / den))

include hc hm hd h

/-- Where the steps are those of the number, the ratio is rounded to it. -/
theorem Within.round_same (he : stepExponent num den = e) (negative : Bool) :
    roundRatio negative num den = .finite negative m e := by
  have hsteps := inSteps_spec num hd e
  have hne : m ≠ 2 ^ 53 := hc.1.ne
  rw [roundRatio_eq (h.num_pos hm).ne', he, hsteps.unique h.nearest, carried,
    if_neg hne, if_neg (not_lt.2 hc.2.2.2)]

/-- Below a power of two the steps are half as wide, and the ratio is rounded up. -/
theorem Within.round_up (he : minExponent < e) (hlt : (num : ℚ) / den < 2 ^ (e + (52 : Nat)))
    (negative : Bool) : roundRatio negative num den = .finite negative m e := by
  have hnum := h.num_pos hm
  have hfull : 2 ^ 52 ≤ m := hc.2.1.resolve_right he.ne'
  have hq : (num : ℚ) / den / 2 ^ e < 2 ^ 52 := by
    rwa [div_lt_iff₀ (two_zpow_pos e), pow_mul_zpow]
  -- of the normal numbers only a power of two reaches below that power
  obtain rfl : m = 2 ^ 52 := by
    have hr := (reach_bounds m e).2
    have hle : (m : ℚ) < ((2 ^ 52 + 1 : Nat) : ℚ) := by
      push_cast
      linarith [h.low]
    have hle : m < 2 ^ 52 + 1 := by exact_mod_cast hle
    omega
  have hlow := h.low
  rw [reach, if_pos ⟨rfl, he⟩] at hlow
  push_cast at hlow
  have hmagnitude : magnitude num den = e + 51 := by
    refine exponent_unique (magnitude_spec hnum hd) ⟨?_, ?_⟩
    · have hge : (2 : ℚ) ^ 51 ≤ (num : ℚ) / den / 2 ^ e := by linarith
      rw [le_div_iff₀ (two_zpow_pos e), pow_mul_zpow] at hge
      exact_mod_cast hge
    · rw [show e + 51 + 1 = e + (52 : Nat) by push_cast; ring]
      exact hlt
  have hstep : stepExponent num den = e - 1 := by
    rw [stepExponent, hmagnitude]
    omega
  have hhalf : (num : ℚ) / den / 2 ^ (e - 1) = 2 * ((num : ℚ) / den / 2 ^ e) := by
    have hsucc := two_zpow_succ (e - 1)
    rw [Int.sub_add_cancel] at hsucc
    rw [hsucc]
    field_simp
  have hnear : Nearest (2 ^ 53) ((num : ℚ) / den / 2 ^ (e - 1)) := by
    rw [hhalf]
    refine ⟨?_, ?_, .inl (by decide)⟩
    · push_cast
      linarith
    · push_cast
      linarith
  rw [roundRatio_eq hnum.ne', hstep, (inSteps_spec num hd (e - 1)).unique hnear, carried, if_pos rfl,
    Int.sub_add_cancel, if_neg (not_lt.2 hc.2.2.2)]

/-- Every ratio within the interval of a canonical number is rounded to it. -/
theorem roundRatio_within (negative : Bool) :
    roundRatio negative num den = .finite negative m e := by
  have hnum := h.num_pos hm
  have hmagnitude := magnitude_spec hnum hd
  have hlt := h.lt hc.1
  by_cases hsmall : minExponent < e ∧ (num : ℚ) / den < 2 ^ (e + (52 : Nat))
  · exact Within.round_up hc hm hd h hsmall.1 hsmall.2 negative
  · refine Within.round_same hc hm hd h ?_ negative
    have hupper : magnitude num den < e + (53 : Nat) :=
      (zpow_lt_zpow_iff_right₀ (by norm_num)).1 (hmagnitude.1.trans_lt hlt)
    have hmin : minExponent ≤ e := hc.2.2.1
    rw [stepExponent]
    by_cases he : minExponent < e
    · have hge : (2 : ℚ) ^ (e + (52 : Nat)) ≤ (num : ℚ) / den :=
        not_lt.1 fun hlt => hsmall ⟨he, hlt⟩
      have hlower : e + (52 : Nat) < magnitude num den + 1 :=
        (zpow_lt_zpow_iff_right₀ (by norm_num)).1 (hge.trans_lt hmagnitude.2)
      omega
    · omega

end Rounded

end EventSearch.Number.Double
