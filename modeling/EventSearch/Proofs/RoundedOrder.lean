/-
# `EventSearch.Proofs.RoundedOrder` — whole numbers as floats keep their order

A whole number becomes the nearest binary64 number, which is exact up to 2⁵³ (`ofInt_injective`).
Beyond, neighbours become one number, but none passes another (`roundedSize_mono`).  So the floats
of two whole numbers of 64 bits are in the order of these unless they are the same
(`compare?_ofInt`).

    2⁵³ + 1    halfway, becomes 2⁵³
    2⁵³ + 2    stays
    2⁵³ + 3    halfway, becomes 2⁵³ + 4
-/
import EventSearch.Proofs.NumberTexts

namespace EventSearch.Number

/-- A whole number of 64 bits. -/
def IsInt64 (n : Int) : Prop := -(maxInt64 : Int) - 1 ≤ n ∧ n ≤ maxInt64

instance (n : Int) : Decidable (IsInt64 n) := inferInstanceAs (Decidable (_ ∧ _))

theorem IsInt64.natAbs_le {n : Int} (h : IsInt64 n) : n.natAbs ≤ 2 ^ 63 := by
  have hmax : maxInt64 = 2 ^ 63 - 1 := rfl
  unfold IsInt64 at h
  omega

namespace Double

/-! ## Rounding to whole numbers of steps -/

theorem nearest_self (n : Nat) : Nearest n n :=
  ⟨by linarith, by linarith, .inr ⟨by linarith, by linarith⟩⟩

/-- Of two sizes the smaller is not rounded to more. -/
theorem Nearest.mono {n k : Nat} {q r : ℚ} (hn : Nearest n q) (hk : Nearest k r) (h : q ≤ r) :
    n ≤ k := by
  rcases h.lt_or_eq with hlt | rfl
  · have hq : (n : ℚ) < (k + 1 : Nat) := by
      push_cast
      linarith [hn.low, hk.high]
    have hq : n < k + 1 := by exact_mod_cast hq
    omega
  · exact (hn.unique hk).le

/-! ## Sizes -/

/-- The size of what a ratio is rounded to. -/
def roundedSize (num den : Nat) : ℚ :=
  inSteps num den (stepExponent num den) * 2 ^ stepExponent num den

/-- A whole number of steps is not changed. -/
theorem roundedSize_of_steps {num den k : Nat} (hd : 0 < den)
    (h : (num : ℚ) / den = k * 2 ^ stepExponent num den) : roundedSize num den = num / den := by
  have hsteps := inSteps_spec num hd (stepExponent num den)
  rw [h, mul_div_cancel_right₀ _ (two_zpow_pos _).ne'] at hsteps
  rw [roundedSize, hsteps.unique (nearest_self k), h]

theorem roundedSize_zero {den : Nat} (hd : 0 < den) : roundedSize 0 den = 0 := by
  have hsteps : ((0 : Nat) : ℚ) / den = (0 : Nat) * 2 ^ stepExponent 0 den := by simp
  rw [roundedSize_of_steps hd hsteps, Nat.cast_zero, zero_div]

theorem stepExponent_mono {num den num' den' : Nat} (hn : 0 < num) (hn' : 0 < num') (hd : 0 < den)
    (hd' : 0 < den') (h : (num : ℚ) / den ≤ num' / den') :
    stepExponent num den ≤ stepExponent num' den' := by
  have hlt : magnitude num den < magnitude num' den' + 1 :=
    (zpow_lt_zpow_iff_right₀ (by norm_num)).1
      ((magnitude_spec hn hd).1.trans_lt (h.trans_lt (magnitude_spec hn' hd').2))
  rw [stepExponent, stepExponent]
  omega

/-- Of two ratios the smaller is not rounded to more. -/
theorem roundedSize_mono {num den num' den' : Nat} (hn : 0 < num) (hn' : 0 < num') (hd : 0 < den)
    (hd' : 0 < den') (h : (num : ℚ) / den ≤ num' / den') :
    roundedSize num den ≤ roundedSize num' den' := by
  have hpow := two_zpow_pos (stepExponent num den)
  rcases (stepExponent_mono hn hn' hd hd' h).lt_or_eq with hlt | he
  · -- the smaller ratio has at most all steps of its size, the greater one at least half of its own
    have hfull : 2 ^ 52 ≤ inSteps num' den' (stepExponent num' den') := by
      refine le_inSteps hn' hd' ?_
      have hmin : minExponent ≤ stepExponent num den := le_max_right _ _
      omega
    have hexp : stepExponent num den + (53 : Nat) ≤ stepExponent num' den' + (52 : Nat) := by omega
    calc roundedSize num den ≤ 2 ^ 53 * 2 ^ stepExponent num den :=
          mul_le_mul_of_nonneg_right (by exact_mod_cast inSteps_le hn hd) hpow.le
      _ = 2 ^ (stepExponent num den + (53 : Nat)) := pow_mul_zpow 53 _
      _ ≤ 2 ^ (stepExponent num' den' + (52 : Nat)) := zpow_le_zpow_right₀ (by norm_num) hexp
      _ = 2 ^ 52 * 2 ^ stepExponent num' den' := (pow_mul_zpow 52 _).symm
      _ ≤ roundedSize num' den' :=
          mul_le_mul_of_nonneg_right (by exact_mod_cast hfull) (two_zpow_pos _).le
  · have hsteps := (inSteps_spec num hd (stepExponent num den)).mono
      (he ▸ inSteps_spec num' hd' (stepExponent num' den'))
      (div_le_div_of_nonneg_right h hpow.le)
    rw [roundedSize, roundedSize, ← he]
    exact mul_le_mul_of_nonneg_right (by exact_mod_cast hsteps) hpow.le

theorem roundedSize_nonneg (num den : Nat) : 0 ≤ roundedSize num den :=
  mul_nonneg (Nat.cast_nonneg _) (two_zpow_pos _).le

/-- Of two whole numbers the smaller is not rounded to more. -/
theorem roundedSize_le {a b : Nat} (h : a ≤ b) : roundedSize a 1 ≤ roundedSize b 1 := by
  rcases Nat.eq_zero_or_pos a with rfl | ha
  · rw [roundedSize_zero Nat.one_pos]
    exact roundedSize_nonneg b 1
  · exact roundedSize_mono ha (ha.trans_le h) Nat.one_pos Nat.one_pos
      (div_le_div_of_nonneg_right (by exact_mod_cast h) (Nat.cast_nonneg 1))

/-- Whole numbers up to 2⁵³ are not changed. -/
theorem roundedSize_exact {n : Nat} (hn : 0 < n) (h : n ≤ 2 ^ 53) : roundedSize n 1 = n := by
  have hsteps {k : Nat} (hk : (n : ℚ) / (1 : Nat) = k * 2 ^ stepExponent n 1) :
      roundedSize n 1 = n := by
    rw [roundedSize_of_steps Nat.one_pos hk, Nat.cast_one, div_one]
  rcases h.lt_or_eq with hlt | rfl
  · have hexp : stepExponent n 1 ≤ 0 := by
      have hq : (n : ℚ) / (1 : Nat) < 2 ^ (53 : Int) := by
        rw [Nat.cast_one, div_one]
        exact_mod_cast hlt
      have hmagnitude : magnitude n 1 < 53 :=
        (zpow_lt_zpow_iff_right₀ (by norm_num)).1
          ((magnitude_spec hn Nat.one_pos).1.trans_lt hq)
      rw [stepExponent, minExponent]
      omega
    obtain ⟨t, ht⟩ := Int.exists_eq_neg_ofNat hexp
    refine hsteps (k := n * 2 ^ t) ?_
    rw [ht, zpow_neg, zpow_natCast]
    push_cast
    field_simp
  · refine hsteps (k := 2 ^ 52) ?_
    rw [show stepExponent (2 ^ 53) 1 = 1 by decide]
    norm_num

/-! ## Floats of whole numbers -/

/-- A ratio that is not too large is rounded to a finite number of the rounded size. -/
theorem roundRatio_finite {num den : Nat} (hn : 0 < num) (negative : Bool)
    (h : stepExponent num den < maxExponent) : ∃ m e,
      roundRatio negative num den = .finite negative m e ∧ m * 2 ^ e = roundedSize num den := by
  rw [roundRatio_eq hn.ne', carried]
  split
  · next hm =>
    rw [if_neg (by omega)]
    refine ⟨_, _, rfl, ?_⟩
    rw [roundedSize, hm, two_zpow_succ]
    push_cast
    ring
  · rw [if_neg (by omega)]
    exact ⟨_, _, rfl, rfl⟩

/-- The float of a whole number of 64 bits is finite, with its sign and its rounded size. -/
theorem ofInt_finite {n : Int} (h : IsInt64 n) : ∃ m e, ofInt n = .finite (n < 0) m e ∧
    m * 2 ^ e = roundedSize n.natAbs 1 := by
  by_cases hn : n = 0
  · subst hn
    exact ⟨0, minExponent, rfl, by rw [Int.natAbs_zero, roundedSize_zero Nat.one_pos]; simp⟩
  · refine roundRatio_finite (by omega) _ ?_
    have hq : ((n.natAbs : ℚ) / (1 : Nat)) < 2 ^ (64 : Int) := by
      have hle : n.natAbs < 2 ^ 64 := h.natAbs_le.trans_lt (by decide)
      rw [Nat.cast_one, div_one]
      exact_mod_cast hle
    have hmagnitude : magnitude n.natAbs 1 < 64 :=
      (zpow_lt_zpow_iff_right₀ (by norm_num)).1
        ((magnitude_spec (by omega) Nat.one_pos).1.trans_lt hq)
    rw [stepExponent, minExponent, maxExponent]
    omega

theorem worth_ofInt {n : Int} (h : IsInt64 n) :
    worth (ofInt n) = (if n < 0 then -1 else 1) * roundedSize n.natAbs 1 := by
  obtain ⟨m, e, he, hsize⟩ := ofInt_finite h
  rw [he, worth, hsize]
  by_cases hn : n < 0 <;> simp [hn]

/-- Up to 2⁵³ the float of a whole number is worth it. -/
theorem worth_ofInt_exact {n : Int} (h : n.natAbs ≤ 2 ^ 53) : worth (ofInt n) = n := by
  have hmax : maxInt64 = 2 ^ 63 - 1 := rfl
  have hfits : IsInt64 n := by
    unfold IsInt64
    omega
  have hsize : roundedSize n.natAbs 1 = n.natAbs := by
    rcases Nat.eq_zero_or_pos n.natAbs with hzero | hpos
    · rw [hzero, roundedSize_zero Nat.one_pos, Nat.cast_zero]
    · exact roundedSize_exact hpos h
  rw [worth_ofInt hfits, hsize]
  split
  · next hn =>
    have habs : (n.natAbs : Int) = -n := by omega
    rw [← Int.cast_natCast, habs]
    push_cast
    ring
  · next hn =>
    have habs : (n.natAbs : Int) = n := by omega
    rw [← Int.cast_natCast, habs, one_mul]

/-- Up to 2⁵³ no two whole numbers have one float. -/
theorem ofInt_injective {n m : Int} (hn : n.natAbs ≤ 2 ^ 53) (hm : m.natAbs ≤ 2 ^ 53)
    (h : ofInt n = ofInt m) : n = m := by
  have hworth := congrArg worth h
  rw [worth_ofInt_exact hn, worth_ofInt_exact hm] at hworth
  exact_mod_cast hworth

section Int64

variable {n m : Int} (hn : IsInt64 n) (hm : IsInt64 m)

include hn

theorem worth_ofInt_eq_zero (h : worth (ofInt n) = 0) : n = 0 := by
  by_contra hne
  have hone : (1 : ℚ) ≤ roundedSize n.natAbs 1 := by
    have hle := roundedSize_le (a := 1) (b := n.natAbs) (by omega)
    rwa [roundedSize_exact Nat.one_pos (by decide), Nat.cast_one] at hle
  rw [worth_ofInt hn] at h
  split at h <;> linarith

include hm

/-- Of two whole numbers the smaller has no greater float. -/
theorem worth_ofInt_mono (h : n ≤ m) : worth (ofInt n) ≤ worth (ofInt m) := by
  have hnonneg := roundedSize_nonneg
  rw [worth_ofInt hn, worth_ofInt hm]
  by_cases hmneg : m < 0
  · have hle := roundedSize_le (a := m.natAbs) (b := n.natAbs) (by omega)
    rw [if_pos (by omega : n < 0), if_pos hmneg]
    linarith
  · rw [if_neg hmneg, one_mul]
    by_cases hnneg : n < 0
    · rw [if_pos hnneg]
      linarith [hnonneg n.natAbs 1, hnonneg m.natAbs 1]
    · rw [if_neg hnneg, one_mul]
      exact roundedSize_le (by omega)

theorem compare?_worth :
    (ofInt n).compare? (ofInt m) = some (cmp (worth (ofInt n)) (worth (ofInt m))) := by
  obtain ⟨k, e, hk, -⟩ := ofInt_finite hn
  obtain ⟨l, f, hl, -⟩ := ofInt_finite hm
  rw [hk, hl, compare?_finite]

/-- Floats of whole numbers that are worth the same are the same. -/
theorem ofInt_eq_of_worth (h : worth (ofInt n) = worth (ofInt m)) : ofInt n = ofInt m := by
  have hsame : (ofInt n).same (ofInt m) = true := by
    rw [same, compare?_worth hn hm, h, cmp_self_eq_eq]
    rfl
  have hzero {k : Int} (hk : IsInt64 k) (hz : (ofInt k).isZero = true) : k = 0 := by
    obtain ⟨l, e, he, -⟩ := ofInt_finite hk
    refine worth_ofInt_eq_zero hk ?_
    rw [he] at hz ⊢
    exact worth_eq_zero.2 (of_decide_eq_true hz)
  rcases eq_of_same (canonical_roundRatio _ _ Nat.one_pos) (canonical_roundRatio _ _ Nat.one_pos)
    hsame with he | ⟨hzn, hzm⟩
  · exact he
  · rw [hzero hn hzn, hzero hm hzm]

/-- The floats of two whole numbers are the same or in the order of the numbers. -/
theorem compare?_ofInt : (ofInt n).compare? (ofInt m)
    = some (if ofInt n = ofInt m then .eq else compare n m) := by
  rw [compare?_worth hn hm]
  by_cases he : ofInt n = ofInt m
  · rw [if_pos he, he, cmp_self_eq_eq]
  · have hworth : worth (ofInt n) ≠ worth (ofInt m) := mt (ofInt_eq_of_worth hn hm) he
    rw [if_neg he]
    rcases lt_trichotomy n m with hlt | rfl | hgt
    · have hlt' := lt_of_le_of_ne (worth_ofInt_mono hn hm hlt.le) hworth
      rw [(cmp_eq_lt_iff _ _).2 hlt', Int.compare_eq_lt.2 hlt]
    · exact absurd rfl he
    · have hgt' := lt_of_le_of_ne (worth_ofInt_mono hm hn hgt.le) hworth.symm
      rw [(cmp_eq_gt_iff _ _).2 hgt', Int.compare_eq_gt.2 hgt]

end Int64

end Double

end EventSearch.Number
