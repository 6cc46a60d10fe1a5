/-
# `EventSearch.Proofs.NumberTexts` — the text of a number is read as that number

Whatever the layout, the text of a canonical number is read as the number itself (`read?_write`).
The digits are those of its shortest decimal, and each way to write them shows that decimal
(`shows_positional`, `shows_scientific`).  Hence two numbers with the same text are the same
(`write_injective`), and two that are equal as values are the same or both zero (`eq_of_same`).
-/
import Mathlib.Order.Compare
import EventSearch.Proofs.Numerals
import EventSearch.Proofs.ShortestDigits

namespace EventSearch.Number

open EventSearch.Text

namespace Double

/-! ## Decimals -/

/-- A decimal within the interval of a number is read as that number. -/
theorem ofDecimal_within {m : Nat} {e : Int} (hc : Canonical (.finite false m e)) (hm : 0 < m)
    {digits count : Nat} {exponent : Int} (h : Within m e (Decimal.size ⟨digits, exponent⟩))
    (hhigh : exponent ≤ 400) (hlow : -400 ≤ count + exponent) (negative : Bool) :
    ofDecimal negative digits count exponent = .finite negative m e := by
  have hne : digits ≠ 0 := by
    rintro rfl
    have hpos := h.pos hm
    rw [Decimal.size, Nat.cast_zero, zero_mul] at hpos
    exact lt_irrefl _ hpos
  unfold ofDecimal
  rw [if_neg hne, if_neg (not_lt.2 hhigh), if_neg (not_lt.2 hlow)]
  cases exponent with
  | ofNat k =>
    refine roundRatio_within hc hm Nat.one_pos ?_ negative
    simpa [Decimal.size] using h
  | negSucc k =>
    refine roundRatio_within hc hm (Nat.pow_pos (by decide)) ?_ negative
    simpa [Decimal.size, zpow_negSucc, div_eq_mul_inv] using h

/-- Characters that are read as a decimal. -/
structure Shows (cs : List Char) (d : Decimal) : Prop where
  head : ∃ c, cs.head? = some c ∧ isAsciiDigit c = true
  read : ∀ negative, ∃ digits count : Nat, ∃ exponent : Int,
    readUnsigned? negative cs = some (ofDecimal negative digits count exponent) ∧
      Decimal.size ⟨digits, exponent⟩ = d.size ∧ exponent ≤ 400 ∧ -400 ≤ count + exponent

theorem Shows.read?_within {cs : List Char} {d : Decimal} (h : Shows cs d) {m : Nat} {e : Int}
    (hc : Canonical (.finite false m e)) (hm : 0 < m) (hd : Within m e d.size) :
    read? cs = some (.finite false m e) ∧ read? ('-' :: cs) = some (.finite true m e) := by
  obtain ⟨hplain, hsigned⟩ := read?_unsigned h.head
  have hread (negative : Bool) : readUnsigned? negative cs = some (.finite negative m e) := by
    obtain ⟨digits, count, exponent, hr, hsize, hhigh, hlow⟩ := h.read negative
    rw [← hsize] at hd
    rw [hr, ofDecimal_within hc hm hd hhigh hlow]
  exact ⟨hplain.trans (hread false), hsigned.trans (hread true)⟩

end Double

/-! ## Layouts -/

namespace Layout

open Double

theorem head_append {cs : List Char} (h : ∃ c, cs.head? = some c ∧ isAsciiDigit c = true)
    (tail : List Char) : ∃ c, (cs ++ tail).head? = some c ∧ isAsciiDigit c = true := by
  obtain ⟨c, hc, hd⟩ := h
  exact ⟨c, by rw [List.head?_append, hc]; rfl, hd⟩

/-- Digits with the point at their end, behind zeros. -/
theorem shows_whole (l : Layout) (n k : Nat) :
    Shows (Nat.toDigits 10 n ++ List.replicate k '0' ++ (if l.keepsPoint then ['.', '0'] else []))
      ⟨n, k⟩ := by
  have hdigits := (digits_toDigits n).append (digits_replicate k)
  have hne : Nat.toDigits 10 n ++ List.replicate k '0' ≠ [] := by simp
  have hvalue : digitsValue 0 (Nat.toDigits 10 n ++ List.replicate k '0') = 10 ^ k * n := by
    rw [digitsValue_append, digitsValue_toDigits, digitsValue_replicate]
  have hsize : Decimal.size ⟨n, k⟩ = ((10 ^ k * n : Nat) : ℚ) := by
    rw [Decimal.size, zpow_natCast]
    push_cast
    ring
  refine ⟨head_append (head_digits hdigits hne) _, fun negative => ?_⟩
  cases l.keepsPoint with
  | false =>
    have hr := readUnsigned?_digits hdigits hne endsDigits_nil negative
    refine ⟨_, _, _, hr, ?_, by decide, by omega⟩
    rw [hvalue, hsize, Decimal.size, zpow_zero, mul_one]
  | true =>
    have hr := readUnsigned?_point hdigits (digits_replicate 1) hne endsDigits_nil negative
    refine ⟨_, _, _, hr, ?_, by simp, ?_⟩
    · rw [digitsValue_append, hvalue, digitsValue_replicate, hsize, Decimal.size]
      simp only [List.length_replicate]
      push_cast
      rw [zpow_neg_one]
      ring
    · simp only [List.length_append, List.length_replicate]
      push_cast
      omega

/-- Digits with the point among them. -/
theorem shows_split {n k : Nat} (hk : 0 < k) (hlt : k < (Nat.toDigits 10 n).length) :
    Shows ((Nat.toDigits 10 n).take k ++ '.' :: (Nat.toDigits 10 n).drop k)
      ⟨n, k - (Nat.toDigits 10 n).length⟩ := by
  have hdigits := digits_toDigits n
  have htake : Digits ((Nat.toDigits 10 n).take k) := fun c hc => hdigits c (List.mem_of_mem_take hc)
  have hdrop : Digits ((Nat.toDigits 10 n).drop k) := fun c hc => hdigits c (List.mem_of_mem_drop hc)
  have hne : (Nat.toDigits 10 n).take k ≠ [] := by
    rw [← List.length_pos_iff, List.length_take]
    omega
  refine ⟨head_append (head_digits htake hne) _, fun negative => ?_⟩
  have hr := readUnsigned?_point htake hdrop hne endsDigits_nil negative
  rw [List.append_nil, List.take_append_drop, digitsValue_toDigits, List.length_drop] at hr
  refine ⟨_, _, _, hr, ?_, by omega, by omega⟩
  rw [show (0 : Int) - (((Nat.toDigits 10 n).length - k : Nat) : Int)
    = k - (Nat.toDigits 10 n).length by omega]

/-- Digits behind the point and some zeros. -/
theorem shows_small (n k : Nat) : Shows ('0' :: '.' :: List.replicate k '0' ++ Nat.toDigits 10 n)
    ⟨n, -k - (Nat.toDigits 10 n).length⟩ := by
  have hzero : Digits ['0'] := digits_replicate 1
  have hdigits := (digits_replicate k).append (digits_toDigits n)
  refine ⟨⟨'0', rfl, rfl⟩, fun negative => ?_⟩
  have hr := readUnsigned?_point hzero hdigits (by simp) endsDigits_nil negative
  have hvalue : digitsValue 0 (['0'] ++ (List.replicate k '0' ++ Nat.toDigits 10 n)) = n := by
    rw [digitsValue_append, show digitsValue 0 ['0'] = 0 from rfl, digitsValue_append,
      digitsValue_replicate, Nat.mul_zero, digitsValue_toDigits]
  rw [List.append_nil, hvalue] at hr
  refine ⟨_, _, _, hr, ?_, by omega, ?_⟩
  · rw [List.length_append, List.length_replicate]
    rw [show (0 : Int) - ((k + (Nat.toDigits 10 n).length : Nat) : Int)
      = -k - (Nat.toDigits 10 n).length by push_cast; ring]
  · simp only [List.length_append, List.length_cons, List.length_nil, List.length_replicate]
    push_cast
    omega

/-- Digits and a point show a decimal, wherever the point is. -/
theorem shows_positional (l : Layout) (d : Decimal) : Shows
    (l.positional (Nat.toDigits 10 d.digits) (d.exponent + (Nat.toDigits 10 d.digits).length)) d := by
  obtain ⟨n, x⟩ := d
  unfold positional
  simp only
  split
  · next h =>
    obtain ⟨k, rfl⟩ : ∃ k : Nat, x = k := ⟨x.toNat, by omega⟩
    rw [show ((k : Int) + (Nat.toDigits 10 n).length - (Nat.toDigits 10 n).length).toNat = k by
      omega]
    exact shows_whole l n k
  · next h =>
    split
    · next hpos =>
      obtain ⟨k, hk⟩ : ∃ k : Nat, x + (Nat.toDigits 10 n).length = k := ⟨_, (Int.toNat_of_nonneg
        hpos.le).symm⟩
      obtain rfl : x = k - (Nat.toDigits 10 n).length := by omega
      rw [hk, Int.toNat_natCast]
      exact shows_split (by omega) (by omega)
    · next hpos =>
      obtain ⟨k, hk⟩ : ∃ k : Nat, -(x + (Nat.toDigits 10 n).length) = k := ⟨_, (Int.toNat_of_nonneg
        (by omega)).symm⟩
      obtain rfl : x = -k - (Nat.toDigits 10 n).length := by omega
      rw [hk, Int.toNat_natCast]
      exact shows_small n k

/-- What is written behind the digits of a number: the power of ten of the first one. -/
def powerText (l : Layout) (power : Int) : List Char :=
  'e' :: (if power < 0 then ['-'] else if l.signsExponent then ['+'] else []) ++
    Nat.toDigits 10 power.natAbs

theorem endsDigits_powerText (l : Layout) (power : Int) : EndsDigits (l.powerText power) power := by
  refine endsDigits_exponent power ?_
  split
  · next h => exact .inl ⟨h, rfl⟩
  · next h =>
    refine .inr ⟨not_lt.1 h, ?_⟩
    split
    · exact .inl rfl
    · exact .inr rfl

theorem scientific_one (l : Layout) (c : Char) (power : Int) :
    l.scientific [c] power = [c] ++ l.powerText power := rfl

theorem scientific_more (l : Layout) (c b : Char) (cs : List Char) (power : Int) :
    l.scientific (c :: b :: cs) power = [c] ++ '.' :: (b :: cs ++ l.powerText power) := by
  simp [scientific, powerText]

/-- One digit before the point, and an exponent. -/
theorem shows_scientific (l : Layout) (d : Decimal) (hlow : -400 < d.exponent)
    (hhigh : d.exponent < 400) : Shows (l.scientific (Nat.toDigits 10 d.digits)
      (d.exponent + (Nat.toDigits 10 d.digits).length - 1)) d := by
  obtain ⟨n, x⟩ := d
  simp only at hlow hhigh ⊢
  have hdigits := digits_toDigits n
  have hvalue := digitsValue_toDigits n
  obtain ⟨c, cs, hcs⟩ : ∃ c cs, Nat.toDigits 10 n = c :: cs :=
    List.exists_cons_of_ne_nil Nat.toDigits_ne_nil
  rw [hcs] at hdigits hvalue ⊢
  have hc : Digits [c] := by
    intro d hd
    rw [List.mem_singleton.1 hd]
    exact hdigits c List.mem_cons_self
  have hhead := head_append (head_digits hc (List.cons_ne_nil c []))
  have hpower := endsDigits_powerText l (x + (c :: cs).length - 1)
  -- a single digit is written without a point
  cases cs with
  | nil =>
    rw [scientific_one]
    refine ⟨hhead _, fun negative => ?_⟩
    have hr := readUnsigned?_digits hc (List.cons_ne_nil c []) hpower negative
    refine ⟨_, _, _, hr, ?_, ?_, ?_⟩
    · rw [hvalue]
      simp
    · simp only [List.length_singleton]
      omega
    · simp only [List.length_singleton]
      omega
  | cons b cs =>
    have hrest : Digits (b :: cs) := fun d hd => hdigits d (List.mem_cons_of_mem c hd)
    rw [scientific_more]
    refine ⟨hhead _, fun negative => ?_⟩
    have hr := readUnsigned?_point hc hrest (List.cons_ne_nil c []) hpower negative
    have hexp : x + ((c :: b :: cs).length : Int) - 1 - (b :: cs).length = x := by
      simp only [List.length_cons]
      push_cast
      omega
    have happend : [c] ++ b :: cs = c :: b :: cs := rfl
    rw [happend, hvalue, hexp] at hr
    exact ⟨_, _, _, hr, rfl, hhigh.le, by omega⟩

/-- However a decimal is written, it shows that decimal. -/
theorem shows_writeDecimal (l : Layout) (d : Decimal) (hlow : -400 < d.exponent)
    (hhigh : d.exponent < 400) : Shows (l.writeDecimal d) d := by
  unfold writeDecimal
  simp only
  split
  · rw [Int.sub_add_cancel]
    exact shows_positional l d
  · exact shows_scientific l d hlow hhigh

/-- The text of a number is read as that number. -/
theorem read?_write (l : Layout) {x : Double} (hc : Canonical x) :
    read? (l.write x).toList = some x := by
  cases x with
  | nan =>
    rw [write]
    decide
  | infinite negative =>
    rw [write]
    cases negative <;> decide
  | finite negative m e =>
    by_cases hm : m = 0
    · subst hm
      obtain rfl : e = minExponent := hc.2.1.resolve_left (by decide)
      have hzero : l.positional ['0'] 1 = ['0'] ++ (if l.keepsPoint then ['.', '0'] else []) := rfl
      cases hk : l.keepsPoint <;> cases negative <;> simp [write, hzero, hk] <;> decide
    · have hm := Nat.pos_of_ne_zero hm
      obtain ⟨-, hwithin, hlow, hhigh⟩ := shortest_spec (m := m) (e := e) hc hm l.tie
      obtain ⟨hplain, hsigned⟩ := (shows_writeDecimal l _ hlow hhigh).read?_within hc hm hwithin
      rw [write, if_neg hm.ne', String.toList_ofList]
      cases negative with
      | false => exact hplain
      | true => exact hsigned

theorem unbroken_positional (l : Layout) {digits : List Char} (h : Unbroken digits) (whole : Int) :
    Unbroken (l.positional digits whole) := by
  have hzeros (n : Nat) : Unbroken (List.replicate n '0') := (digits_replicate n).unbroken
  have hpoint : isBlank '.' = false := by decide
  have hzero : isBlank '0' = false := by decide
  unfold positional
  split
  · intro c hc
    rcases List.mem_append.1 hc with hc | hc
    · rcases List.mem_append.1 hc with hc | hc
      · exact h c hc
      · exact hzeros _ c hc
    · split at hc
      · rcases List.mem_cons.1 hc with rfl | hc
        · exact hpoint
        · rw [List.mem_singleton.1 hc]
          exact hzero
      · cases hc
  · split
    · intro c hc
      rcases List.mem_append.1 hc with hc | hc
      · exact h c (List.mem_of_mem_take hc)
      · rcases List.mem_cons.1 hc with rfl | hc
        · exact hpoint
        · exact h c (List.mem_of_mem_drop hc)
    · intro c hc
      rcases List.mem_append.1 hc with hc | hc
      · rcases List.mem_cons.1 hc with rfl | hc
        · exact hzero
        · rcases List.mem_cons.1 hc with rfl | hc
          · exact hpoint
          · exact hzeros _ c hc
      · exact h c hc

/-- A text without exponents has no blanks. -/
theorem unbroken_write_plain (x : Double) : Unbroken (plain.write x).toList := by
  cases x with
  | nan =>
    rw [write]
    exact unbroken_of_all (by decide)
  | infinite negative =>
    rw [write]
    cases negative <;> exact unbroken_of_all (by decide)
  | finite negative m e =>
    have hbody : Unbroken (if m = 0 then plain.positional ['0'] 1
        else plain.writeDecimal (shortest plain.tie m e)) := by
      split
      · exact unbroken_positional plain (digits_replicate 1).unbroken 1
      · exact unbroken_positional plain (digits_toDigits _).unbroken _
    rw [write, String.toList_ofList]
    split
    · intro c hc
      rcases List.mem_cons.1 hc with rfl | hc
      · decide
      · exact hbody c hc
    · exact hbody

/-- Canonical numbers with the same text are the same. -/
theorem write_injective (l : Layout) {x y : Double} (hx : Canonical x) (hy : Canonical y)
    (h : l.write x = l.write y) : x = y := by
  have hread := read?_write l hx
  rw [h, read?_write l hy] at hread
  exact (Option.some.inj hread).symm

end Layout

namespace Double

/-! ## Equal values -/

theorem same_self {x : Double} (h : x ≠ .nan) : x.same x = true := by
  cases x with
  | nan => exact absurd rfl h
  | infinite negative => cases negative <;> rfl
  | finite negative m e => simp [same, compare?]

/-- Canonical numbers of the same size have the same form. -/
theorem canonical_unique {m n : Nat} {e f : Int} (hm : Canonical (.finite false m e))
    (hn : Canonical (.finite false n f)) (hmpos : 0 < m) (hnpos : 0 < n)
    (h : (m : ℚ) * 2 ^ e = n * 2 ^ f) : m = n ∧ e = f := by
  obtain ⟨hden, hratio⟩ := ratio_spec m e
  have hme := roundRatio_within hm hmpos hden (hratio ▸ within_self m e) false
  have hnf := roundRatio_within hn hnpos hden ((hratio.trans h) ▸ within_self n f) false
  rw [hme] at hnf
  injection hnf with _ hmn hef
  exact ⟨hmn, hef⟩

theorem scaled_eq (negative : Bool) (m : Nat) {e low : Int} (h : low ≤ e) :
    ((scaled negative m e low : Int) : ℚ) = (if negative then -1 else 1) * (m * 2 ^ e / 2 ^ low) := by
  have hpow : (2 : ℚ) ^ (e - low).toNat = 2 ^ e / 2 ^ low := by
    rw [← zpow_natCast, Int.toNat_of_nonneg (by omega), zpow_sub₀ (by norm_num)]
  cases negative with
  | false =>
    simp only [scaled, Bool.false_eq_true, if_false, Nat.pow_eq]
    push_cast
    rw [hpow]
    ring
  | true =>
    simp only [scaled, if_true, Nat.pow_eq]
    push_cast
    rw [hpow]
    ring

/-- What a finite number is worth. -/
def worth : Double → ℚ
  | .finite negative m e => (if negative then -1 else 1) * (m * 2 ^ e)
  | _ => 0

/-- Finite numbers are compared by their worth. -/
theorem compare?_finite (a b : Bool) (m n : Nat) (e f : Int) :
    compare? (.finite a m e) (.finite b n f)
      = some (cmp (worth (.finite a m e)) (worth (.finite b n f))) := by
  have hlow := two_zpow_pos (min e f)
  have hmono : StrictMono fun i : Int => (i : ℚ) * 2 ^ min e f := fun i j hij =>
    mul_lt_mul_of_pos_right (by exact_mod_cast hij) hlow
  have hscaled (negative : Bool) (k : Nat) {x : Int} (hx : min e f ≤ x) :
      ((scaled negative k x (min e f) : Int) : ℚ) * 2 ^ min e f = worth (.finite negative k x) := by
    rw [scaled_eq negative k hx, mul_assoc, div_mul_cancel₀ _ hlow.ne', worth]
  have hcmp : cmp ((scaled a m e (min e f) : ℚ) * 2 ^ min e f)
      (scaled b n f (min e f) * 2 ^ min e f)
        = cmp (scaled a m e (min e f)) (scaled b n f (min e f)) := hmono.cmp_map_eq _ _
  rw [hscaled a m (min_le_left e f), hscaled b n (min_le_right e f)] at hcmp
  rw [compare?, hcmp, cmp_eq_compare]

theorem worth_eq_zero {a : Bool} {m : Nat} {e : Int} : worth (.finite a m e) = 0 ↔ m = 0 := by
  have hpow := (two_zpow_pos e).ne'
  cases a <;> simp [worth, hpow]

theorem worth_eq_of_same {a b : Bool} {m n : Nat} {e f : Int}
    (h : same (.finite a m e) (.finite b n f) = true) :
    worth (.finite a m e) = worth (.finite b n f) := by
  rw [same, compare?_finite] at h
  exact (cmp_eq_eq_iff _ _).1 (Option.some.inj (of_decide_eq_true h))

/-- Sign and size tell a number that is not zero. -/
theorem signed_inj {a b : Bool} {x y : ℚ} (hx : 0 < x) (hy : 0 < y)
    (h : (if a then -1 else 1) * x = (if b then -1 else 1) * y) : a = b ∧ x = y := by
  cases a <;> cases b <;>
    simp only [Bool.false_eq_true, if_false, if_true, neg_mul, one_mul, neg_inj] at h
  · exact ⟨rfl, h⟩
  · linarith
  · linarith
  · exact ⟨rfl, h⟩

/-- Finite numbers are equal as values when both are zero or they have the same form. -/
theorem finite_eq_of_same {a b : Bool} {m n : Nat} {e f : Int} (hm : Canonical (.finite a m e))
    (hn : Canonical (.finite b n f)) (h : same (.finite a m e) (.finite b n f) = true) :
    (m = 0 ∧ n = 0) ∨ (Double.finite a m e = .finite b n f) := by
  have hworth := worth_eq_of_same h
  have hzero : m = 0 ↔ n = 0 := by
    rw [← worth_eq_zero (a := a) (e := e), hworth, worth_eq_zero]
  rcases Nat.eq_zero_or_pos m with hmz | hmpos
  · exact .inl ⟨hmz, hzero.1 hmz⟩
  · have hnpos : 0 < n := Nat.pos_of_ne_zero (mt hzero.2 hmpos.ne')
    have hmq : (0 : ℚ) < m * 2 ^ e := mul_pos (by exact_mod_cast hmpos) (two_zpow_pos e)
    have hnq : (0 : ℚ) < n * 2 ^ f := mul_pos (by exact_mod_cast hnpos) (two_zpow_pos f)
    obtain ⟨rfl, hsize⟩ := signed_inj hmq hnq hworth
    obtain ⟨rfl, rfl⟩ := canonical_unique hm hn hmpos hnpos hsize
    exact .inr rfl

/-- Canonical numbers that are equal as values are the same or both zero. -/
theorem eq_of_same {x y : Double} (hx : Canonical x) (hy : Canonical y) (h : x.same y = true) :
    x = y ∨ (x.isZero = true ∧ y.isZero = true) := by
  cases x with
  | nan => cases h
  | infinite a =>
    cases y with
    | nan => cases h
    | infinite b => cases a <;> cases b <;> first | exact .inl rfl | cases h
    | finite b n f => cases a <;> cases h
  | finite a m e =>
    cases y with
    | nan => cases h
    | infinite b => cases b <;> cases h
    | finite b n f =>
      rcases finite_eq_of_same hx hy h with ⟨rfl, rfl⟩ | he
      · exact .inr ⟨rfl, rfl⟩
      · exact .inl he

end Double

end EventSearch.Number
