/-
# `EventSearch.Proofs.Numerals` — numbers in decimal are read back

The digits of a number are worth that number (`digitsValue_toDigits`), also behind zeros.  A count
that fits is read back from them (`readNat_toDigits`), and what the reader of numbers makes of
digits, of digits with a point and of digits with an exponent is told by their worth
(`readUnsigned?_digits`, `readUnsigned?_point`).  A whole number in decimal is therefore read as
the nearest binary64 number (`read?_toString`).
-/
import Mathlib.Algebra.Group.Nat.Defs
import EventSearch.Number.Double
import EventSearch.Proofs.Layout

namespace EventSearch.Number

open EventSearch.Text

/-! ## Digits -/

theorem isAsciiDigit_of_isDigit {c : Char} (h : c.isDigit = true) : isAsciiDigit c = true := by
  rw [Char.isDigit, Bool.and_eq_true, decide_eq_true_eq, decide_eq_true_eq] at h
  exact Bool.and_eq_true_iff.2 ⟨decide_eq_true h.1, decide_eq_true h.2⟩

/-- Nothing but digits. -/
def Digits (cs : List Char) : Prop := ∀ c ∈ cs, isAsciiDigit c = true

theorem digits_toDigits (n : Nat) : Digits (Nat.toDigits 10 n) := by
  intro c hc
  exact isAsciiDigit_of_isDigit (Nat.isDigit_of_mem_toDigits (by decide) (by decide) hc)

theorem digits_replicate (n : Nat) : Digits (List.replicate n '0') := by
  intro c hc
  rw [(List.mem_replicate.1 hc).2]
  rfl

theorem Digits.append {cs ds : List Char} (hc : Digits cs) (hd : Digits ds) : Digits (cs ++ ds) := by
  intro c h
  rcases List.mem_append.1 h with h | h
  · exact hc c h
  · exact hd c h

theorem digitsValue_eq (acc : Nat) (cs : List Char) :
    digitsValue acc cs = Nat.ofDigitChars 10 cs acc := by
  induction cs generalizing acc with
  | nil => rfl
  | cons c cs ih =>
    rw [Nat.ofDigitChars_cons]
    exact ih _

/-- The digits of a number are worth it. -/
@[simp]
theorem digitsValue_toDigits (n : Nat) : digitsValue 0 (Nat.toDigits 10 n) = n := by
  rw [digitsValue_eq, Nat.ofDigitChars_ten_toDigits]

theorem digitsValue_append (acc : Nat) (cs ds : List Char) :
    digitsValue acc (cs ++ ds) = digitsValue (digitsValue acc cs) ds := by
  simp only [digitsValue_eq, Nat.ofDigitChars_append]

/-- Zeros behind some digits multiply their worth. -/
theorem digitsValue_replicate (acc n : Nat) :
    digitsValue acc (List.replicate n '0') = 10 ^ n * acc := by
  rw [digitsValue_eq, Nat.ofDigitChars_replicate_zero]

theorem Digits.unbroken {cs : List Char} (h : Digits cs) : Unbroken cs := by
  intro c hc
  have hd := h c hc
  rw [isAsciiDigit, Bool.and_eq_true, decide_eq_true_eq, decide_eq_true_eq] at hd
  have hlow : 48 ≤ c.toNat := hd.1
  have hhigh : c.toNat ≤ 57 := hd.2
  exact not_blank_of_printable (by omega) (by omega)

/-! ## Counts -/

theorem le_digitsValue (acc : Nat) (cs : List Char) : acc ≤ digitsValue acc cs := by
  induction cs generalizing acc with
  | nil => exact Nat.le_refl acc
  | cons c cs ih =>
    have hle : acc ≤ 10 * acc + digitValue c := by omega
    exact Nat.le_trans hle (ih _)

theorem readDigits_of_le {most : Nat} (excess : WholeError) {cs : List Char} (h : Digits cs)
    {acc : Nat} (hv : digitsValue acc cs ≤ most) :
    readDigits most excess acc cs = .ok (digitsValue acc cs) := by
  induction cs generalizing acc with
  | nil => rfl
  | cons c cs ih =>
    have hc : isAsciiDigit c = true := h c List.mem_cons_self
    have hle : 10 * acc + digitValue c ≤ most := Nat.le_trans (le_digitsValue _ cs) hv
    have hrest := ih (fun d hd => h d (List.mem_cons_of_mem c hd)) hv
    simp only [readDigits, hc, hle, if_true, hrest]
    rfl

theorem readDigits_le {most : Nat} {excess : WholeError} {cs : List Char} {acc n : Nat}
    (h : readDigits most excess acc cs = .ok n) (ha : acc ≤ most) : n ≤ most := by
  induction cs generalizing acc with
  | nil => exact Except.ok.inj h ▸ ha
  | cons c cs ih =>
    simp only [readDigits] at h
    split at h
    · split at h
      · next hle => exact ih h hle
      · cases h
    · cases h

theorem readNat_le {most : Nat} {cs : List Char} {n : Nat} (h : readNat most cs = .ok n) :
    n ≤ most := by
  unfold readNat at h
  split at h
  · cases h
  · cases h
  · exact readDigits_le h (Nat.zero_le most)
  · exact readDigits_le h (Nat.zero_le most)

/-- A number in decimal is read back when it fits. -/
theorem readNat_toDigits {most n : Nat} (h : n ≤ most) :
    readNat most (Nat.toDigits 10 n) = .ok n := by
  have hdigits := digits_toDigits n
  have hread : readDigits most .tooLarge 0 (Nat.toDigits 10 n) = .ok n := by
    have hv : digitsValue 0 (Nat.toDigits 10 n) ≤ most := by rwa [digitsValue_toDigits]
    rw [readDigits_of_le .tooLarge hdigits hv, digitsValue_toDigits]
  obtain ⟨d, ds, hd⟩ : ∃ d ds, Nat.toDigits 10 n = d :: ds :=
    List.exists_cons_of_ne_nil Nat.toDigits_ne_nil
  have hplus : d ≠ '+' := by
    rintro rfl
    cases hdigits '+' (hd ▸ List.mem_cons_self)
  rw [hd] at hread ⊢
  unfold readNat
  split
  · next he => cases he
  · next he => exact absurd (List.cons.inj he).1 hplus
  · next he => exact absurd (List.cons.inj he).1 hplus
  · exact hread

/-! ## Unsigned numbers -/

namespace Double

/-- What may follow the digits of a number: nothing, or an exponent. -/
structure EndsDigits (tail : List Char) (exponent : Int) : Prop where
  head : ∀ c ∈ tail.head?, isAsciiDigit c = false ∧ c ≠ '.'
  exponent : readExponent? tail = some exponent

theorem endsDigits_nil : EndsDigits [] 0 := ⟨by simp, rfl⟩

/-- An exponent, with a sign when it is negative and perhaps when it is not. -/
theorem endsDigits_exponent (power : Int) {sign : List Char}
    (hs : power < 0 ∧ sign = ['-'] ∨ 0 ≤ power ∧ (sign = ['+'] ∨ sign = [])) :
    EndsDigits ('e' :: sign ++ Nat.toDigits 10 power.natAbs) power := by
  have hdigits := digits_toDigits power.natAbs
  have hall : (Nat.toDigits 10 power.natAbs).all isAsciiDigit = true := List.all_eq_true.2 hdigits
  obtain ⟨d, ds, hd⟩ : ∃ d ds, Nat.toDigits 10 power.natAbs = d :: ds :=
    List.exists_cons_of_ne_nil Nat.toDigits_ne_nil
  have hvalue := digitsValue_toDigits power.natAbs
  refine ⟨fun c hc => ?_, ?_⟩
  · rw [← Option.some.inj hc]
    exact ⟨rfl, by decide⟩
  · have hplus : d ≠ '+' := by
      rintro rfl
      cases hdigits '+' (hd ▸ List.mem_cons_self)
    have hminus : d ≠ '-' := by
      rintro rfl
      cases hdigits '-' (hd ▸ List.mem_cons_self)
    rw [hd] at hall hvalue ⊢
    rcases hs with ⟨hneg, rfl⟩ | ⟨hpos, rfl | rfl⟩
    · simp only [readExponent?, List.cons_append, List.nil_append, hall, hvalue]
      simp only [List.isEmpty_cons, true_or, if_true, Bool.not_true, Bool.or_self,
        Bool.false_eq_true, if_false, Option.some.injEq]
      omega
    · simp only [readExponent?, List.cons_append, List.nil_append, hall, hvalue]
      simp only [List.isEmpty_cons, true_or, if_true, Bool.not_true, Bool.or_self,
        Bool.false_eq_true, if_false, Option.some.injEq]
      omega
    · simp only [readExponent?, List.cons_append, List.nil_append]
      simp only [true_or, if_true]
      split
      · next he => exact absurd (List.cons.inj he).1 hminus
      · next he => exact absurd (List.cons.inj he).1 hplus
      · simp only [hall, hvalue, List.isEmpty_cons, Bool.not_true, Bool.or_self,
          Bool.false_eq_true, if_false, Option.some.injEq]
        omega

/-- Digits without a point. -/
theorem readUnsigned?_digits {cs tail : List Char} {x : Int} (h : Digits cs) (hne : cs ≠ [])
    (ht : EndsDigits tail x) (negative : Bool) : readUnsigned? negative (cs ++ tail)
      = some (ofDecimal negative (digitsValue 0 cs) cs.length x) := by
  obtain ⟨htake, hdrop⟩ := takeWhile_run h tail fun c hc => (ht.head c hc).1
  have hempty : cs.isEmpty = false := by
    cases cs with
    | nil => exact absurd rfl hne
    | cons c cs => rfl
  unfold readUnsigned?
  simp only [htake, hdrop]
  split
  · exact absurd rfl (ht.head '.' rfl).2
  · simp [hempty, ht.exponent]

/-- Digits, a point and digits. -/
theorem readUnsigned?_point {cs ds tail : List Char} {x : Int} (hc : Digits cs) (hd : Digits ds)
    (hne : cs ≠ []) (ht : EndsDigits tail x) (negative : Bool) :
    readUnsigned? negative (cs ++ '.' :: (ds ++ tail))
      = some (ofDecimal negative (digitsValue 0 (cs ++ ds)) (cs ++ ds).length (x - ds.length)) := by
  obtain ⟨htake, hdrop⟩ := takeWhile_run hc ('.' :: (ds ++ tail)) fun c hc => by
    rw [← Option.some.inj hc]
    rfl
  obtain ⟨htaked, hdropd⟩ := takeWhile_run hd tail fun c hc => (ht.head c hc).1
  have hempty : (cs ++ ds).isEmpty = false := by
    cases cs with
    | nil => exact absurd rfl hne
    | cons c cs => rfl
  simp [readUnsigned?, htake, hdrop, htaked, hdropd, hempty, ht.exponent]

/-- A digit starts no word. -/
theorem readWord?_digit {c : Char} (h : isAsciiDigit c = true) (negative : Bool) (cs : List Char) :
    readWord? negative (c :: cs) = none := by
  have hle : c ≤ '9' := by
    rw [isAsciiDigit, Bool.and_eq_true] at h
    exact of_decide_eq_true h.2
  have hlower {d : Char} (hd : '9' < d) : c ≠ d := by
    rintro rfl
    exact absurd hle (Char.not_le.2 hd)
  have hupper : isAsciiUpper c = false := by
    rw [isAsciiUpper, Bool.and_eq_false_iff]
    exact .inl (decide_eq_false fun hA => absurd (Char.le_trans hA hle) (by decide))
  have hi : c ≠ 'i' := hlower (by decide)
  have hn : c ≠ 'n' := hlower (by decide)
  simp [readWord?, hupper, hi, hn]

/-- What starts with a digit is no sign and no word. -/
theorem read?_unsigned {cs : List Char} (h : ∃ c, cs.head? = some c ∧ isAsciiDigit c = true) :
    read? cs = readUnsigned? false cs ∧ read? ('-' :: cs) = readUnsigned? true cs := by
  obtain ⟨c, hc, hd⟩ := h
  obtain ⟨cs, rfl⟩ : ∃ tail, cs = c :: tail := by
    cases cs with
    | nil => cases hc
    | cons d tail => exact ⟨tail, by rw [Option.some.inj hc]⟩
  have hplus : c ≠ '+' := by
    rintro rfl
    cases hd
  have hminus : c ≠ '-' := by
    rintro rfl
    cases hd
  constructor
  · rw [read?.eq_def]
    split
    · next he => exact absurd (List.cons.inj he).1 hminus
    · next he => exact absurd (List.cons.inj he).1 hplus
    · rw [readWord?_digit hd]
      rfl
  · simp only [read?, readWord?_digit hd]
    rfl

theorem head_digits {cs : List Char} (h : Digits cs) (hne : cs ≠ []) :
    ∃ c, cs.head? = some c ∧ isAsciiDigit c = true := by
  cases cs with
  | nil => exact absurd rfl hne
  | cons c cs => exact ⟨c, rfl, h c List.mem_cons_self⟩

/-! ## Whole numbers -/

theorem ofDecimal_whole (negative : Bool) (n count : Nat) :
    ofDecimal negative n count 0 = roundRatio negative n 1 := by
  have hle : ¬ (0 : Int) > 400 := by omega
  have hge : ¬ (count + 0 : Int) < -400 := by omega
  simp only [ofDecimal, hle, hge, if_false]
  by_cases hn : n = 0
  · simp [hn, roundRatio]
  · rw [if_neg hn]
    exact congrArg (roundRatio negative · 1) (Nat.mul_one n)

/-- A whole number in decimal is its size, behind a sign when it is negative. -/
theorem toList_toString (n : Int) : (toString n).toList =
    if n < 0 then '-' :: Nat.toDigits 10 n.natAbs else Nat.toDigits 10 n.natAbs := by
  rw [Int.toString_eq_repr, Int.repr_eq_if]
  by_cases h : n < 0
  · rw [if_pos h, if_neg (by omega), String.toList_append, Nat.toList_repr,
      show (-n).toNat = n.natAbs by omega]
    rfl
  · rw [if_neg h, if_pos (by omega), Nat.toList_repr, show n.toNat = n.natAbs by omega]

/-- A whole number in decimal is read as the nearest number. -/
theorem read?_toString (n : Int) : read? (toString n).toList = some (ofInt n) := by
  have hdigits := digits_toDigits n.natAbs
  obtain ⟨hplain, hsigned⟩ := read?_unsigned (head_digits hdigits Nat.toDigits_ne_nil)
  have hread (negative : Bool) : readUnsigned? negative (Nat.toDigits 10 n.natAbs)
      = some (roundRatio negative n.natAbs 1) := by
    have hr := readUnsigned?_digits hdigits Nat.toDigits_ne_nil endsDigits_nil negative
    rwa [List.append_nil, digitsValue_toDigits, ofDecimal_whole] at hr
  rw [toList_toString, ofInt]
  by_cases h : n < 0
  · rw [if_pos h, hsigned, hread, decide_eq_true h]
  · rw [if_neg h, hplain, hread, decide_eq_false h]

theorem unbroken_toString (n : Int) : Unbroken (toString n).toList := by
  have hdigits := (digits_toDigits n.natAbs).unbroken
  rw [toList_toString]
  split
  · intro c hc
    rcases List.mem_cons.1 hc with rfl | hc
    · decide
    · exact hdigits c hc
  · exact hdigits

/-- No two whole numbers have the same digits and sign. -/
theorem toString_injective {m n : Int} (h : toString m = toString n) : m = n := by
  have hlist := congrArg String.toList h
  have hworth : n.natAbs = m.natAbs → (n < 0 ↔ m < 0) → m = n := by omega
  have hdigits {a b : Nat} (he : Nat.toDigits 10 a = Nat.toDigits 10 b) : b = a := by
    rw [← digitsValue_toDigits a, he, digitsValue_toDigits]
  have hsign {a b : Nat} (he : '-' :: Nat.toDigits 10 a = Nat.toDigits 10 b) : False := by
    have hd := digits_toDigits b '-' (he ▸ List.mem_cons_self)
    cases hd
  rw [toList_toString, toList_toString] at hlist
  by_cases hm : m < 0
  · by_cases hn : n < 0
    · rw [if_pos hm, if_pos hn] at hlist
      exact hworth (hdigits (List.cons.inj hlist).2) ⟨fun _ => hm, fun _ => hn⟩
    · rw [if_pos hm, if_neg hn] at hlist
      exact (hsign hlist).elim
  · by_cases hn : n < 0
    · rw [if_neg hm, if_pos hn] at hlist
      exact (hsign hlist.symm).elim
    · rw [if_neg hm, if_neg hn] at hlist
      exact hworth (hdigits hlist) ⟨fun h => absurd h hn, fun h => absurd h hm⟩

end Double

end EventSearch.Number
