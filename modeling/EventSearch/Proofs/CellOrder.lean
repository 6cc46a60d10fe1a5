/-
# `EventSearch.Proofs.CellOrder` — the order of cells, and what sorting makes of it

The order of cells is meant to be total up to ties.  Turning the sides round turns it round
(`Value.order_swap`), and among nothing, truth values, timestamps and texts it is transitive.  Among
numbers a cell may hide that two others are out of order, being tied with both (`Value.Hides`):

    2⁵³ + 1   tied with the float 2⁵³   tied with 2⁵³    whole numbers compare exactly, floats do not
    1         tied with NaN             tied with 0      what is no number is tied with every number

Three cells keep to transitivity exactly when the middle one hides nothing
(`Value.order_trans_iff`).  Rows are sorted by their annotated columns, taken from the left, when no
cell of an annotated column hides anything (`sortRows_inOrder`).
-/
import Mathlib.Order.WithBot
import EventSearch.Proofs.RoundedOrder
import EventSearch.Provider.Grouping

namespace EventSearch.Number.Double

/-! ## Floats -/

/-- Where a number stands among all of them, the infinite ones at the ends. -/
def place : Double → WithBot (WithTop ℚ)
  | .infinite negative => if negative then ⊥ else ((⊤ : WithTop ℚ) : WithBot (WithTop ℚ))
  | x => ((worth x : WithTop ℚ) : WithBot (WithTop ℚ))

/-- Numbers are compared by their places. -/
theorem compare?_place {x y : Double} (hx : x ≠ .nan) (hy : y ≠ .nan) :
    x.compare? y = some (cmp x.place y.place) := by
  cases x with
  | nan => exact absurd rfl hx
  | infinite a =>
    cases y with
    | nan => exact absurd rfl hy
    | infinite b =>
      have hends : ∀ a b : Bool,
          compare b.toNat a.toNat = cmp (place (.infinite a)) (place (.infinite b)) := by
        decide
      exact congrArg some (hends a b)
    | finite b n f => cases a <;> simp [compare?, place, cmp, cmpUsing]
  | finite a m e =>
    cases y with
    | nan => exact absurd rfl hy
    | infinite b => cases b <;> simp [compare?, place, cmp, cmpUsing]
    | finite b n f =>
      rw [compare?_finite]
      simp [place, cmp, cmpUsing]

theorem compare?_nan (x : Double) : x.compare? .nan = none := by
  cases x <;> rfl

theorem nan_compare? (x : Double) : compare? .nan x = none := rfl

theorem compare?_swap (x y : Double) : y.compare? x = (x.compare? y).map Ordering.swap := by
  by_cases hx : x = .nan
  · rw [hx, compare?_nan, nan_compare?, Option.map_none]
  by_cases hy : y = .nan
  · rw [hy, compare?_nan, nan_compare?, Option.map_none]
  rw [compare?_place hx hy, compare?_place hy hx, Option.map_some, cmp_swap]

theorem same_iff_place {x y : Double} (hx : x ≠ .nan) (hy : y ≠ .nan) :
    x.same y = true ↔ x.place = y.place := by
  rw [same, compare?_place hx hy, decide_eq_true_eq, Option.some.injEq, cmp_eq_eq_iff]

theorem ofInt_ne_nan (n : Int) : ofInt n ≠ .nan := roundRatio_ne_nan _ _ _

theorem place_ofInt_le {n m : Int} (hn : IsInt64 n) (hm : IsInt64 m) (h : n ≤ m) :
    (ofInt n).place ≤ (ofInt m).place := by
  have hplace {k : Int} (hk : IsInt64 k) :
      (ofInt k).place = ((worth (ofInt k) : WithTop ℚ) : WithBot (WithTop ℚ)) := by
    obtain ⟨l, e, he, -⟩ := ofInt_finite hk
    rw [he]
    rfl
  rw [hplace hn, hplace hm, WithBot.coe_le_coe, WithTop.coe_le_coe]
  exact worth_ofInt_mono hn hm h

end EventSearch.Number.Double

namespace EventSearch.Data

open EventSearch.Number EventSearch.Calendar

/-! ## Orders among the elements of a list -/

section Orders

variable {α β : Type} {o p : α → α → Ordering} {xs : List α}

/-- An order that is total up to ties among the elements of a list. -/
structure OrdersOn (o : α → α → Ordering) (xs : List α) : Prop where
  swap : ∀ a ∈ xs, ∀ b ∈ xs, o b a = (o a b).swap
  trans : ∀ a ∈ xs, ∀ b ∈ xs, ∀ c ∈ xs, o a b ≠ .gt → o b c ≠ .gt → o a c ≠ .gt

theorem cmp_trans [Std.TransCmp o] {a b c : α} (hab : o a b ≠ .gt) (hbc : o b c ≠ .gt) :
    o a c ≠ .gt :=
  Ordering.isLE_iff_ne_gt.1 <|
    Std.TransCmp.isLE_trans (Ordering.isLE_iff_ne_gt.2 hab) (Ordering.isLE_iff_ne_gt.2 hbc)

theorem swap_ne_gt {o : Ordering} : o.swap ≠ .gt ↔ o ≠ .lt := by
  cases o <;> decide

theorem then_ne_gt {o p : Ordering} : o.then p ≠ .gt ↔ o ≠ .gt ∧ (o = .eq → p ≠ .gt) := by
  cases o <;> cases p <;> decide

namespace OrdersOn

theorem tied (xs : List α) : OrdersOn (fun _ _ => .eq) xs where
  swap _ _ _ _ := rfl
  trans _ _ _ _ _ _ _ _ := Ordering.noConfusion

theorem congr (h : OrdersOn o xs) (heq : ∀ a ∈ xs, ∀ b ∈ xs, p a b = o a b) : OrdersOn p xs where
  swap a ha b hb := by
    rw [heq a ha b hb, heq b hb a ha]
    exact h.swap a ha b hb
  trans a ha b hb c hc := by
    rw [heq a ha b hb, heq b hb c hc, heq a ha c hc]
    exact h.trans a ha b hb c hc

theorem comap {f : β → α} {ys : List β} (h : OrdersOn o (ys.map f)) :
    OrdersOn (fun a b => o (f a) (f b)) ys where
  swap _ ha _ hb := h.swap _ (List.mem_map_of_mem ha) _ (List.mem_map_of_mem hb)
  trans _ ha _ hb _ hc :=
    h.trans _ (List.mem_map_of_mem ha) _ (List.mem_map_of_mem hb) _ (List.mem_map_of_mem hc)

theorem apply (h : OrdersOn o xs) (d : Direction) : OrdersOn (fun a b => d.apply (o a b)) xs := by
  cases d with
  | asc => exact h
  | desc =>
    refine ⟨fun a ha b hb => congrArg Ordering.swap (h.swap a ha b hb),
      fun a ha b hb c hc hab hbc => ?_⟩
    simp only [Direction.apply, ← h.swap a ha b hb, ← h.swap b hb c hc, ← h.swap a ha c hc] at *
    exact h.trans c hc b hb a ha hbc hab

theorem andThen (h : OrdersOn o xs) (h' : OrdersOn p xs) :
    OrdersOn (fun a b => (o a b).then (p a b)) xs where
  swap a ha b hb := by
    rw [h.swap a ha b hb, h'.swap a ha b hb, Ordering.swap_then]
  trans a ha b hb c hc hab hbc := by
    obtain ⟨hab, hab'⟩ := then_ne_gt.1 hab
    obtain ⟨hbc, hbc'⟩ := then_ne_gt.1 hbc
    refine then_ne_gt.2 ⟨h.trans a ha b hb c hc hab hbc, fun hac => ?_⟩
    -- a tie of the outer two is a tie of all three
    have hca : o c a ≠ .gt := by
      rw [h.swap a ha c hc, hac]
      decide
    have hba := h.trans b hb c hc a ha hbc hca
    have hcb := h.trans c hc a ha b hb hca hab
    rw [h.swap a ha b hb, swap_ne_gt] at hba
    rw [h.swap b hb c hc, swap_ne_gt] at hcb
    have htie {o : Ordering} (hlt : o ≠ .lt) (hgt : o ≠ .gt) : o = .eq := by
      cases o with
      | lt => exact absurd rfl hlt
      | eq => rfl
      | gt => exact absurd rfl hgt
    exact h'.trans a ha b hb c hc (hab' (htie hba hab)) (hbc' (htie hcb hbc))

/-- A sorted list goes by the order. -/
theorem sorted (h : OrdersOn o xs) : (sortBy o xs).Pairwise fun a b => o a b ≠ .gt := by
  refine sortBy_pairwise (fun a _ b _ hlt => ?_) (fun a ha b hb hge => ?_) h.trans
  · rw [hlt]
    decide
  · rw [h.swap a ha b hb, swap_ne_gt]
    exact hge

end OrdersOn

end Orders

namespace Value

/-! ## Cells of one kind -/

theorem orderChars_eq : orderChars = List.compareLex (compareOn Char.toNat) := by
  funext as bs
  induction as generalizing bs with
  | nil => cases bs <;> rfl
  | cons a as ih =>
    cases bs with
    | nil => rfl
    | cons b bs => rw [orderChars, List.compareLex_cons_cons, ih, compareOn]

instance : Std.TransCmp orderChars := orderChars_eq ▸ inferInstance

/-- Cells of two kinds are in the order of their kinds. -/
theorem order_of_rank_ne {a b : Value} (h : a.rank ≠ b.rank) :
    a.order b = compare a.rank b.rank := by
  cases a <;> cases b <;> simp_all [order, rank]

theorem rank_le_of_order {a b : Value} (h : a.order b ≠ .gt) : a.rank ≤ b.rank := by
  by_contra hlt
  rw [order_of_rank_ne (by omega)] at h
  exact h (Nat.compare_eq_gt.2 (by omega))

theorem bool_of_rank {a : Value} (h : a.rank = 1) : ∃ b, a = .bool b := by
  cases a with
  | bool b => exact ⟨b, rfl⟩
  | _ => cases h

theorem number_of_rank {a : Value} (h : a.rank = 2) :
    (∃ n, a = .integer n) ∨ ∃ x, a = .float x := by
  cases a with
  | integer n => exact .inl ⟨n, rfl⟩
  | float x => exact .inr ⟨x, rfl⟩
  | _ => cases h

theorem timestamp_of_rank {a : Value} (h : a.rank = 3) : ∃ t, a = .timestamp t := by
  cases a with
  | timestamp t => exact ⟨t, rfl⟩
  | _ => cases h

theorem text_of_rank {a : Value} (h : a.rank = 4) : ∃ s, a = .text s := by
  cases a with
  | text s => exact ⟨s, rfl⟩
  | _ => cases h

/-- The order of timestamps, by seconds and then nanoseconds. -/
theorem order_timestamp (t u : Timestamp) : order (.timestamp t) (.timestamp u) =
    compareLex (compareOn fun t => t.utc.seconds) (compareOn fun t => t.utc.nanos) t u := rfl

theorem swapped_getD (x y : Double) :
    (y.compare? x).getD .eq = ((x.compare? y).getD .eq).swap := by
  rw [Double.compare?_swap]
  cases x.compare? y <;> rfl

/-- Turning the sides round turns the order round. -/
theorem order_swap (a b : Value) : b.order a = (a.order b).swap := by
  by_cases h : a.rank = b.rank
  · cases a with
    | null =>
      cases b with
      | null => rfl
      | _ => cases h
    | bool a =>
      obtain ⟨b, rfl⟩ := bool_of_rank h.symm
      have hbool : Std.OrientedCmp (compareOn Bool.toNat) := inferInstance
      exact hbool.eq_swap
    | integer n =>
      obtain ⟨m, rfl⟩ | ⟨y, rfl⟩ := number_of_rank h.symm
      · have hint : Std.OrientedCmp (compare : Int → Int → Ordering) := inferInstance
        exact hint.eq_swap
      · exact swapped_getD (.ofInt n) y
    | float x =>
      obtain ⟨m, rfl⟩ | ⟨y, rfl⟩ := number_of_rank h.symm
      · exact swapped_getD x (.ofInt m)
      · exact swapped_getD x y
    | timestamp t =>
      obtain ⟨u, rfl⟩ := timestamp_of_rank h.symm
      rw [order_timestamp, order_timestamp]
      exact Std.OrientedCmp.eq_swap
    | text s =>
      obtain ⟨t, rfl⟩ := text_of_rank h.symm
      have htext : Std.OrientedCmp orderChars := inferInstance
      exact htext.eq_swap
  · rw [order_of_rank_ne h, order_of_rank_ne (Ne.symm h)]
    exact Std.OrientedCmp.eq_swap

/-- Among cells of one kind that are no numbers the order is transitive. -/
theorem order_trans_kind {a b c : Value} (ha : a.rank ≠ 2) (hb : b.rank = a.rank)
    (hc : c.rank = a.rank) (hab : a.order b ≠ .gt) (hbc : b.order c ≠ .gt) : a.order c ≠ .gt := by
  cases a with
  | null =>
    cases c with
    | null => decide
    | _ => cases hc
  | bool a =>
    obtain ⟨b, rfl⟩ := bool_of_rank hb
    obtain ⟨c, rfl⟩ := bool_of_rank hc
    exact cmp_trans (o := compareOn Bool.toNat) hab hbc
  | integer n => exact absurd rfl ha
  | float x => exact absurd rfl ha
  | timestamp t =>
    obtain ⟨u, rfl⟩ := timestamp_of_rank hb
    obtain ⟨v, rfl⟩ := timestamp_of_rank hc
    rw [order_timestamp] at *
    exact cmp_trans hab hbc
  | text s =>
    obtain ⟨t, rfl⟩ := text_of_rank hb
    obtain ⟨u, rfl⟩ := text_of_rank hc
    exact cmp_trans (o := orderChars) hab hbc

/-! ## Numbers -/

def isFloat : Value → Bool
  | .float _ => true
  | _ => false

section Numbers

variable {a b c : Value}

/-- Two numbers of which one is a float compare as floats. -/
theorem order_number (ha : a.rank = 2) (hb : b.rank = 2)
    (h : a.isFloat = true ∨ b.isFloat = true) :
    a.order b = (a.number.compare? b.number).getD .eq := by
  obtain ⟨n, rfl⟩ | ⟨x, rfl⟩ := number_of_rank ha <;>
    obtain ⟨m, rfl⟩ | ⟨y, rfl⟩ := number_of_rank hb
  · rcases h with h | h <;> cases h
  all_goals rfl

theorem number_ne_nan (ha : a.rank = 2) (h : a ≠ .float .nan) : a.number ≠ .nan := by
  obtain ⟨n, rfl⟩ | ⟨x, rfl⟩ := number_of_rank ha
  · exact Double.ofInt_ne_nan n
  · exact fun hx => h (congrArg Value.float hx)

theorem order_place (ha : a.rank = 2) (hb : b.rank = 2) (hna : a ≠ .float .nan)
    (hnb : b ≠ .float .nan) (h : a.isFloat = true ∨ b.isFloat = true) :
    a.order b = cmp a.number.place b.number.place := by
  rw [order_number ha hb h,
    Double.compare?_place (number_ne_nan ha hna) (number_ne_nan hb hnb), Option.getD_some]

/-- What is no number is tied with every number. -/
theorem order_nan (ha : a.rank = 2) : a.order (.float .nan) = .eq := by
  rw [order_number ha rfl (.inr rfl), number, Double.compare?_nan, Option.getD_none]

theorem nan_order (hb : b.rank = 2) : order (.float .nan) b = .eq := by
  rw [order_swap, order_nan hb, Ordering.swap_eq]

end Numbers

/-- A cell as data has it: whole numbers have 64 bits. -/
def Held : Value → Prop
  | .integer n => IsInt64 n
  | _ => True

instance (a : Value) : Decidable a.Held := by
  cases a <;> unfold Held <;> infer_instance

/-- The middle one of three cells hides that the outer ones are out of order. -/
inductive Hides : Value → Value → Value → Prop
  /-- What is no number hides any disorder of numbers. -/
  | noNumber {a c : Value} : a.rank = 2 → c.rank = 2 → a.order c = .gt → Hides a (.float .nan) c
  /-- A float hides the order of whole numbers that are both rounded to it. -/
  | rounded {n m : Int} {x : Double} : m < n → (Double.ofInt n).same x = true →
      x.same (.ofInt m) = true → Hides (.integer n) (.float x) (.integer m)

section Triples

variable {a b c : Value}

theorem Hides.out_of_order (h : Hides a b c) :
    a.order b ≠ .gt ∧ b.order c ≠ .gt ∧ a.order c = .gt := by
  cases h with
  | noNumber ha hc hac =>
    rw [order_nan ha, nan_order hc]
    exact ⟨by decide, by decide, hac⟩
  | rounded hlt hn hm =>
    rw [order_number rfl rfl (.inr rfl), order_number rfl rfl (.inl rfl)]
    simp only [number, of_decide_eq_true hn, of_decide_eq_true hm, Option.getD_some]
    exact ⟨by decide, by decide, Int.compare_eq_gt.2 hlt⟩

/-- Numbers in order have places in order. -/
theorem place_le (ha : a.rank = 2) (hb : b.rank = 2) (hna : a ≠ .float .nan)
    (hnb : b ≠ .float .nan) (hheld : a.Held) (hheld' : b.Held) (h : a.order b ≠ .gt) :
    a.number.place ≤ b.number.place := by
  by_cases hfloat : a.isFloat = true ∨ b.isFloat = true
  · rw [order_place ha hb hna hnb hfloat, ne_eq, cmp_eq_gt_iff, not_lt] at h
    exact h
  · obtain ⟨n, rfl⟩ | ⟨x, rfl⟩ := number_of_rank ha
    · obtain ⟨m, rfl⟩ | ⟨y, rfl⟩ := number_of_rank hb
      · rw [order, ne_eq, Int.compare_eq_gt, not_lt] at h
        exact Double.place_ofInt_le hheld hheld' h
      · exact absurd (.inr rfl) hfloat
    · exact absurd (.inl rfl) hfloat

/-- Whole numbers out of order that change places when they are rounded are hidden by a float. -/
theorem hides_of_integers {n m : Int} (hb : b.rank = 2) (hnb : b ≠ .float .nan) (hn : IsInt64 n)
    (hb' : b.Held) (hm : IsInt64 m) (hab : order (.integer n) b ≠ .gt)
    (hbc : b.order (.integer m) ≠ .gt) (hlt : m < n) : Hides (.integer n) b (.integer m) := by
  have hab_place := place_le (a := .integer n) rfl hb Value.noConfusion hnb hn hb' hab
  have hbc_place := place_le (b := .integer m) hb rfl hnb Value.noConfusion hb' hm hbc
  have hca_place := Double.place_ofInt_le hm hn hlt.le
  obtain ⟨k, rfl⟩ | ⟨y, rfl⟩ := number_of_rank hb
  · simp only [order, ne_eq, Int.compare_eq_gt] at hab hbc
    omega
  · have hy := number_ne_nan hb hnb
    refine .rounded hlt ?_ ?_
    · exact (Double.same_iff_place (Double.ofInt_ne_nan n) hy).2
        (le_antisymm hab_place (hbc_place.trans hca_place))
    · exact (Double.same_iff_place hy (Double.ofInt_ne_nan m)).2
        (le_antisymm hbc_place (hca_place.trans hab_place))

/-- Of three numbers only a hidden disorder breaks transitivity. -/
theorem hides_of_numbers (ha : a.rank = 2) (hb : b.rank = 2) (hc : c.rank = 2) (ha' : a.Held)
    (hb' : b.Held) (hc' : c.Held) (hab : a.order b ≠ .gt) (hbc : b.order c ≠ .gt)
    (hac : a.order c = .gt) : Hides a b c := by
  by_cases hnb : b = .float .nan
  · rw [hnb]
    exact .noNumber ha hc hac
  have hna : a ≠ .float .nan := by
    rintro rfl
    rw [nan_order hc] at hac
    cases hac
  have hnc : c ≠ .float .nan := by
    rintro rfl
    rw [order_nan ha] at hac
    cases hac
  by_cases hfloat : a.isFloat = true ∨ c.isFloat = true
  · have hab_place := place_le ha hb hna hnb ha' hb' hab
    have hbc_place := place_le hb hc hnb hnc hb' hc' hbc
    rw [order_place ha hc hna hnc hfloat, cmp_eq_gt_iff] at hac
    exact absurd (hab_place.trans hbc_place) (not_le.2 hac)
  · obtain ⟨n, rfl⟩ | ⟨x, rfl⟩ := number_of_rank ha
    · obtain ⟨m, rfl⟩ | ⟨z, rfl⟩ := number_of_rank hc
      · exact hides_of_integers hb hnb ha' hb' hc' hab hbc (Int.compare_eq_gt.1 hac)
      · exact absurd (.inr rfl) hfloat
    · exact absurd (.inl rfl) hfloat

/-- Three cells keep to transitivity exactly when the middle one hides nothing. -/
theorem order_trans_iff (ha : a.Held) (hb : b.Held) (hc : c.Held) :
    (a.order b ≠ .gt → b.order c ≠ .gt → a.order c ≠ .gt) ↔ ¬ Hides a b c := by
  constructor
  · intro htrans hhides
    obtain ⟨hab, hbc, hac⟩ := hhides.out_of_order
    exact htrans hab hbc hac
  · intro hnot hab hbc
    have hrank := rank_le_of_order hab
    have hrank' := rank_le_of_order hbc
    by_cases hsame : a.rank = c.rank
    · by_cases hnumber : a.rank = 2
      · exact fun hac => hnot
          (hides_of_numbers hnumber (by omega) (by omega) ha hb hc hab hbc hac)
      · exact order_trans_kind hnumber (by omega) hsame.symm hab hbc
    · rw [order_of_rank_ne hsame, ne_eq, Nat.compare_eq_gt]
      omega

end Triples

/-- A cell that no other is wrongly tied with: no NaN, and no whole number of more than 2⁵³. -/
def Exact : Value → Prop
  | .integer n => n.natAbs ≤ 2 ^ 53
  | .float x => x ≠ .nan
  | _ => True

instance (a : Value) : Decidable a.Exact := by
  cases a <;> unfold Exact <;> infer_instance

theorem isInt64_of_small {n : Int} (h : n.natAbs ≤ 2 ^ 53) : IsInt64 n := by
  have hmax : maxInt64 = 2 ^ 63 - 1 := rfl
  unfold IsInt64
  omega

/-- Whole numbers up to 2⁵³ and floats that are numbers hide nothing. -/
theorem not_hides_of_exact {a b c : Value} (ha : a.Exact) (hb : b.Exact) (hc : c.Exact) :
    ¬ Hides a b c := by
  intro h
  cases h with
  | noNumber => exact hb rfl
  | @rounded n m x hlt hn hm =>
    have hx : x ≠ .nan := hb
    rw [Double.same_iff_place (Double.ofInt_ne_nan n) hx] at hn
    rw [Double.same_iff_place hx (Double.ofInt_ne_nan m)] at hm
    have hsame : (Double.ofInt n).same (.ofInt m) = true :=
      (Double.same_iff_place (Double.ofInt_ne_nan n) (Double.ofInt_ne_nan m)).2 (hn.trans hm)
    have hfloats := of_decide_eq_true hsame
    rw [Double.compare?_ofInt (isInt64_of_small ha) (isInt64_of_small hc), Option.some.injEq] at hfloats
    split at hfloats
    · next he =>
      have hnm := Double.ofInt_injective ha hc he
      omega
    · have hnm := Int.compare_eq_eq.1 hfloats
      omega

end Value
end EventSearch.Data

namespace EventSearch.Provider

open EventSearch.Data

/-! ## Rows -/

/-- The cells of some rows in a column. -/
def columnCells (i : Nat) (rows : List Row) : List Value := rows.map fun row => row.getD i .null

/-- No cell of an annotated column hides that others are out of order. -/
def Unhidden (retrievals : List Retrieval) (rows : List Row) : Prop :=
  ∀ i, (retrievals[i]?.bind (·.order)).isSome → ∀ a ∈ columnCells i rows,
    ∀ b ∈ columnCells i rows, ∀ c ∈ columnCells i rows, ¬ Value.Hides a b c

theorem unhidden_of_exact {retrievals : List Retrieval} {rows : List Row}
    (h : ∀ row ∈ rows, ∀ cell ∈ row, cell.Exact) : Unhidden retrievals rows := by
  have hexact : ∀ i, ∀ a ∈ columnCells i rows, a.Exact := by
    intro i a ha
    obtain ⟨row, hrow, rfl⟩ := List.mem_map.1 ha
    rw [List.getD_eq_getElem?_getD]
    cases hcell : row[i]? with
    | none => trivial
    | some cell => exact h row hrow cell (List.mem_of_getElem? hcell)
  exact fun i _ a ha b hb c hc =>
    Value.not_hides_of_exact (hexact i a ha) (hexact i b hb) (hexact i c hc)

/-- Two rows are in order under the annotated columns, taken from the left: in a column before which
they are tied, the cells are in the direction of the column, or tied. -/
def InOrder (retrievals : List Retrieval) (a b : Row) : Prop :=
  ∀ i d, retrievals[i]?.bind (·.order) = some d →
    (∀ j < i, (retrievals[j]?.bind (·.order)).isSome → (a.getD j .null).order (b.getD j .null) = .eq) →
    d.apply ((a.getD i .null).order (b.getD i .null)) ≠ .gt

/-- The order of cells that hide nothing. -/
theorem ordersOn_order {cells : List Value} (hheld : ∀ a ∈ cells, a.Held)
    (h : ∀ a ∈ cells, ∀ b ∈ cells, ∀ c ∈ cells, ¬ Value.Hides a b c) :
    OrdersOn Value.order cells where
  swap a _ b _ := a.order_swap b
  trans a ha b hb c hc :=
    (Value.order_trans_iff (hheld a ha) (hheld b hb) (hheld c hc)).2 (h a ha b hb c hc)

theorem columnCells_tail (i : Nat) (rows : List Row) :
    columnCells i (rows.map List.tail) = columnCells (i + 1) rows := by
  rw [columnCells, columnCells, List.map_map]
  refine List.map_congr_left fun row _ => ?_
  cases row <;> rfl

theorem Unhidden.tail {r : Retrieval} {rs : List Retrieval} {rows : List Row}
    (h : Unhidden (r :: rs) rows) : Unhidden rs (rows.map List.tail) := by
  intro i hi
  rw [columnCells_tail]
  exact h (i + 1) hi

/-- The first column, as far as it has a say. -/
theorem Unhidden.head {r : Retrieval} {rs : List Retrieval} {rows : List Row}
    (h : Unhidden (r :: rs) rows) (hheld : ∀ a ∈ columnCells 0 rows, a.Held) :
    OrdersOn (fun a b => r.order.elim .eq fun d => d.apply (a.order b)) (columnCells 0 rows) := by
  cases hr : r.order with
  | none => exact OrdersOn.tied _
  | some d => exact (ordersOn_order hheld (h 0 (by simp [hr]))).apply d

/-- Rows of one width are put in a total order, up to ties, by columns that hide nothing. -/
theorem ordersOn_orderRows {rs : List Retrieval} {rows : List Row} {width : Nat}
    (hwidth : ∀ row ∈ rows, row.length = width) (hheld : ∀ row ∈ rows, ∀ cell ∈ row, cell.Held)
    (h : Unhidden rs rows) : OrdersOn (orderRows rs) rows := by
  induction rs generalizing rows width with
  | nil => exact (OrdersOn.tied rows).congr fun _ _ _ _ => rfl
  | cons r rs ih =>
    cases width with
    | zero =>
      refine (OrdersOn.tied rows).congr fun a ha b hb => ?_
      rw [List.eq_nil_of_length_eq_zero (hwidth a ha)]
      rfl
    | succ width =>
      have hcons : ∀ row ∈ rows, ∃ cell cells, row = cell :: cells := fun row hrow =>
        List.exists_cons_of_length_eq_add_one (hwidth row hrow)
      have htail : OrdersOn (orderRows rs) (rows.map List.tail) := by
        have htails : ∀ row ∈ rows.map List.tail, row.length = width := by
          intro row hrow
          obtain ⟨row, hmem, rfl⟩ := List.mem_map.1 hrow
          rw [List.length_tail, hwidth row hmem, Nat.add_sub_cancel]
        refine ih htails (fun row hrow cell hcell => ?_) h.tail
        obtain ⟨row, hmem, rfl⟩ := List.mem_map.1 hrow
        exact hheld row hmem cell (List.mem_of_mem_tail hcell)
      have hhead : ∀ a ∈ columnCells 0 rows, a.Held := by
        intro a ha
        obtain ⟨row, hmem, rfl⟩ := List.mem_map.1 ha
        obtain ⟨cell, cells, rfl⟩ := hcons row hmem
        exact hheld _ hmem cell List.mem_cons_self
      refine ((h.head hhead).comap.andThen htail.comap).congr fun a ha b hb => ?_
      obtain ⟨x, xs, rfl⟩ := hcons a ha
      obtain ⟨y, ys, rfl⟩ := hcons b hb
      rfl

/-- Rows that compare as in order are in order under the annotated columns. -/
theorem inOrder_of_orderRows {rs : List Retrieval} {a b : Row} (hlength : a.length = b.length)
    (h : orderRows rs a b ≠ .gt) : InOrder rs a b := by
  induction rs generalizing a b with
  | nil =>
    intro i d hd
    cases hd
  | cons r rs ih =>
    cases a with
    | nil =>
      obtain rfl := List.eq_nil_of_length_eq_zero hlength.symm
      intro i d _ _
      cases d <;> exact Ordering.noConfusion
    | cons x xs =>
      obtain ⟨y, ys, rfl⟩ := List.exists_cons_of_length_eq_add_one hlength.symm
      obtain ⟨hfirst, hrest⟩ := then_ne_gt.1 h
      intro i d hd hties
      cases i with
      | zero =>
        have hr : r.order = some d := hd
        rw [hr] at hfirst
        exact hfirst
      | succ i =>
        -- where the first column has a say, the rows are tied in it
        have htied : (r.order.elim .eq fun d => d.apply (x.order y)) = .eq := by
          cases hr : r.order with
          | none => rfl
          | some d' =>
            have hxy : x.order y = .eq := hties 0 (Nat.succ_pos i) (by simp [hr])
            cases d' <;> simp [Direction.apply, hxy]
        exact ih (Nat.succ.inj hlength) (hrest htied) i d hd
          fun j hj hr => hties (j + 1) (Nat.succ_lt_succ hj) hr

/-- Without an annotated column any rows are in order. -/
theorem inOrder_of_none {rs : List Retrieval} (h : rs.any (·.order.isSome) = false) (a b : Row) :
    InOrder rs a b := by
  intro i d hd
  obtain ⟨r, hr, hd⟩ := Option.bind_eq_some_iff.1 hd
  have hnone := List.any_eq_false.1 h r (List.mem_of_getElem? hr)
  rw [hd] at hnone
  exact absurd rfl hnone

/-- Turning the sides round turns the order of cells round.  Three cells keep to transitivity exactly
when the middle one hides nothing, as none does that is exact.  Rows of one width whose annotated
columns hide nothing are left by sorting in order under these columns, any two of them. -/
theorem sortRows_inOrder (a b c : Value) (retrievals : List Retrieval) (rows : List Row)
    (width : Nat) :
    b.order a = (a.order b).swap ∧
    (a.Held → b.Held → c.Held →
      ((a.order b ≠ .gt → b.order c ≠ .gt → a.order c ≠ .gt) ↔ ¬ Value.Hides a b c)) ∧
    (a.Exact → b.Exact → c.Exact → ¬ Value.Hides a b c) ∧
    ((∀ row ∈ rows, row.length = width) → (∀ row ∈ rows, ∀ cell ∈ row, cell.Held) →
      Unhidden retrievals rows →
        (sortRows retrievals rows).Perm rows ∧
          (sortRows retrievals rows).Pairwise (InOrder retrievals)) := by
  refine ⟨Value.order_swap a b, fun ha hb hc => Value.order_trans_iff ha hb hc,
    fun ha hb hc => Value.not_hides_of_exact ha hb hc, fun hwidth hheld h => ?_⟩
  rw [sortRows]
  cases hany : retrievals.any (·.order.isSome) with
  | false => exact ⟨.refl rows, List.pairwise_of_forall fun {a b} => inOrder_of_none hany a b⟩
  | true =>
    have hperm := sortBy_perm (orderRows retrievals) rows
    refine ⟨hperm, (ordersOn_orderRows hwidth hheld h).sorted.imp_of_mem fun {a b} ha hb hab => ?_⟩
    refine inOrder_of_orderRows ?_ hab
    rw [hwidth a (hperm.mem_iff.1 ha), hwidth b (hperm.mem_iff.1 hb)]

/-- The highest level first, and names in order within a level. -/
def levelColumns : List Retrieval :=
  [.ordered (.field "events.level") .desc, .ordered (.field "events.name") .asc]

/-- Levels of which two are the same number. -/
def levelRows : List Row :=
  [[.integer 1, .text "bob"], [.float (.finite false 1 0), .text "ann"], [.integer 2, .text "eve"],
    [.null, .text "joe"]]

theorem sortRows_inOrder_levels :
    sortRows levelColumns levelRows =
        [[.integer 2, .text "eve"], [.float (.finite false 1 0), .text "ann"],
          [.integer 1, .text "bob"], [.null, .text "joe"]] ∧
      (sortRows levelColumns levelRows).Pairwise (InOrder levelColumns) ∧
      Value.order (.integer 1) (.float (.finite false 1 0)) ≠ .gt ∧
      Value.order (.float (.finite false 1 0)) (.integer 2) ≠ .gt ∧
      Value.order (.integer 1) (.integer 2) ≠ .gt := by
  obtain ⟨-, htrans, hexact, hsorted⟩ := sortRows_inOrder (.integer 1)
    (.float (.finite false 1 0)) (.integer 2) levelColumns levelRows 2
  have hcells : ∀ row ∈ levelRows, ∀ cell ∈ row, cell.Exact := by decide
  have hwidth : ∀ row ∈ levelRows, row.length = 2 := by decide
  have hheld : ∀ row ∈ levelRows, ∀ cell ∈ row, cell.Held := by decide
  have hone : Value.order (.integer 1) (.float (.finite false 1 0)) ≠ .gt := by decide +kernel
  have htwo : Value.order (.float (.finite false 1 0)) (.integer 2) ≠ .gt := by decide +kernel
  refine ⟨by decide +kernel, (hsorted hwidth hheld (unhidden_of_exact hcells)).2, hone, htwo, ?_⟩
  exact (htrans (by decide) (by decide) (by decide)).2
    (hexact (by decide) (by decide) (by decide)) hone htwo

/-- An event with the number 2⁵³ + 1 is left in front of one with 2⁵³, as the float 2⁵³ between them
is tied with both. -/
theorem sortRows_misplaces :
    Value.order (.integer 9007199254740993) (.float (.finite false 4503599627370496 1)) ≠ .gt ∧
      Value.order (.float (.finite false 4503599627370496 1)) (.integer 9007199254740992) ≠ .gt ∧
      Value.order (.integer 9007199254740993) (.integer 9007199254740992) = .gt ∧
      sortRows [.ordered (.field "events.n") .asc] [[.integer 9007199254740993],
          [.float (.finite false 4503599627370496 1)], [.integer 9007199254740992]] =
        [[.integer 9007199254740993], [.float (.finite false 4503599627370496 1)],
          [.integer 9007199254740992]] ∧
      ¬ InOrder [.ordered (.field "events.n") .asc] [.integer 9007199254740993]
        [.integer 9007199254740992] := by
  refine ⟨by decide +kernel, by decide +kernel, by decide, by decide +kernel, fun h => ?_⟩
  exact h 0 .asc rfl (fun j hj => absurd hj (Nat.not_lt_zero j)) (by decide)

end EventSearch.Provider
