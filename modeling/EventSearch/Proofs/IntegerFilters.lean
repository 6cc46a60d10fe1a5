/-
# `EventSearch.Proofs.IntegerFilters` — filters that compare whole numbers

A leaf that compares a field with a whole number reads the number from its text and compares floats,
while rows are sorted by the whole numbers themselves.  Floats of whole numbers are in the order of
these unless they are the same, so a leaf tests the right order, or takes two numbers for equal that
are not (`accepts_integer`).

    2⁵³ + 1 == 2⁵³    holds as a test, and so do `<=` and `>=`; `!=`, `<` and `>` do not

Up to 2⁵³ in size all tests are right.
-/
import EventSearch.Proofs.Complements
import EventSearch.Proofs.RoundedOrder

namespace EventSearch.Provider

open EventSearch.Text EventSearch.Number EventSearch.Data EventSearch.Query

/-! ## Operators -/

/-- The operators that compare numbers. -/
def comparingOperators : List String := ["==", "=", "!=", "<", "<=", ">", ">="]

/-- Whether an operator holds of two numbers in some order. -/
def meets (operator : String) (o : Ordering) : Bool :=
  match operator with
  | "==" | "=" => o = .eq
  | "!=" => o ≠ .eq
  | "<" => o = .lt
  | "<=" => o ≠ .gt
  | ">" => o = .gt
  | ">=" => o ≠ .lt
  | _ => false

theorem meets_equality {operator : String} (h : operator ∈ ["=", "==", "!="]) (o : Ordering) :
    meets operator o = (decide (o = .eq) != isNegated operator) := by
  have hall : ∀ operator ∈ ["=", "==", "!="],
      isNegated operator = decide (operator = "!=") := by
    decide
  rw [hall operator h]
  simp only [List.mem_cons, List.not_mem_nil, or_false] at h
  rcases h with rfl | rfl | rfl <;> cases o <;> rfl

theorem meets_operator (test : OrderTest) (o : Ordering) :
    meets test.operator o = test.accepts o := by
  cases test <;> cases o <;> rfl

/-! ## Whole numbers as floats -/

/-- The order of two whole numbers as floats. -/
def floatOrder (n m : Int) : Ordering :=
  if Double.ofInt n = Double.ofInt m then .eq else compare n m

theorem floatOrder_eq_iff {n m : Int} :
    floatOrder n m = compare n m ↔ (Double.ofInt n = Double.ofInt m → n = m) := by
  unfold floatOrder
  split
  · next he =>
    rw [eq_comm, Int.compare_eq_eq]
    exact ⟨fun h _ => h, fun h => h he⟩
  · next hne => exact ⟨fun _ he => absurd he hne, fun _ => rfl⟩

section Values

variable {n m : Int} (hn : IsInt64 n) (hm : IsInt64 m)

include hn hm

theorem compare?_floatOrder :
    (Double.ofInt n).compare? (.ofInt m) = some (floatOrder n m) :=
  Double.compare?_ofInt hn hm

theorem compareValue?_integer :
    compareValue? (.integer n) (toString m) = some (floatOrder n m) := by
  rw [compareValue?, (Double.unbroken_toString m).trim, Double.read?_toString, Option.bind_some,
    Value.asDouble?, Option.bind_some, compare?_floatOrder hn hm]

theorem valueEquals_integer :
    valueEquals (.integer n) (toString m) = decide (floatOrder n m = .eq) := by
  rw [valueEquals, (Double.unbroken_toString m).trim, Double.read?_toString, Value.asDouble?]
  simp only [Double.same, compare?_floatOrder hn hm, Option.some.injEq]

end Values

/-! ## Leaves -/

/-- A leaf can be tested, and accepts a record or not. -/
def Decides (scope : Scope) (l : Leaf) (record : Record) (accepted : Bool) : Prop :=
  ∃ f, LeafFilter.compile scope l = .ok f ∧ f.accepts record = accepted

/-- One leaf has one answer. -/
theorem Decides.unique {scope : Scope} {l : Leaf} {record : Record} {a b : Bool}
    (ha : Decides scope l record a) (hb : Decides scope l record b) : a = b := by
  obtain ⟨f, hf, rfl⟩ := ha
  obtain ⟨g, hg, rfl⟩ := hb
  rw [hf] at hg
  rw [Except.ok.inj hg]

theorem accepts_cell {name : String} {record : Record} {value : Value}
    (h : find? name record = some value) (p : Predicate) (negated : Bool) :
    LeafFilter.accepts ⟨.field name, p, negated⟩ record = (p.test value != negated) := by
  simp only [LeafFilter.accepts, LeafFilter.hits, h, Option.any_some]

section Leaves

variable {scope : Scope} {path name operator : String} {record : Record} {n m : Int}
  (ht : scope.target path = .ok (.field name)) (hcell : find? name record = some (.integer n))
  (hn : IsInt64 n) (hm : IsInt64 m)

include ht hcell hn hm

/-- A leaf with a whole number tests the order of the floats. -/
theorem decides_floatOrder (h : operator ∈ comparingOperators) :
    Decides scope ⟨path, operator, some (toString m)⟩ record (meets operator (floatOrder n m)) := by
  have hkinds : ∀ operator ∈ comparingOperators,
      operator ∈ ["=", "==", "!="] ∨ (OrderTest.ofOperator? operator).isSome := by
    decide
  rcases hkinds operator h with hequality | horder
  · refine ⟨_, compile_of_ok ht (Predicate.ofLeaf_equal hequality), ?_⟩
    rw [meets_equality hequality, accepts_cell hcell, Predicate.test, valueEquals_integer hn hm]
  · obtain ⟨test, htest⟩ := Option.isSome_iff_exists.1 horder
    obtain rfl := OrderTest.operator_of_ofOperator? htest
    refine ⟨_, compile_operator test ht, ?_⟩
    rw [meets_operator, accepts_cell hcell, Predicate.test, compareValue?_integer hn hm,
      Option.any_some, Bool.bne_false]

/-- A leaf that compares a field with a whole number can be tested and goes by the order of the
floats.  All operators agree with the order by which rows are sorted exactly when the numbers are
equal or have two floats, as they have when both are at most 2⁵³ in size. -/
theorem accepts_integer :
    (∀ operator ∈ comparingOperators, Decides scope ⟨path, operator, some (toString m)⟩ record
      (meets operator (floatOrder n m))) ∧
    ((∀ operator ∈ comparingOperators, Decides scope ⟨path, operator, some (toString m)⟩ record
      (meets operator ((Value.integer n).order (.integer m)))) ↔
        (Double.ofInt n = Double.ofInt m → n = m)) ∧
    (n.natAbs ≤ 2 ^ 53 → m.natAbs ≤ 2 ^ 53 → Double.ofInt n = Double.ofInt m → n = m) := by
  have hfloats {operator : String} (h : operator ∈ comparingOperators) :=
    decides_floatOrder ht hcell hn hm h
  refine ⟨fun operator h => hfloats h, ⟨fun hexact => ?_, fun hinj operator h => ?_⟩,
    fun hn hm => Double.ofInt_injective hn hm⟩
  · -- equality alone tells the orders apart
    intro he
    have hequal : "==" ∈ comparingOperators := List.mem_cons_self
    have hmeets := (hfloats hequal).unique (hexact "==" hequal)
    rw [floatOrder, if_pos he] at hmeets
    exact Int.compare_eq_eq.1 (of_decide_eq_true hmeets.symm)
  · have horder : floatOrder n m = (Value.integer n).order (.integer m) := floatOrder_eq_iff.2 hinj
    rw [← horder]
    exact hfloats h

end Leaves

/-- Events with a number. -/
def numberedEvents : Scope := ⟨"events", ⟨[("n", .integer)], []⟩⟩

/-- The events with at most seven are those with five and not those with nine. -/
theorem accepts_integer_seven :
    Decides numberedEvents ⟨"events.n", "<=", some "7"⟩ [("n", .integer 5)] true ∧
    Decides numberedEvents ⟨"events.n", "<=", some "7"⟩ [("n", .integer 9)] false := by
  have hle : "<=" ∈ comparingOperators := by decide
  have hexact {n : Int} (hn : IsInt64 n) (hsmall : n.natAbs ≤ 2 ^ 53) :
      Decides numberedEvents ⟨"events.n", "<=", some "7"⟩ [("n", .integer n)]
        (meets "<=" ((Value.integer n).order (.integer 7))) := by
    have htarget : numberedEvents.target "events.n" = .ok (.field "n") := rfl
    have hcell : find? "n" [("n", Value.integer n)] = some (.integer n) := rfl
    have hseven : IsInt64 7 := by decide
    obtain ⟨-, hiff, hinj⟩ := accepts_integer htarget hcell hn hseven
    exact hiff.2 (hinj hsmall (by decide)) "<=" hle
  exact ⟨hexact (by decide) (by decide), hexact (by decide) (by decide)⟩

/-- An event with the number 2⁵³ + 1 is found as one with 2⁵³, behind which it is sorted. -/
theorem accepts_integer_misses :
    Decides numberedEvents ⟨"events.n", "==", some (toString (9007199254740992 : Int))⟩
      [("n", .integer 9007199254740993)] true ∧
    meets "==" ((Value.integer 9007199254740993).order (.integer 9007199254740992)) = false :=
  ⟨⟨⟨.field "n", .equal "9007199254740992", false⟩, rfl, by decide +kernel⟩, by decide⟩

end EventSearch.Provider
