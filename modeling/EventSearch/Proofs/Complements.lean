/-
# `EventSearch.Proofs.Complements` — what a test and its negation leave out

Negation turns an operator over: most get or lose a `!`, and the order operators are swapped with
one another.  With a `!` exactly the records are accepted that were rejected (`Leaf.Divides`), for
whatever a leaf looks for is then looked for in vain.  A swapped order operator looks for something
else.  It misses, as the first one does, where nothing can be compared, and free text that looks at
several values may find both.

    n >= 5   n missing, or no number    neither `>=` nor `<` accepts
             4 and 6 in one record      as free text both do

A range is a conjunction of order tests and its negation an alternative of swapped ones.  Both
divide the records exactly where a value lies within all bounds or beyond one, and not both
(`negation_divides`).
-/
import EventSearch.Proofs.LuceneMeaning

namespace EventSearch.Provider

open EventSearch.Text EventSearch.Data EventSearch.Query

/-! ## Operators -/

/-- The operators without negation. -/
def plainOperators : List String := ["==", "=", "<>", "<>*", "~", "~*", ">", ">=", "<", "<="]

/-- All operators that compare with a value. -/
def supportedOperators : List String := plainOperators ++ plainOperators.map ("!" ++ ·)

namespace OrderTest

def operator : OrderTest → String
  | .greater => ">"
  | .atLeast => ">="
  | .less => "<"
  | .atMost => "<="

/-- The order test that an operator makes. -/
def ofOperator? (operator : String) : Option OrderTest :=
  [OrderTest.greater, .atLeast, .less, .atMost].find? (·.operator = operator)

/-- The test that holds of an order where this one does not. -/
def opposite : OrderTest → OrderTest
  | .greater => .atMost
  | .atLeast => .less
  | .less => .atLeast
  | .atMost => .greater

theorem opposite_accepts (test : OrderTest) (o : Ordering) :
    test.opposite.accepts o = !test.accepts o := by
  cases test <;> cases o <;> rfl

theorem negate_operator (test : OrderTest) : negate test.operator = test.opposite.operator := by
  cases test <;> decide

theorem operator_of_ofOperator? {operator : String} {test : OrderTest}
    (h : ofOperator? operator = some test) : operator = test.operator := by
  have hfound := List.find?_some h
  exact (of_decide_eq_true hfound).symm

/-- The condition of an order operator. -/
theorem ofLeaf_operator (test : OrderTest) (path wanted : String) :
    Predicate.ofLeaf ⟨path, test.operator, some wanted⟩ = .ok (.compares test wanted) := by
  have hbase : baseOperator test.operator = test.operator := by
    cases test <;> decide
  rw [Predicate.ofLeaf, hbase]
  cases test <;> rfl

theorem isNegated_operator (test : OrderTest) : isNegated test.operator = false := by
  cases test <;> decide

end OrderTest

/-- The operators that are no order test are negated by a `!`; of the two equalities one is left. -/
theorem negate_of_plain {operator : String} (h : operator ∈ supportedOperators)
    (ho : OrderTest.ofOperator? operator = none) :
    isNegated (negate operator) = !isNegated operator ∧
      (baseOperator (negate operator) = baseOperator operator ∨
        baseOperator operator ∈ ["==", "="] ∧ baseOperator (negate operator) ∈ ["==", "="]) := by
  have hall : ∀ operator ∈ supportedOperators, OrderTest.ofOperator? operator = none →
      isNegated (negate operator) = !isNegated operator ∧
        (baseOperator (negate operator) = baseOperator operator ∨
          baseOperator operator ∈ ["==", "="] ∧ baseOperator (negate operator) ∈ ["==", "="]) := by
    decide
  exact hall operator h ho

/-! ## Values in reach -/

/-- The values that a leaf looks at. -/
def Target.values (record : Record) : Target → List Value
  | .field name => (find? name record).toList
  | .anywhere => record.map (·.2)

/-- Some value can be compared and lies on the side of the test. -/
def Within (values : List Value) (bound : OrderTest × String) : Prop :=
  ∃ v ∈ values, ∃ o, compareValue? v bound.2 = some o ∧ bound.1.accepts o = true

/-- Some value can be compared and lies on the other side. -/
def Beyond (values : List Value) (bound : OrderTest × String) : Prop :=
  ∃ v ∈ values, ∃ o, compareValue? v bound.2 = some o ∧ bound.1.accepts o = false

/-- Values lie within every bound or beyond one, and not both. -/
def Splits (bounds : List (OrderTest × String)) (values : List Value) : Prop :=
  (∀ b ∈ bounds, Within values b) ↔ ¬ ∃ b ∈ bounds, Beyond values b

theorem splits_nil (values : List Value) : Splits [] values :=
  ⟨fun _ ⟨_, hb, _⟩ => absurd hb List.not_mem_nil, fun _ _ hb => absurd hb List.not_mem_nil⟩

/-- One value is not on both sides of a bound. -/
theorem not_both_sides {v : Value} {b : OrderTest × String}
    (hin : ∃ o, compareValue? v b.2 = some o ∧ b.1.accepts o = true)
    (hout : ∃ o, compareValue? v b.2 = some o ∧ b.1.accepts o = false) : False := by
  obtain ⟨o, ho, hin⟩ := hin
  obtain ⟨o', ho', hout⟩ := hout
  rw [ho] at ho'
  obtain rfl := Option.some.inj ho'
  rw [hin] at hout
  cases hout

/-- The value of a field must be there and be comparable with all bounds, or lie beyond one. -/
theorem splits_field {bounds : List (OrderTest × String)} (hne : bounds ≠ []) (name : String)
    (record : Record) : Splits bounds ((Target.field name).values record) ↔
      ∃ v, find? name record = some v ∧
        ((∀ b ∈ bounds, ∃ o, compareValue? v b.2 = some o) ∨
          ∃ b ∈ bounds, ∃ o, compareValue? v b.2 = some o ∧ b.1.accepts o = false) := by
  rw [Target.values]
  cases hv : find? name record with
  | none =>
    obtain ⟨b, hb⟩ := List.exists_mem_of_ne_nil bounds hne
    constructor
    · intro h
      obtain ⟨v, hv, -⟩ := h.2 (fun ⟨_, _, v, hv, _⟩ => absurd hv List.not_mem_nil) b hb
      cases hv
    · rintro ⟨v, hv, -⟩
      cases hv
  | some v =>
    simp only [Splits, Within, Beyond, Option.toList_some, List.mem_singleton, exists_eq_left,
      Option.some.injEq, exists_eq_left']
    constructor
    · intro h
      by_cases hbeyond : ∃ b ∈ bounds, ∃ o, compareValue? v b.2 = some o ∧ b.1.accepts o = false
      · exact .inr hbeyond
      · refine .inl fun b hb => ?_
        obtain ⟨o, ho, -⟩ := h.2 hbeyond b hb
        exact ⟨o, ho⟩
    · intro h
      refine ⟨fun hwithin ⟨b, hb, hout⟩ => not_both_sides (hwithin b hb) hout, fun hnot b hb => ?_⟩
      obtain ⟨o, ho⟩ := (h.resolve_right hnot) b hb
      cases hin : b.1.accepts o with
      | true => exact ⟨o, ho, hin⟩
      | false => exact absurd ⟨b, hb, o, ho, hin⟩ hnot

/-! ## Leaves -/

/-- A leaf of an order test finds what lies on its side. -/
theorem accepts_compares {target : Target} {test : OrderTest} {wanted : String} {record : Record} :
    LeafFilter.accepts ⟨target, .compares test wanted, false⟩ record = true ↔
      Within (target.values record) (test, wanted) := by
  have hany (values : List Value) :
      (values.any fun v => (compareValue? v wanted).any test.accepts) = true ↔
        Within values (test, wanted) := by
    simp only [List.any_eq_true, Option.any_eq_true, Within]
  cases target with
  | field name =>
    rw [← hany, Target.values]
    simp only [LeafFilter.accepts, LeafFilter.hits, Bool.bne_false]
    cases find? name record <;> simp [Predicate.test]
  | anywhere =>
    rw [← hany, Target.values, List.any_map]
    simp only [LeafFilter.accepts, LeafFilter.hits, Bool.bne_false]
    rfl

theorem within_opposite {values : List Value} {test : OrderTest} {wanted : String} :
    Within values (test.opposite, wanted) ↔ Beyond values (test, wanted) := by
  simp only [Within, Beyond, OrderTest.opposite_accepts, Bool.not_eq_true']

end EventSearch.Provider

namespace EventSearch.Query

open EventSearch.Data EventSearch.Provider

/-- Where exactly one of a leaf and its negation accepts a record with some values.  Order tests
without a value only ask whether there is one, and so do their negations. -/
def Leaf.Divides (l : Leaf) (values : List Value) : Prop :=
  match OrderTest.ofOperator? l.operator, l.value with
  | none, _ => True
  | some _, none => False
  | some test, some wanted => Splits [(test, wanted)] values

end EventSearch.Query

namespace EventSearch.Provider

open EventSearch.Text EventSearch.Data EventSearch.Query

variable {scope : Scope}

theorem bool_ne_iff {a b : Bool} : a ≠ b ↔ (a = true ↔ ¬ b = true) := by
  cases a <;> cases b <;> decide

/-- What a leaf is tested by, if it can be tested. -/
theorem compile_eq_ok {l : Leaf} {f : LeafFilter} (h : LeafFilter.compile scope l = .ok f) :
    scope.target l.path = .ok f.target ∧ Predicate.ofLeaf l = .ok f.predicate ∧
      f.negated = isNegated l.operator := by
  rw [LeafFilter.compile_eq] at h
  cases ht : scope.target l.path with
  | error e =>
    rw [ht] at h
    cases h
  | ok target =>
    rw [ht] at h
    cases hp : Predicate.ofLeaf l with
    | error e =>
      rw [hp] at h
      cases h
    | ok predicate =>
      rw [hp] at h
      obtain rfl := Except.ok.inj h
      exact ⟨rfl, rfl, rfl⟩

theorem compile_of_ok {l : Leaf} {target : Target} {predicate : Predicate}
    (ht : scope.target l.path = .ok target) (hp : Predicate.ofLeaf l = .ok predicate) :
    LeafFilter.compile scope l = .ok ⟨target, predicate, isNegated l.operator⟩ := by
  rw [LeafFilter.compile_eq, ht, hp]
  rfl

theorem ite_eq_ok {c : Prop} [Decidable c] {x y z : Except Error Predicate}
    {predicate : Predicate} (h : (if c then x else y) = .ok predicate)
    (hyz : y = .ok predicate → z = .ok predicate) : (if c then x else z) = .ok predicate := by
  split at h
  · next hc => rwa [if_pos hc]
  · next hc => exact (if_neg hc).trans (hyz h)

/-- The operator itself is only named in the error. -/
theorem ofOperator_congr {a b base value : String} {predicate : Predicate}
    (h : Predicate.ofOperator a base value = .ok predicate) :
    Predicate.ofOperator b base value = .ok predicate := by
  unfold Predicate.ofOperator at h ⊢
  iterate 9 refine ite_eq_ok h fun h => ?_
  cases h

theorem ofOperator_equality {operator base value : String} (h : base ∈ ["==", "="]) :
    Predicate.ofOperator operator base value = .ok (.equal value) :=
  if_pos (by simpa using h)

/-- A `!` more or less changes nothing in what a leaf looks for. -/
theorem ofLeaf_negate {path operator : String} {value : Option String} {predicate : Predicate}
    (h : operator ∈ supportedOperators) (ho : OrderTest.ofOperator? operator = none)
    (hp : Predicate.ofLeaf ⟨path, operator, value⟩ = .ok predicate) :
    Predicate.ofLeaf ⟨path, negate operator, value⟩ = .ok predicate := by
  cases value with
  | none => exact hp
  | some wanted =>
    simp only [Predicate.ofLeaf] at hp ⊢
    rcases (negate_of_plain h ho).2 with hbase | ⟨hbase, hnegated⟩
    · rw [hbase]
      exact ofOperator_congr hp
    · rw [ofOperator_equality hbase] at hp
      rw [ofOperator_equality hnegated]
      exact hp

theorem compile_operator {path wanted : String} {target : Target} (test : OrderTest)
    (ht : scope.target path = .ok target) :
    LeafFilter.compile scope ⟨path, test.operator, some wanted⟩
      = .ok ⟨target, .compares test wanted, false⟩ := by
  rw [compile_of_ok (l := ⟨path, test.operator, some wanted⟩) ht
    (OrderTest.ofLeaf_operator test path wanted)]
  exact congrArg _ (congrArg _ (OrderTest.isNegated_operator test))

/-- A leaf and its negation can be tested alike, and divide the records as their values have it. -/
theorem negate_divides {path operator : String} {value : Option String}
    (h : operator ∈ supportedOperators) {f : LeafFilter}
    (hf : LeafFilter.compile scope ⟨path, operator, value⟩ = .ok f) :
    ∃ g, LeafFilter.compile scope ⟨path, negate operator, value⟩ = .ok g ∧
      ∀ record, f.accepts record ≠ g.accepts record ↔
        (Leaf.mk path operator value).Divides (f.target.values record) := by
  obtain ⟨target, predicate, negated⟩ := f
  obtain ⟨ht, hp, rfl⟩ := compile_eq_ok hf
  cases ho : OrderTest.ofOperator? operator with
  | none =>
    refine ⟨_, compile_of_ok ht (ofLeaf_negate h ho hp), fun record => ?_⟩
    simp only [Leaf.Divides, ho, iff_true, LeafFilter.accepts, LeafFilter.hits,
      (negate_of_plain h ho).1]
    cases isNegated operator <;> simp
  | some test =>
    obtain rfl := OrderTest.operator_of_ofOperator? ho
    rw [OrderTest.negate_operator]
    simp only [Leaf.Divides, ho]
    cases value with
    | none =>
      obtain rfl := Except.ok.inj hp
      refine ⟨_, compile_of_ok ht rfl, fun record => ?_⟩
      simp only [OrderTest.isNegated_operator, LeafFilter.accepts, LeafFilter.hits, ne_eq,
        not_true_eq_false]
    | some wanted =>
      rw [compile_operator test ht] at hf
      obtain ⟨-, rfl, -⟩ := LeafFilter.mk.inj (Except.ok.inj hf)
      refine ⟨_, compile_operator test.opposite ht, fun record => ?_⟩
      simp only [bool_ne_iff, OrderTest.isNegated_operator, accepts_compares, within_opposite,
        Splits, List.mem_singleton, forall_eq, exists_eq_left]

/-! ## Lists of criteria -/

namespace Filter

theorem testable_or (c d : Criteria) :
    Testable scope (c.or d) ↔ Testable scope c ∧ Testable scope d := by
  have hempty : Testable scope .empty := ⟨.all, rfl⟩
  by_cases hc : c = .empty
  · subst hc
    rw [Criteria.empty_or]
    exact ⟨fun h => ⟨hempty, h⟩, fun h => h.2⟩
  · by_cases hd : d = .empty
    · subst hd
      rw [Criteria.or_empty]
      exact ⟨fun h => ⟨h, hempty⟩, fun h => h.1⟩
    · exact testable_or_iff hc hd

theorem testable_foldl {g : Criteria → Criteria → Criteria}
    (hg : ∀ c d, Testable scope (g c d) ↔ Testable scope c ∧ Testable scope d) (b : Criteria)
    (cs : List Criteria) :
    Testable scope (cs.foldl g b) ↔ Testable scope b ∧ ∀ c ∈ cs, Testable scope c := by
  induction cs generalizing b with
  | nil => simp
  | cons c cs ih => rw [List.foldl_cons, ih, hg, List.forall_mem_cons, and_assoc]

theorem testable_allOf (cs : List Criteria) :
    Testable scope (.allOf cs) ↔ ∀ c ∈ cs, Testable scope c :=
  (testable_foldl testable_and_iff .empty cs).trans (and_iff_right ⟨.all, rfl⟩)

theorem testable_anyOf (cs : List Criteria) :
    Testable scope (.anyOf cs) ↔ ∀ c ∈ cs, Testable scope c :=
  (testable_foldl testable_or .empty cs).trans (and_iff_right ⟨.all, rfl⟩)

end Filter

end EventSearch.Provider

namespace EventSearch.Query

open EventSearch.Data EventSearch.Provider

/-! ## Terms -/

namespace Term

/-- An end of a range as a bound of the values in it; an open end is none. -/
def bound (test : OrderTest) (limit : Operand) : List (OrderTest × String) :=
  if limit.isOpenBound then [] else [(test, limit.text)]

/-- The bounds of the values that a term finds. -/
def bounds : Term → List (OrderTest × String)
  | .value _ _ _ => []
  | .inclusive _ low high => bound .atLeast low ++ bound .atMost high
  | .exclusive _ low high => bound .greater low ++ bound .less high

/-- A value of two quotes with nothing between them. -/
def isEmptyValue : Term → Bool
  | .value _ operand _ => operand.isEmptyText
  | .inclusive _ _ _ | .exclusive _ _ _ => false

/-- The leaf of a bound of a path. -/
def boundLeaf (path : String) (b : OrderTest × String) : Criteria := .test path b.1.operator b.2

/-- The other side of a bound. -/
def turned (b : OrderTest × String) : OrderTest × String := (b.1.opposite, b.2)

theorem boundLeaves_eq (path : String) (test : OrderTest) (limit : Operand) :
    boundLeaves path false test.operator limit = (bound test limit).map (boundLeaf path) ∧
      boundLeaves path true test.operator limit
        = (bound test limit).map fun b => boundLeaf path (turned b) := by
  unfold boundLeaves bound
  split
  · exact ⟨rfl, rfl⟩
  · refine ⟨rfl, ?_⟩
    rw [signedOperator, if_pos rfl, OrderTest.negate_operator]
    rfl

/-- A range is all of its bounds, negated the other side of any.  Without bounds it asks whether
there is a value. -/
theorem compileRange_eq (path : String) (first last : OrderTest) (low high : Operand) :
    (bound first low ++ bound last high = [] →
      compileRange path first.operator last.operator low high false = .present path ∧
      compileRange path first.operator last.operator low high true = .absent path) ∧
    (bound first low ++ bound last high ≠ [] →
      compileRange path first.operator last.operator low high false
        = .allOf ((bound first low ++ bound last high).map (boundLeaf path)) ∧
      compileRange path first.operator last.operator low high true
        = .anyOf ((bound first low ++ bound last high).map
            fun b => boundLeaf path (turned b))) := by
  unfold compileRange
  rw [(boundLeaves_eq path first low).1, (boundLeaves_eq path first low).2,
    (boundLeaves_eq path last high).1, (boundLeaves_eq path last high).2, ← List.map_append,
    ← List.map_append]
  cases bound first low ++ bound last high with
  | nil => exact ⟨fun _ => ⟨rfl, rfl⟩, fun h => absurd rfl h⟩
  | cons b bs => exact ⟨fun h => absurd h (List.cons_ne_nil b bs), fun _ => ⟨rfl, rfl⟩⟩

end Term

end EventSearch.Query

namespace EventSearch.Provider

open EventSearch.Text EventSearch.Data EventSearch.Query

variable {scope : Scope} {path : String} {target : Target}

theorem compile_boundLeaf (ht : scope.target path = .ok target) (b : OrderTest × String) :
    Filter.compile scope (Term.boundLeaf path b)
      = .ok (.leaf ⟨target, .compares b.1 b.2, false⟩) := by
  rw [Term.boundLeaf, Criteria.test, Filter.compile, compile_operator b.1 ht]
  rfl

theorem passes_boundLeaf (ht : scope.target path = .ok target) (b : OrderTest × String)
    (record : Record) : Passes scope record (Term.boundLeaf path b) ↔
      Within (target.values record) b := by
  rw [Filter.passes_iff (compile_boundLeaf ht b), Filter.accepts]
  exact accepts_compares

theorem target_of_testable {b : OrderTest × String}
    (h : Testable scope (Term.boundLeaf path b)) : ∃ target, scope.target path = .ok target := by
  obtain ⟨f, hf⟩ := h
  rw [Term.boundLeaf, Criteria.test, Filter.compile] at hf
  cases hl : LeafFilter.compile scope ⟨path, b.1.operator, some b.2⟩ with
  | error e =>
    rw [hl] at hf
    cases hf
  | ok g => exact ⟨g.target, (compile_eq_ok hl).1⟩

/-- The bounds of a range and their other sides divide the records. -/
theorem bounds_divide {bounds : List (OrderTest × String)} (hne : bounds ≠ []) {f : Filter}
    (hf : Filter.compile scope (.allOf (bounds.map (Term.boundLeaf path))) = .ok f) :
    ∃ g target, Filter.compile scope
        (.anyOf (bounds.map fun b => Term.boundLeaf path (Term.turned b))) = .ok g ∧
      scope.target path = .ok target ∧
      ∀ record, f.accepts record ≠ g.accepts record ↔ Splits bounds (target.values record) := by
  obtain ⟨b, hb⟩ := List.exists_mem_of_ne_nil bounds hne
  obtain ⟨target, ht⟩ := target_of_testable
    ((Filter.testable_allOf _).1 ⟨f, hf⟩ _ (List.mem_map_of_mem hb))
  have hturned : ∀ c ∈ bounds.map fun b => Term.boundLeaf path (Term.turned b),
      Testable scope c ∧ c ≠ .empty := by
    intro c hc
    obtain ⟨b, -, rfl⟩ := List.mem_map.1 hc
    exact ⟨⟨_, compile_boundLeaf ht (Term.turned b)⟩, nofun⟩
  obtain ⟨g, hg⟩ := (Filter.testable_anyOf _).2 fun c hc => (hturned c hc).1
  refine ⟨g, target, hg, ht, fun record => ?_⟩
  rw [bool_ne_iff, ← Filter.passes_iff hf, ← Filter.passes_iff hg, Filter.passes_allOf,
    Filter.passes_anyOf (by simpa using hne) (fun c hc => (hturned c hc).2) ⟨g, hg⟩, Splits]
  simp only [List.mem_map, forall_exists_index, and_imp, forall_apply_eq_imp_iff₂,
    exists_exists_and_eq_and, passes_boundLeaf ht]
  simp only [Term.turned, within_opposite]

/-- A leaf that is no order test and its negation divide all records. -/
theorem leaf_divides {operator : String} {value : Option String}
    (h : operator ∈ supportedOperators) (ho : OrderTest.ofOperator? operator = none) {f : Filter}
    (hf : Filter.compile scope (.leaf ⟨path, operator, value⟩) = .ok f) :
    ∃ g target, Filter.compile scope (.leaf ⟨path, negate operator, value⟩) = .ok g ∧
      scope.target path = .ok target ∧ ∀ record, f.accepts record ≠ g.accepts record := by
  rw [Filter.compile] at hf
  cases hl : LeafFilter.compile scope ⟨path, operator, value⟩ with
  | error e =>
    rw [hl] at hf
    cases hf
  | ok test =>
    rw [hl] at hf
    obtain rfl := Except.ok.inj hf
    obtain ⟨g, hg, hdivides⟩ := negate_divides h hl
    refine ⟨.leaf g, test.target, ?_, (compile_eq_ok hl).1, fun record => ?_⟩
    · rw [Filter.compile, hg]
      rfl
    · rw [Filter.accepts, Filter.accepts, hdivides, Leaf.Divides]
      simp only [ho]

/-- A range and its negation divide the records as the bounds have it. -/
theorem range_divides (first last : OrderTest) (low high : Operand) {f : Filter}
    (hf : Filter.compile scope
      (Term.compileRange path first.operator last.operator low high false) = .ok f) :
    ∃ g target, Filter.compile scope
        (Term.compileRange path first.operator last.operator low high true) = .ok g ∧
      scope.target path = .ok target ∧ ∀ record, f.accepts record ≠ g.accepts record ↔
        Splits (Term.bound first low ++ Term.bound last high) (target.values record) := by
  obtain ⟨hopen, hclosed⟩ := Term.compileRange_eq path first last low high
  by_cases hnil : Term.bound first low ++ Term.bound last high = []
  · have hpresent : Filter.compile scope (.leaf ⟨path, "==", none⟩) = .ok f := by
      rw [(hopen hnil).1] at hf
      exact hf
    obtain ⟨g, target, hg, ht, hne⟩ := leaf_divides (by decide) (by decide) hpresent
    refine ⟨g, target, ?_, ht, fun record => ?_⟩
    · rw [(hopen hnil).2]
      exact hg
    · rw [hnil]
      exact iff_of_true (hne record) (splits_nil _)
  · rw [(hclosed hnil).1] at hf
    rw [(hclosed hnil).2]
    exact bounds_divide hnil hf

/-- A term and its negation divide the records as its bounds have it. -/
theorem term_divides {datatype : String} {t : Term} (hvalue : t.isEmptyValue = false) {f : Filter}
    (hf : Filter.compile scope (t.compile datatype false) = .ok f) :
    ∃ g target, Filter.compile scope (t.compile datatype true) = .ok g ∧
      scope.target (t.path datatype) = .ok target ∧ ∀ record, f.accepts record ≠ g.accepts record ↔
        Splits t.bounds (target.values record) := by
  cases t with
  | value field operand modifier =>
    have hcomparison : (Term.comparison operand).1 ∈ supportedOperators ∧
        OrderTest.ofOperator? (Term.comparison operand).1 = none := by
      have hpattern : "~" ∈ supportedOperators ∧ OrderTest.ofOperator? "~" = none := by decide
      have hequal : "==" ∈ supportedOperators ∧ OrderTest.ofOperator? "==" = none := by decide
      unfold Term.comparison
      split
      · exact hpattern
      · split
        · exact hpattern
        · exact hequal
    have hempty : operand.isEmptyText = false := hvalue
    simp only [Term.compile, hempty, Bool.and_false, Bool.false_eq_true, if_false] at hf ⊢
    obtain ⟨g, target, hg, ht, hne⟩ := leaf_divides hcomparison.1 hcomparison.2 hf
    exact ⟨g, target, hg, ht, fun record => iff_of_true (hne record) (splits_nil _)⟩
  | inclusive field low high => exact range_divides .atLeast .atMost low high hf
  | exclusive field low high => exact range_divides .greater .less low high hf

/-! ## Negation -/

/-- Where negation complements.  A leaf and the leaf of the negated operator can be tested alike,
and exactly one of them accepts a record unless the operator is an order test: then its bound has
to split the values that are looked at.  So it is with a term that is no empty value and its
negation: without bounds they divide all records, a range divides those whose values its bounds
split.  The value of a field is split when it is there and comparable with every bound, or beyond
one. -/
theorem negation_divides (scope : Scope) :
    (∀ path operator value f, operator ∈ supportedOperators →
      LeafFilter.compile scope ⟨path, operator, value⟩ = .ok f →
      ∃ g, LeafFilter.compile scope ⟨path, negate operator, value⟩ = .ok g ∧
        ∀ record, f.accepts record ≠ g.accepts record ↔
          (Leaf.mk path operator value).Divides (f.target.values record)) ∧
    (∀ (t : Term) (sign : Sign) (f : Filter), t.isEmptyValue = false → sign.isNegation = true →
      Filter.compile scope ((LuceneTree.signed none t).compile scope.datatype) = .ok f →
      ∃ g target, Filter.compile scope
          ((LuceneTree.signed (some sign) t).compile scope.datatype) = .ok g ∧
        scope.target (t.path scope.datatype) = .ok target ∧
        ∀ record, f.accepts record ≠ g.accepts record ↔
          Splits t.bounds (target.values record)) ∧
    ∀ bounds name record, bounds ≠ [] → (Splits bounds ((Target.field name).values record) ↔
      ∃ v, find? name record = some v ∧
        ((∀ b ∈ bounds, ∃ o, compareValue? v b.2 = some o) ∨
          ∃ b ∈ bounds, ∃ o, compareValue? v b.2 = some o ∧ b.1.accepts o = false)) := by
  refine ⟨fun path operator value f h hf => negate_divides h hf, fun t sign f hvalue hsign hf => ?_,
    fun bounds name record hne => splits_field hne name record⟩
  have hnegated : (LuceneTree.signed (some sign) t).compile scope.datatype
      = t.compile scope.datatype true := by
    rw [LuceneTree.compile, Option.any_some, hsign]
  rw [hnegated]
  exact term_divides hvalue hf

/-- Events that may have a name. -/
def namedEvents : Scope := ⟨"events", ⟨[("name", .text)], []⟩⟩

/-- An event without a name. -/
def unnamed : Record := [("m", .integer 1)]

/-- The query `name:[a TO c]`. -/
def fromAToC : Term := .inclusive (some ⟨[⟨"name", none⟩]⟩) (.bare "a") (.bare "c")

/-- The name bob is in one of both, a missing name in none. -/
theorem negation_divides_bob : ∃ f g : Filter,
    Filter.compile namedEvents ((LuceneTree.signed none fromAToC).compile "events") = .ok f ∧
    Filter.compile namedEvents
      ((LuceneTree.signed (some .minus) fromAToC).compile "events") = .ok g ∧
    f.accepts [("name", .text "bob")] ≠ g.accepts [("name", .text "bob")] ∧
    f.accepts unnamed = g.accepts unnamed := by
  have htestable : (Filter.compile namedEvents
      ((LuceneTree.signed none fromAToC).compile "events")).toBool = true := by
    decide +kernel
  cases hf : Filter.compile namedEvents ((LuceneTree.signed none fromAToC).compile "events") with
  | error e =>
    rw [hf] at htestable
    cases htestable
  | ok f =>
    obtain ⟨-, hterms, hfields⟩ := negation_divides namedEvents
    obtain ⟨g, target, hg, ht, hdivides⟩ := hterms fromAToC .minus f rfl rfl hf
    have htarget : namedEvents.target (fromAToC.path "events") = .ok (.field "name") := by
      decide +kernel
    obtain rfl : Target.field "name" = target := Except.ok.inj (htarget.symm.trans ht)
    have hbounded : fromAToC.bounds ≠ [] := by
      have hbounds : fromAToC.bounds = [(.atLeast, "a"), (.atMost, "c")] := by decide +kernel
      rw [hbounds]
      exact List.cons_ne_nil _ _
    refine ⟨f, g, rfl, hg, (hdivides _).2 ?_, ?_⟩
    · exact (hfields _ _ _ hbounded).2 ⟨.text "bob", rfl, .inl fun b _ => ⟨_, rfl⟩⟩
    · by_contra hne
      obtain ⟨v, hv, -⟩ := (hfields _ _ _ hbounded).1 ((hdivides unnamed).1 hne)
      cases hv

/-- An event with the texts a and z. -/
def twoTexts : Record := [("first", .text "a"), ("last", .text "z")]

/-- A missing name is rejected by an order test and by its negation, also as a term.  Free text
finds both sides of a bound in one event. -/
theorem negation_misses :
    (∃ f g, LeafFilter.compile namedEvents ⟨"events.name", ">=", some "m"⟩ = .ok f ∧
      LeafFilter.compile namedEvents ⟨"events.name", negate ">=", some "m"⟩ = .ok g ∧
      f.accepts unnamed = false ∧ g.accepts unnamed = false) ∧
    (∃ f g, Filter.compile namedEvents
        ((LuceneTree.signed none fromAToC).compile "events") = .ok f ∧
      Filter.compile namedEvents
        ((LuceneTree.signed (some .minus) fromAToC).compile "events") = .ok g ∧
      f.accepts unnamed = false ∧ g.accepts unnamed = false) ∧
    ∃ f g, LeafFilter.compile namedEvents ⟨"events._raw_query", ">=", some "m"⟩ = .ok f ∧
      LeafFilter.compile namedEvents ⟨"events._raw_query", negate ">=", some "m"⟩ = .ok g ∧
      f.accepts twoTexts = true ∧ g.accepts twoTexts = true := by
  refine ⟨⟨_, _, rfl, rfl, ?_, ?_⟩, ⟨_, _, rfl, rfl, ?_, ?_⟩, ⟨_, _, rfl, rfl, ?_, ?_⟩⟩ <;>
    decide +kernel

end EventSearch.Provider
