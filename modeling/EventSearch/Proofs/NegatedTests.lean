/-
# `EventSearch.Proofs.NegatedTests` — a negated test of a logical field is its complement

A logical field may stand for several paths.  Any of them may pass a positive test and all of them
must pass a negated one, so that negation is one law on two levels: each path passes the negated
test where it fails the positive one (`LeafFilter.opposed`), and no path passes where all fail.

    addr ~ "^10"     src or dst matches
    addr !~ "^10"    neither does, a missing one included

Both tests are refused alike.  A translation without a path would be the exception: it sets no
condition either way.
-/
import EventSearch.Proofs.Complements

namespace EventSearch.Provider

open EventSearch.Data EventSearch.Query

/-! ## Operators -/

/-- The operators that ask what a value is, not where it lies in an order. -/
def matchingOperators : List String := ["=", "==", "<>", "<>*", "~", "~*"]

/-- The operator of the negated test: both equalities have the same one. -/
def negatedOperator (operator : String) : String :=
  if operator = "=" ∨ operator = "==" then "!=" else "!" ++ operator

theorem isNegated_matching {operator : String} (h : operator ∈ matchingOperators) :
    isNegated operator = false ∧ isNegated (negatedOperator operator) = true := by
  have hall : ∀ operator ∈ matchingOperators,
      isNegated operator = false ∧ isNegated (negatedOperator operator) = true := by decide
  exact hall operator h

/-! ## One path -/

/-- These operators are all known, and the text of the operator is only named in the error of one
that is not. -/
theorem ofOperator_matching {base : String} (h : base ∈ matchingOperators)
    (operator operator' value : String) :
    Predicate.ofOperator operator base value = Predicate.ofOperator operator' base value := by
  simp only [matchingOperators, List.mem_cons, List.not_mem_nil, or_false] at h
  rcases h with rfl | rfl | rfl | rfl | rfl | rfl <;> simp [Predicate.ofOperator]

/-- A negated test looks for the same thing, and fails for the same reason. -/
theorem ofLeaf_negatedOperator {path operator : String} {value : Option String}
    (h : operator ∈ matchingOperators) :
    Predicate.ofLeaf ⟨path, negatedOperator operator, value⟩
      = Predicate.ofLeaf ⟨path, operator, value⟩ := by
  cases value with
  | none => rfl
  | some wanted =>
    have hall : ∀ operator ∈ matchingOperators, baseOperator operator ∈ matchingOperators ∧
        (baseOperator (negatedOperator operator) = baseOperator operator ∨
          baseOperator operator ∈ ["==", "="] ∧
            baseOperator (negatedOperator operator) ∈ ["==", "="]) := by decide
    simp only [Predicate.ofLeaf]
    obtain ⟨hbase, hsame | ⟨hplain, hnegated⟩⟩ := hall operator h
    · rw [hsame]
      exact ofOperator_matching hbase _ _ wanted
    · rw [ofOperator_equality hplain, ofOperator_equality hnegated]

/-- A leaf turned over. -/
def LeafFilter.opposed (f : LeafFilter) : LeafFilter := { f with negated := !f.negated }

theorem LeafFilter.accepts_opposed (f : LeafFilter) (record : Record) :
    f.opposed.accepts record = !f.accepts record := by
  have hhits : f.opposed.hits record = f.hits record := rfl
  rw [accepts, accepts, hhits]
  cases f.hits record <;> cases hn : f.negated <;> simp [opposed, hn]

theorem compile_negatedOperator {scope : Scope} {path operator : String} {value : Option String}
    (h : operator ∈ matchingOperators) :
    LeafFilter.compile scope ⟨path, negatedOperator operator, value⟩
      = (LeafFilter.compile scope ⟨path, operator, value⟩).map LeafFilter.opposed := by
  obtain ⟨hplain, hnegated⟩ := isNegated_matching h
  simp only [LeafFilter.compile_eq, ofLeaf_negatedOperator h, hplain, hnegated]
  cases scope.target path with
  | error e => rfl
  | ok target => cases Predicate.ofLeaf ⟨path, operator, value⟩ <;> rfl

section Paths

variable {scope : Scope} {operator : String} (h : operator ∈ matchingOperators)
include h

theorem testable_negated_leaf (path : String) (value : Option String) :
    Testable scope (.leaf ⟨path, negatedOperator operator, value⟩) ↔
      Testable scope (.leaf ⟨path, operator, value⟩) := by
  simp only [Testable, Filter.compile, compile_negatedOperator h]
  cases LeafFilter.compile scope ⟨path, operator, value⟩ <;> simp [Except.map]

theorem passes_negated_leaf {path : String} {value : Option String}
    (ht : Testable scope (.leaf ⟨path, operator, value⟩)) (record : Record) :
    Passes scope record (.leaf ⟨path, negatedOperator operator, value⟩) ↔
      ¬ Passes scope record (.leaf ⟨path, operator, value⟩) := by
  obtain ⟨g, hg⟩ := ht
  rw [Filter.compile] at hg
  cases hf : LeafFilter.compile scope ⟨path, operator, value⟩ with
  | error e =>
    rw [hf] at hg
    cases hg
  | ok f =>
    have hplain : Filter.compile scope (.leaf ⟨path, operator, value⟩) = .ok (.leaf f) := by
      rw [Filter.compile, hf]
      rfl
    have hnegated : Filter.compile scope (.leaf ⟨path, negatedOperator operator, value⟩)
        = .ok (.leaf f.opposed) := by
      rw [Filter.compile, compile_negatedOperator h, hf]
      rfl
    rw [Filter.passes_iff hplain, Filter.passes_iff hnegated, Filter.accepts, Filter.accepts,
      LeafFilter.accepts_opposed]
    simp

/-! ## Logical fields -/

variable {datatype field : String} {table : TranslationTable} {value : Option String}

/-- Both tests of a field ask the same paths for the same value. -/
theorem testable_negated :
    Testable scope (compileTest datatype table field (negatedOperator operator) value) ↔
      Testable scope (compileTest datatype table field operator value) := by
  obtain ⟨hplain, hnegated⟩ := isNegated_matching h
  unfold compileTest
  cases table.get? field with
  | none => exact testable_negated_leaf h _ _
  | some translation =>
    simp only [hplain, hnegated, if_true, Bool.false_eq_true, if_false, Filter.testable_allOf,
      Filter.testable_anyOf, List.forall_mem_map, testable_negated_leaf h]

/-- Each path of a test that can be made can be tested. -/
theorem testable_path {translation : Translation} (hget : table.get? field = some translation)
    (ht : Testable scope (compileTest datatype table field operator value)) :
    ∀ path ∈ translation.paths,
      Testable scope (.leaf ⟨path, operator, value.map translation.applyTo⟩) := by
  simpa only [compileTest, hget, (isNegated_matching h).1, Bool.false_eq_true, if_false,
    Filter.testable_anyOf, List.forall_mem_map] using ht

/-- All paths pass the negated test where none passes the test. -/
theorem comparisonHolds_negated
    (ht : Testable scope (compileTest datatype table field operator value))
    (record : Record) :
    ComparisonHolds scope datatype record table field (negatedOperator operator) value ↔
      ¬ ComparisonHolds scope datatype record table field operator value := by
  obtain ⟨hplain, hnegated⟩ := isNegated_matching h
  unfold ComparisonHolds
  cases hget : table.get? field with
  | none =>
    simp only [compileTest, hget] at ht
    exact passes_negated_leaf h ht record
  | some translation =>
    simp only [hplain, hnegated, if_true, Bool.false_eq_true, if_false, not_exists, not_and]
    exact forall₂_congr fun path hpath =>
      passes_negated_leaf h (testable_path h hget ht path hpath) record

end Paths

/-- Where every translation has a path, a test and its negation can be made alike, and each record
passes exactly one of them. -/
theorem accepts_negated_test (scope : Scope) (datatype : String) {table : TranslationTable}
    (ht : TablePaths table) (field : String) {operator : String}
    (h : operator ∈ matchingOperators) (value : Option String) :
    (Testable scope (compileTest datatype table field (negatedOperator operator) value) ↔
      Testable scope (compileTest datatype table field operator value)) ∧
    ∀ f g, Filter.compile scope (compileTest datatype table field operator value) = .ok f →
      Filter.compile scope
        (compileTest datatype table field (negatedOperator operator) value) = .ok g →
      ∀ record, g.accepts record = true ↔ ¬ f.accepts record = true := by
  refine ⟨testable_negated h, fun f g hf hg record => ?_⟩
  rw [← Filter.passes_iff hf, ← Filter.passes_iff hg, passes_comparison ht ⟨f, hf⟩,
    passes_comparison ht ⟨g, hg⟩]
  exact comparisonHolds_negated h ⟨f, hf⟩ record

/-- An address that holds the part in one of its two fields passes the positive test only; an event
without addresses passes the negated one only. -/
theorem accepts_negated_test_addresses : ∃ f g : Filter,
    Filter.compile sampleScope (compileTest "e" sampleTable "addr" "<>" (some "c")) = .ok f ∧
    Filter.compile sampleScope (compileTest "e" sampleTable "addr" "!<>" (some "c")) = .ok g ∧
    f.accepts sampleRecord = true ∧ ¬ g.accepts sampleRecord = true ∧
    g.accepts [("sev", .text "low")] = true ∧ ¬ f.accepts [("sev", .text "low")] = true := by
  have htable : TablePaths sampleTable := by
    intro e he
    rw [List.mem_singleton.1 he]
    exact List.cons_ne_nil _ _
  have hop : "<>" ∈ matchingOperators := by decide
  obtain ⟨f, hf⟩ : Testable sampleScope (compileTest "e" sampleTable "addr" "<>" (some "c")) :=
    ⟨_, rfl⟩
  obtain ⟨htestable, hopposed⟩ := accepts_negated_test sampleScope "e" htable "addr" hop (some "c")
  obtain ⟨g, hg⟩ := htestable.2 ⟨f, hf⟩
  have hpasses : f.accepts sampleRecord = true := by
    rw [← Filter.passes_iff hf]
    decide +kernel
  have hmisses : ¬ f.accepts [("sev", .text "low")] = true := by
    rw [← Filter.passes_iff hf]
    decide +kernel
  exact ⟨f, g, hf, hg, hpasses, fun hga => (hopposed f g hf hg _).1 hga hpasses,
    (hopposed f g hf hg _).2 hmisses, hmisses⟩

end EventSearch.Provider
