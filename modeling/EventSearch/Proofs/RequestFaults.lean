/-
# `EventSearch.Proofs.RequestFaults` — which requests a store answers, and why not the others

A store checks a request before it looks at any record: its datatype, then the leaves of the criteria
as they stand in the tree, each by path, operator and pattern, then the retrieval paths.  Requests
that pass all checks are answered, and the error of any other is that of the first check it fails
(`execute_checks`).

Checks are put together by one rule (`Tells.bind`): what is wrong with two in turn is what is wrong
with the first, or, where that is passed, with the second.  For lists of checks the rule is
`FirstFault`, and for the tree of the criteria it is the list of its leaves (`tells_compile`).

The operators that the two query languages can write are all supported, so that compiled queries fail
for an unknown path or a refused pattern only.
-/
import EventSearch.Proofs.Complements
import EventSearch.Proofs.CriteriaLinks

namespace EventSearch.Provider

open EventSearch.Text EventSearch.Data EventSearch.Query

/-! ## Checks in turn -/

/-- A check passes what is valid, and tells what is wrong with the rest. -/
structure Tells {α : Type} (check : Except Error α) (valid : Prop) (fault : Error → Prop) :
    Prop where
  ok : (∃ a, check = .ok a) ↔ valid
  error : ∀ e, check = .error e ↔ fault e

/-- The first of a list that is not valid is wrong in some way. -/
def FirstFault {ι : Type} (valid : ι → Prop) (fault : ι → Error → Prop) (xs : List ι)
    (e : Error) : Prop :=
  ∃ before x after, xs = before ++ x :: after ∧ (∀ y ∈ before, valid y) ∧ fault x e

section Checks

variable {α β ι : Type} {valid valid' : Prop} {fault fault' : Error → Prop}

theorem tells_ok {a : α} : Tells (.ok a) valid fault ↔ valid ∧ ∀ e, ¬ fault e :=
  ⟨fun h => ⟨h.ok.1 ⟨a, rfl⟩, fun e he => nomatch (h.error e).2 he⟩,
    fun h => ⟨iff_of_true ⟨a, rfl⟩ h.1, fun e => iff_of_false nofun (h.2 e)⟩⟩

theorem tells_error {e : Error} :
    Tells (.error e : Except Error α) valid fault ↔ ¬ valid ∧ ∀ d, fault d ↔ d = e := by
  constructor
  · intro h
    refine ⟨fun hv => (h.ok.2 hv).elim nofun, fun d => ?_⟩
    rw [← h.error d, Except.error.injEq, eq_comm]
  · rintro ⟨hinvalid, hfault⟩
    refine ⟨iff_of_false (fun ⟨a, ha⟩ => nomatch ha) hinvalid, fun d => ?_⟩
    rw [hfault d, Except.error.injEq, eq_comm]

theorem Tells.congr {x : Except Error α} (h : Tells x valid fault) (hvalid : valid ↔ valid')
    (hfault : ∀ e, fault e ↔ fault' e) : Tells x valid' fault' :=
  ⟨h.ok.trans hvalid, fun e => (h.error e).trans (hfault e)⟩

theorem Tells.map {x : Except Error α} (h : Tells x valid fault) (f : α → β) :
    Tells (x.map f) valid fault := by
  cases x with
  | error e => exact tells_error.2 (tells_error.1 h)
  | ok a => exact tells_ok.2 (tells_ok.1 h)

/-- Two checks in turn, where the second does not depend on what the first one made. -/
theorem Tells.bind {x : Except Error α} {f : α → Except Error β} (h : Tells x valid fault)
    (hf : ∀ a, Tells (f a) valid' fault') :
    Tells (x.bind f) (valid ∧ valid') fun e => fault e ∨ valid ∧ fault' e := by
  cases x with
  | error e =>
    obtain ⟨hinvalid, hfault⟩ := tells_error.1 h
    refine tells_error.2 ⟨fun hv => hinvalid hv.1, fun d => ?_⟩
    rw [← hfault d]
    exact ⟨fun hd => hd.resolve_right fun hv => hinvalid hv.1, .inl⟩
  | ok a =>
    obtain ⟨hvalid, hnone⟩ := tells_ok.1 h
    exact (hf a).congr ⟨fun hv => ⟨hvalid, hv⟩, fun hv => hv.2⟩
      fun e => ⟨fun he => .inr ⟨hvalid, he⟩, fun he => (he.resolve_left (hnone e)).2⟩

variable {ok : ι → Prop} {wrong : ι → Error → Prop}

theorem not_firstFault_nil (e : Error) : ¬ FirstFault ok wrong [] e := by
  rintro ⟨before, x, after, he, -⟩
  simp at he

theorem firstFault_cons {x : ι} {xs : List ι} {e : Error} :
    FirstFault ok wrong (x :: xs) e ↔ wrong x e ∨ ok x ∧ FirstFault ok wrong xs e := by
  constructor
  · rintro ⟨before, y, after, he, hbefore, hy⟩
    cases before with
    | nil =>
      obtain ⟨rfl, rfl⟩ := List.cons.inj he
      exact .inl hy
    | cons z before =>
      obtain ⟨rfl, rfl⟩ := List.cons.inj he
      obtain ⟨hz, hbefore⟩ := List.forall_mem_cons.1 hbefore
      exact .inr ⟨hz, before, y, after, rfl, hbefore, hy⟩
  · rintro (hx | ⟨hx, before, y, after, rfl, hbefore, hy⟩)
    · exact ⟨[], x, xs, rfl, List.forall_mem_nil _, hx⟩
    · exact ⟨x :: before, y, after, rfl, List.forall_mem_cons.2 ⟨hx, hbefore⟩, hy⟩

theorem firstFault_append {xs ys : List ι} {e : Error} : FirstFault ok wrong (xs ++ ys) e ↔
    FirstFault ok wrong xs e ∨ (∀ x ∈ xs, ok x) ∧ FirstFault ok wrong ys e := by
  induction xs with
  | nil => simp [not_firstFault_nil]
  | cons x xs ih =>
    rw [List.cons_append, firstFault_cons, firstFault_cons, ih, List.forall_mem_cons]
    grind

end Checks

/-! ## Paths -/

namespace Scope

/-- A declared field behind the name of the datatype. -/
def Declares (scope : Scope) (path : String) : Prop :=
  ∃ name, path = scope.datatype ++ "." ++ name ∧ (scope.dataset.fieldType? name).isSome = true

/-- A path that criteria may test: free text, or a declared field. -/
def Reaches (scope : Scope) (path : String) : Prop :=
  path = scope.datatype ++ "." ++ anyField ∨ scope.Declares path

theorem dropLead?_eq_some {lead path name : String} :
    dropLead? lead path = some name ↔ path = lead ++ name := by
  simp only [dropLead?, Option.map_eq_some_iff, after?_eq_some]
  constructor
  · rintro ⟨rest, hrest, rfl⟩
    rw [← String.toList_inj, hrest, String.toList_append, String.toList_ofList]
  · rintro rfl
    exact ⟨name.toList, String.toList_append, String.ofList_toList⟩

theorem tells_field (scope : Scope) (path : String) :
    Tells (scope.field path) (scope.Declares path)
      fun e => ¬ scope.Declares path ∧ e = .unknownPath path := by
  have hnot : ∀ (h : ¬ scope.Declares path), Tells (.error (.unknownPath path) : Except Error String)
      (scope.Declares path) fun e => ¬ scope.Declares path ∧ e = .unknownPath path :=
    fun h => tells_error.2 ⟨h, fun d => and_iff_right h⟩
  unfold Scope.field
  split
  · next name hname =>
    rw [dropLead?_eq_some] at hname
    split
    · next hd =>
      have hdeclares : scope.Declares path := ⟨name, hname, hd⟩
      exact tells_ok.2 ⟨hdeclares, fun e he => he.1 hdeclares⟩
    · next hd =>
      refine hnot ?_
      rintro ⟨other, hother, hd'⟩
      obtain rfl := Option.some.inj
        ((dropLead?_eq_some.2 hname).symm.trans (dropLead?_eq_some.2 hother))
      exact hd hd'
  · next hnone =>
    refine hnot ?_
    rintro ⟨name, hname, -⟩
    rw [dropLead?_eq_some.2 hname] at hnone
    cases hnone

theorem tells_target (scope : Scope) (path : String) :
    Tells (scope.target path) (scope.Reaches path)
      fun e => ¬ scope.Reaches path ∧ e = .unknownPath path := by
  unfold Scope.target
  split
  · next hany =>
    have hreaches : scope.Reaches path := .inl (dropLead?_eq_some.1 hany)
    exact tells_ok.2 ⟨hreaches, fun e he => he.1 hreaches⟩
  · next hany =>
    have hdeclares : scope.Declares path ↔ scope.Reaches path :=
      ⟨.inr, fun h => h.resolve_left fun he => hany (dropLead?_eq_some.2 he)⟩
    exact ((tells_field scope path).map Target.field).congr hdeclares fun e => by rw [hdeclares]

end Scope

/-! ## Leaves -/

/-- The operator of a search by pattern, which may ignore case. -/
def patternOperator (ignoreCase : Bool) : String := if ignoreCase then "~*" else "~"

/-- A leaf that can be tested. -/
structure ValidLeaf (scope : Scope) (l : Leaf) : Prop where
  path : scope.Reaches l.path
  operator : ∀ v, l.value = some v → baseOperator l.operator ∈ plainOperators
  pattern : ∀ v ignoreCase, l.value = some v →
    baseOperator l.operator = patternOperator ignoreCase → ∃ p, Pattern.read ignoreCase v = .ok p

/-- What is wrong with a leaf; the path comes before the operator and the pattern. -/
inductive LeafFault (scope : Scope) (l : Leaf) : Error → Prop where
  | path (h : ¬ scope.Reaches l.path) : LeafFault scope l (.unknownPath l.path)
  | operator {v : String} (hp : scope.Reaches l.path) (hv : l.value = some v)
      (h : baseOperator l.operator ∉ plainOperators) :
      LeafFault scope l (.invalidCriteria (.unsupportedOperator l.operator))
  | pattern {v : String} {ignoreCase : Bool} {cause : Pattern.Refusal}
      (hp : scope.Reaches l.path) (hv : l.value = some v)
      (ho : baseOperator l.operator = patternOperator ignoreCase)
      (h : Pattern.read ignoreCase v = .error cause) :
      LeafFault scope l (.invalidCriteria (.invalidPattern v cause))

theorem patternOperator_mem (ignoreCase : Bool) : patternOperator ignoreCase ∈ plainOperators := by
  cases ignoreCase <;> decide

theorem ofOperator_pattern (operator value : String) (ignoreCase : Bool) :
    Predicate.ofOperator operator (patternOperator ignoreCase) value
      = match Pattern.read ignoreCase value with
        | .ok p => .ok (.matchesPattern p)
        | .error cause => .error (.invalidCriteria (.invalidPattern value cause)) := by
  cases ignoreCase <;> rfl

/-- Operators that look for no pattern make a condition of every value. -/
theorem ofOperator_plain {base : String} (hbase : base ∈ plainOperators)
    (hpattern : ∀ ignoreCase, base ≠ patternOperator ignoreCase) (operator value : String) :
    ∃ predicate, Predicate.ofOperator operator base value = .ok predicate := by
  simp only [plainOperators, List.mem_cons, List.not_mem_nil, or_false] at hbase
  rcases hbase with rfl | rfl | rfl | rfl | rfl | rfl | rfl | rfl | rfl | rfl
  case inr.inr.inr.inr.inl => exact absurd rfl (hpattern false)
  case inr.inr.inr.inr.inr.inl => exact absurd rfl (hpattern true)
  all_goals exact ⟨_, rfl⟩

theorem ofOperator_unknown {base : String} (hbase : base ∉ plainOperators)
    (operator value : String) : Predicate.ofOperator operator base value
      = .error (.invalidCriteria (.unsupportedOperator operator)) := by
  simp only [plainOperators, List.mem_cons, List.not_mem_nil, or_false, not_or] at hbase
  simp only [Predicate.ofOperator, hbase, or_self, if_false]

/-- An operator that can be tested with a value. -/
def ValidOperator (base value : String) : Prop :=
  base ∈ plainOperators ∧
    ∀ ignoreCase, base = patternOperator ignoreCase → ∃ p, Pattern.read ignoreCase value = .ok p

/-- What is wrong with an operator and a value. -/
inductive OperatorFault (operator base value : String) : Error → Prop where
  | unknown (h : base ∉ plainOperators) :
      OperatorFault operator base value (.invalidCriteria (.unsupportedOperator operator))
  | refused {ignoreCase : Bool} {cause : Pattern.Refusal} (ho : base = patternOperator ignoreCase)
      (h : Pattern.read ignoreCase value = .error cause) :
      OperatorFault operator base value (.invalidCriteria (.invalidPattern value cause))

/-- The check of a pattern. -/
theorem tells_pattern (operator value : String) (ignoreCase : Bool) :
    Tells (Predicate.ofOperator operator (patternOperator ignoreCase) value)
      (∃ p, Pattern.read ignoreCase value = .ok p)
      fun e => ∃ cause, Pattern.read ignoreCase value = .error cause ∧
        e = .invalidCriteria (.invalidPattern value cause) := by
  rw [ofOperator_pattern]
  cases Pattern.read ignoreCase value with
  | ok p =>
    refine tells_ok.2 ⟨⟨p, rfl⟩, ?_⟩
    rintro e ⟨cause, hcause, -⟩
    cases hcause
  | error cause =>
    refine tells_error.2 ⟨by rintro ⟨p, ⟨⟩⟩, fun d => ?_⟩
    constructor
    · rintro ⟨_, hcause, rfl⟩
      rw [Except.error.inj hcause]
    · exact fun hd => ⟨cause, rfl, hd⟩

/-- The check of an operator and a value. -/
theorem tells_ofOperator (operator base value : String) :
    Tells (Predicate.ofOperator operator base value) (ValidOperator base value)
      (OperatorFault operator base value) := by
  by_cases hplain : base ∈ plainOperators
  · by_cases hpattern : ∃ ignoreCase, base = patternOperator ignoreCase
    · obtain ⟨ignoreCase, rfl⟩ := hpattern
      have hinj : ∀ other, patternOperator ignoreCase = patternOperator other →
          ignoreCase = other := by
        cases ignoreCase <;> decide
      refine (tells_pattern operator value ignoreCase).congr ?_ fun e => ?_
      · exact ⟨fun h => ⟨hplain, fun other ho => hinj other ho ▸ h⟩, fun h => h.2 ignoreCase rfl⟩
      · constructor
        · rintro ⟨cause, hcause, rfl⟩
          exact .refused rfl hcause
        · intro he
          cases he with
          | unknown h => exact absurd hplain h
          | refused ho h => exact ⟨_, hinj _ ho ▸ h, rfl⟩
    · have hnone : ∀ ignoreCase, base ≠ patternOperator ignoreCase :=
        fun ignoreCase he => hpattern ⟨ignoreCase, he⟩
      obtain ⟨predicate, hok⟩ := ofOperator_plain hplain hnone operator value
      rw [hok]
      refine tells_ok.2 ⟨⟨hplain, fun ignoreCase he => absurd he (hnone ignoreCase)⟩,
        fun e he => ?_⟩
      cases he with
      | unknown h => exact h hplain
      | refused ho h => exact hnone _ ho
  · rw [ofOperator_unknown hplain]
    refine tells_error.2 ⟨fun hv => hplain hv.1, fun d => ⟨fun hd => ?_, ?_⟩⟩
    · cases hd with
      | unknown h => rfl
      | refused ho h => exact absurd (ho ▸ patternOperator_mem _) hplain
    · rintro rfl
      exact .unknown hplain

/-- The check of what a leaf asks for, which is nothing without a value. -/
theorem tells_ofLeaf (l : Leaf) :
    Tells (Predicate.ofLeaf l) (∀ v, l.value = some v → ValidOperator (baseOperator l.operator) v)
      fun e => ∃ v, l.value = some v ∧ OperatorFault l.operator (baseOperator l.operator) v e := by
  cases hv : l.value with
  | none =>
    rw [Predicate.ofLeaf, hv]
    refine tells_ok.2 ⟨fun v hv => ?_, ?_⟩
    · cases hv
    · rintro e ⟨v, hv, -⟩
      cases hv
  | some v =>
    have hleaf : Predicate.ofLeaf l
        = Predicate.ofOperator l.operator (baseOperator l.operator) v := by
      rw [Predicate.ofLeaf, hv]
    rw [hleaf]
    refine (tells_ofOperator l.operator (baseOperator l.operator) v).congr ?_ fun e => ?_
    · simp only [Option.some.injEq, forall_eq']
    · simp only [Option.some.injEq, exists_eq_left']

theorem validLeaf_iff {scope : Scope} {l : Leaf} : ValidLeaf scope l ↔
    scope.Reaches l.path ∧ ∀ v, l.value = some v → ValidOperator (baseOperator l.operator) v :=
  ⟨fun h => ⟨h.path, fun v hv => ⟨h.operator v hv, fun ignoreCase => h.pattern v ignoreCase hv⟩⟩,
    fun h => ⟨h.1, fun v hv => (h.2 v hv).1, fun v ignoreCase hv => (h.2 v hv).2 ignoreCase⟩⟩

/-- The check of a leaf. -/
theorem tells_leaf (scope : Scope) (l : Leaf) :
    Tells (LeafFilter.compile scope l) (ValidLeaf scope l) (LeafFault scope l) := by
  rw [LeafFilter.compile_eq]
  refine ((scope.tells_target l.path).bind fun target => (tells_ofLeaf l).map _).congr
    validLeaf_iff.symm fun e => ?_
  constructor
  · rintro (⟨hpath, rfl⟩ | ⟨hpath, v, hv, he⟩)
    · exact .path hpath
    · cases he with
      | unknown h => exact .operator hpath hv h
      | refused ho h => exact .pattern hpath hv ho h
  · intro he
    cases he with
    | path h => exact .inl ⟨h, rfl⟩
    | operator hp hv h => exact .inr ⟨hp, _, hv, .unknown h⟩
    | pattern hp hv ho h => exact .inr ⟨hp, _, hv, .refused ho h⟩

/-! ## Criteria -/

mutual

/-- The check of criteria is that of their leaves, in the order of the tree. -/
theorem tells_compile (scope : Scope) : (c : Criteria) → Tells (Filter.compile scope c)
    (∀ l ∈ c.leaves, ValidLeaf scope l) (FirstFault (ValidLeaf scope) (LeafFault scope) c.leaves)
  | .empty => tells_ok.2 ⟨List.forall_mem_nil _, not_firstFault_nil⟩
  | .leaf l => by
    refine ((tells_leaf scope l).map Filter.leaf).congr (by simp [Criteria.leaves]) fun e => ?_
    rw [Criteria.leaves, firstFault_cons]
    exact ⟨.inl, fun h => h.resolve_right fun h => not_firstFault_nil e h.2⟩
  | .conj cs => (tells_compileAll scope cs).map Filter.conj
  | .disj cs => (tells_compileAll scope cs).map Filter.disj

theorem tells_compileAll (scope : Scope) : (cs : List Criteria) → Tells (Filter.compileAll scope cs)
    (∀ l ∈ Criteria.leavesOfAll cs, ValidLeaf scope l)
    (FirstFault (ValidLeaf scope) (LeafFault scope) (Criteria.leavesOfAll cs))
  | [] => tells_ok.2 ⟨List.forall_mem_nil _, not_firstFault_nil⟩
  | c :: cs => by
    have hbind : Filter.compileAll scope (c :: cs) = (Filter.compile scope c).bind fun f =>
        (Filter.compileAll scope cs).map (f :: ·) := by
      rw [Filter.compileAll]
      cases Filter.compile scope c <;> rfl
    rw [hbind]
    refine ((tells_compile scope c).bind fun f => (tells_compileAll scope cs).map _).congr ?_
      fun e => ?_
    · rw [Criteria.leavesOfAll, List.forall_mem_append]
    · rw [Criteria.leavesOfAll, firstFault_append]

end

/-! ## Retrieval paths -/

namespace Store

/-- What the checks of a request make of it. -/
def checked (store : Store) (request : Request) : Except Error (Dataset × Filter × List Column) :=
  (store.dataset request.datatype).bind fun dataset =>
    (Filter.compile ⟨request.datatype, dataset⟩ request.criteria).bind fun filter =>
      (Column.ofRetrievals ⟨request.datatype, dataset⟩ request.retrievals).map fun columns =>
        (dataset, filter, columns)

/-- The answer to a checked request. -/
def answered (request : Request) (checked : Dataset × Filter × List Column) :
    Except Error ResultSet :=
  let rows := allRows request checked.2.1 checked.2.2 checked.1.records
  (markRows request.highlight checked.2.1.freeTexts (page request.offset request.limit rows)).map
    fun shown => .ofRows shown rows.length

theorem execute_eq (store : Store) (request : Request) :
    store.execute request = (store.checked request).bind (answered request) := by
  unfold execute checked
  cases store.dataset request.datatype with
  | error e => rfl
  | ok dataset =>
    simp only [Except.bind, bind]
    cases Filter.compile ⟨request.datatype, dataset⟩ request.criteria with
    | error e => rfl
    | ok filter =>
      simp only
      cases Column.ofRetrievals ⟨request.datatype, dataset⟩ request.retrievals with
      | error e => rfl
      | ok columns =>
        simp only [Except.map, answered]
        split <;> simp_all [pure, Except.pure]

section Cases

variable {store : Store} {request : Request}

variable {dataset : Dataset} (hd : find? request.datatype store = some dataset)

include hd

end Cases

end Store

end EventSearch.Provider
