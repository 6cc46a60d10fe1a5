/-
# `EventSearch.Proofs.CriteriaShape` — the shape of compiled criteria

The combinators keep criteria flat.  `Solid` says so: no node is empty, a node has at least two
children, and no child is of the kind of its parent.  `and` and `or` keep it (`Solid.and`,
`Solid.or`), and what they combine they put side by side (`leaves_and`, `leaves_or`).

A solid conjunction or disjunction is what the combinators make of its children, taken from the
left (`foldl_and`, `foldl_or`); that is why a text which lists the children one after the other
compiles to the node again.

Queries of both languages compile to solid criteria (`LuceneTree.solid_compile`,
`CriterionTree.solid_compile`), as long as every translation stands for some path.
-/
import EventSearch.Query.Compiler

namespace EventSearch.Query

namespace Criteria

def isConj : Criteria → Bool
  | .conj _ => true
  | _ => false

def isDisj : Criteria → Bool
  | .disj _ => true
  | _ => false

/-- Criteria as the combinators build them from leaves. -/
inductive Solid : Criteria → Prop
  | leaf (l : Leaf) : Solid (.leaf l)
  | conj {cs : List Criteria} : 2 ≤ cs.length → (∀ c ∈ cs, Solid c) →
      (∀ c ∈ cs, c.isConj = false) → Solid (.conj cs)
  | disj {cs : List Criteria} : 2 ≤ cs.length → (∀ c ∈ cs, Solid c) →
      (∀ c ∈ cs, c.isDisj = false) → Solid (.disj cs)

theorem Solid.not_empty {c : Criteria} (h : Solid c) : c ≠ .empty := by
  rintro rfl
  cases h

/-! ## Combination -/

@[simp] theorem empty_and (c : Criteria) : and .empty c = c := by cases c <;> rfl

@[simp] theorem and_empty (c : Criteria) : and c .empty = c := by cases c <;> rfl

@[simp] theorem empty_or (c : Criteria) : or .empty c = c := by cases c <;> rfl

@[simp] theorem or_empty (c : Criteria) : or c .empty = c := by cases c <;> rfl

/-- The children that a conjunct contributes to a conjunction. -/
def conjuncts : Criteria → List Criteria
  | .empty => []
  | .conj cs => cs
  | c => [c]

/-- The children that an alternative contributes to a disjunction. -/
def disjuncts : Criteria → List Criteria
  | .empty => []
  | .disj cs => cs
  | c => [c]

theorem conjuncts_of_not_conj {c : Criteria} (hc : c ≠ .empty) (h : c.isConj = false) :
    c.conjuncts = [c] := by
  cases c with
  | empty => exact absurd rfl hc
  | conj cs => cases h
  | leaf l => rfl
  | disj cs => rfl

theorem disjuncts_of_not_disj {c : Criteria} (hc : c ≠ .empty) (h : c.isDisj = false) :
    c.disjuncts = [c] := by
  cases c with
  | empty => exact absurd rfl hc
  | disj cs => cases h
  | leaf l => rfl
  | conj cs => rfl

/-- What is not empty is conjoined by listing the conjuncts of both sides. -/
theorem and_eq_conj {a b : Criteria} (ha : a ≠ .empty) (hb : b ≠ .empty) :
    a.and b = .conj (a.conjuncts ++ b.conjuncts) := by
  cases b with
  | empty => exact absurd rfl hb
  | leaf l => cases a <;> first | rfl | exact absurd rfl ha
  | conj bs => cases a <;> rfl
  | disj bs => cases a <;> first | rfl | exact absurd rfl ha

theorem or_eq_disj {a b : Criteria} (ha : a ≠ .empty) (hb : b ≠ .empty) :
    a.or b = .disj (a.disjuncts ++ b.disjuncts) := by
  cases b with
  | empty => exact absurd rfl hb
  | leaf l => cases a <;> first | rfl | exact absurd rfl ha
  | conj bs => cases a <;> first | rfl | exact absurd rfl ha
  | disj bs => cases a <;> rfl

/-! ## Solidity is kept -/

theorem Solid.conjuncts {c : Criteria} (h : Solid c) :
    1 ≤ c.conjuncts.length ∧ (∀ d ∈ c.conjuncts, Solid d) ∧ ∀ d ∈ c.conjuncts, d.isConj = false := by
  cases h with
  | leaf l => exact ⟨by simp [Criteria.conjuncts], by simpa [Criteria.conjuncts] using .leaf l,
      by simp [Criteria.conjuncts, isConj]⟩
  | conj hl hs hk => exact ⟨Nat.le_of_succ_le hl, hs, hk⟩
  | disj hl hs hk => exact ⟨by simp [Criteria.conjuncts],
      by simpa [Criteria.conjuncts] using .disj hl hs hk, by simp [Criteria.conjuncts, isConj]⟩

theorem Solid.disjuncts {c : Criteria} (h : Solid c) :
    1 ≤ c.disjuncts.length ∧ (∀ d ∈ c.disjuncts, Solid d) ∧ ∀ d ∈ c.disjuncts, d.isDisj = false := by
  cases h with
  | leaf l => exact ⟨by simp [Criteria.disjuncts], by simpa [Criteria.disjuncts] using .leaf l,
      by simp [Criteria.disjuncts, isDisj]⟩
  | conj hl hs hk => exact ⟨by simp [Criteria.disjuncts],
      by simpa [Criteria.disjuncts] using .conj hl hs hk, by simp [Criteria.disjuncts, isDisj]⟩
  | disj hl hs hk => exact ⟨Nat.le_of_succ_le hl, hs, hk⟩

theorem Solid.and {a b : Criteria} (ha : Solid a) (hb : Solid b) : Solid (a.and b) := by
  obtain ⟨hal, has, hak⟩ := ha.conjuncts
  obtain ⟨hbl, hbs, hbk⟩ := hb.conjuncts
  rw [and_eq_conj ha.not_empty hb.not_empty]
  refine .conj (by rw [List.length_append]; omega) ?_ ?_
  · exact fun c hc => (List.mem_append.1 hc).elim (has c) (hbs c)
  · exact fun c hc => (List.mem_append.1 hc).elim (hak c) (hbk c)

theorem Solid.or {a b : Criteria} (ha : Solid a) (hb : Solid b) : Solid (a.or b) := by
  obtain ⟨hal, has, hak⟩ := ha.disjuncts
  obtain ⟨hbl, hbs, hbk⟩ := hb.disjuncts
  rw [or_eq_disj ha.not_empty hb.not_empty]
  refine .disj (by rw [List.length_append]; omega) ?_ ?_
  · exact fun c hc => (List.mem_append.1 hc).elim (has c) (hbs c)
  · exact fun c hc => (List.mem_append.1 hc).elim (hak c) (hbk c)

/-- All of some solid criteria, if there are any. -/
theorem Solid.foldl {f : Criteria → Criteria → Criteria}
    (hf : ∀ {a b : Criteria}, Solid a → Solid b → Solid (f a b)) {c : Criteria} (hc : Solid c) :
    ∀ {cs : List Criteria}, (∀ d ∈ cs, Solid d) → Solid (cs.foldl f c)
  | [], _ => hc
  | d :: _, h =>
    Solid.foldl hf (hf hc (h d List.mem_cons_self)) fun e he => h e (List.mem_cons_of_mem _ he)

theorem Solid.allOf {cs : List Criteria} (hne : cs ≠ []) (h : ∀ c ∈ cs, Solid c) :
    Solid (allOf cs) := by
  cases cs with
  | nil => exact absurd rfl hne
  | cons c cs =>
    simp only [Criteria.allOf, List.foldl_cons, empty_and]
    exact Solid.foldl Solid.and (h c List.mem_cons_self) fun d hd => h d (List.mem_cons_of_mem _ hd)

theorem Solid.anyOf {cs : List Criteria} (hne : cs ≠ []) (h : ∀ c ∈ cs, Solid c) :
    Solid (anyOf cs) := by
  cases cs with
  | nil => exact absurd rfl hne
  | cons c cs =>
    simp only [Criteria.anyOf, List.foldl_cons, empty_or]
    exact Solid.foldl Solid.or (h c List.mem_cons_self) fun d hd => h d (List.mem_cons_of_mem _ hd)

/-! ## Listing the children -/

theorem foldl_and_conj (as : List Criteria) {bs : List Criteria} (hs : ∀ c ∈ bs, c ≠ .empty)
    (hk : ∀ c ∈ bs, c.isConj = false) : bs.foldl and (.conj as) = .conj (as ++ bs) := by
  induction bs generalizing as with
  | nil => simp
  | cons b bs ih =>
    have hb := hs b List.mem_cons_self
    rw [List.foldl_cons, and_eq_conj (by simp) hb,
      conjuncts_of_not_conj hb (hk b List.mem_cons_self),
      ih _ (fun c hc => hs c (List.mem_cons_of_mem _ hc))
        fun c hc => hk c (List.mem_cons_of_mem _ hc)]
    simp [conjuncts]

theorem foldl_or_disj (as : List Criteria) {bs : List Criteria} (hs : ∀ c ∈ bs, c ≠ .empty)
    (hk : ∀ c ∈ bs, c.isDisj = false) : bs.foldl or (.disj as) = .disj (as ++ bs) := by
  induction bs generalizing as with
  | nil => simp
  | cons b bs ih =>
    have hb := hs b List.mem_cons_self
    rw [List.foldl_cons, or_eq_disj (by simp) hb,
      disjuncts_of_not_disj hb (hk b List.mem_cons_self),
      ih _ (fun c hc => hs c (List.mem_cons_of_mem _ hc))
        fun c hc => hk c (List.mem_cons_of_mem _ hc)]
    simp [disjuncts]

/-- The children of a solid conjunction, conjoined from the left, are the conjunction. -/
theorem foldl_and {a : Criteria} {bs : List Criteria} (h : Solid (.conj (a :: bs))) :
    bs.foldl and a = .conj (a :: bs) := by
  cases h with
  | conj hl hs hk =>
    cases bs with
    | nil => simp at hl
    | cons b bs =>
      have ha := hs a (by simp)
      have hb := hs b (by simp)
      rw [List.foldl_cons, and_eq_conj ha.not_empty hb.not_empty,
        conjuncts_of_not_conj ha.not_empty (hk a (by simp)),
        conjuncts_of_not_conj hb.not_empty (hk b (by simp)),
        foldl_and_conj _ (fun c hc => (hs c (by simp [hc])).not_empty)
          fun c hc => hk c (by simp [hc])]
      rfl

/-- The children of a solid disjunction, disjoined from the left, are the disjunction. -/
theorem foldl_or {a : Criteria} {bs : List Criteria} (h : Solid (.disj (a :: bs))) :
    bs.foldl or a = .disj (a :: bs) := by
  cases h with
  | disj hl hs hk =>
    cases bs with
    | nil => simp at hl
    | cons b bs =>
      have ha := hs a (by simp)
      have hb := hs b (by simp)
      rw [List.foldl_cons, or_eq_disj ha.not_empty hb.not_empty,
        disjuncts_of_not_disj ha.not_empty (hk a (by simp)),
        disjuncts_of_not_disj hb.not_empty (hk b (by simp)),
        foldl_or_disj _ (fun c hc => (hs c (by simp [hc])).not_empty)
          fun c hc => hk c (by simp [hc])]
      rfl

/-! ## Leaves -/

@[simp] theorem leavesOfAll_eq (cs : List Criteria) : leavesOfAll cs = cs.flatMap leaves := by
  induction cs with
  | nil => rfl
  | cons c cs ih => simp [leavesOfAll, ih]

theorem leaves_conjuncts (c : Criteria) : c.conjuncts.flatMap leaves = c.leaves := by
  cases c <;> simp [conjuncts, leaves]

theorem leaves_disjuncts (c : Criteria) : c.disjuncts.flatMap leaves = c.leaves := by
  cases c <;> simp [disjuncts, leaves]

@[simp] theorem leaves_and (a b : Criteria) : (a.and b).leaves = a.leaves ++ b.leaves := by
  by_cases ha : a = .empty
  · simp [ha, leaves]
  by_cases hb : b = .empty
  · simp [hb, leaves]
  rw [and_eq_conj ha hb]
  simp [leaves, leaves_conjuncts]

@[simp] theorem leaves_or (a b : Criteria) : (a.or b).leaves = a.leaves ++ b.leaves := by
  by_cases ha : a = .empty
  · simp [ha, leaves]
  by_cases hb : b = .empty
  · simp [hb, leaves]
  rw [or_eq_disj ha hb]
  simp [leaves, leaves_disjuncts]

theorem leaves_foldl {f : Criteria → Criteria → Criteria}
    (hf : ∀ a b : Criteria, (f a b).leaves = a.leaves ++ b.leaves) (c : Criteria)
    (cs : List Criteria) : (cs.foldl f c).leaves = c.leaves ++ cs.flatMap leaves := by
  induction cs generalizing c with
  | nil => simp
  | cons d cs ih => simp [ih, hf]

@[simp] theorem leaves_allOf (cs : List Criteria) : (allOf cs).leaves = cs.flatMap leaves := by
  simp [allOf, leaves_foldl leaves_and, leaves]

@[simp] theorem leaves_anyOf (cs : List Criteria) : (anyOf cs).leaves = cs.flatMap leaves := by
  simp [anyOf, leaves_foldl leaves_or, leaves]

end Criteria

/-! ## Queries -/

theorem mem_of_find? {α : Type} {key : String} {value : α} {xs : List (String × α)}
    (h : Data.find? key xs = some value) : (key, value) ∈ xs := by
  induction xs with
  | nil => cases h
  | cons x xs ih =>
    obtain ⟨k, v⟩ := x
    simp only [Data.find?] at h
    split at h
    · next hk =>
      rw [hk, Option.some.inj h]
      exact List.mem_cons_self
    · exact List.mem_cons_of_mem _ (ih h)

/-- Every entry of a table stands for some path. -/
def TablePaths (table : TranslationTable) : Prop := ∀ e ∈ table.entries, e.2.paths ≠ []

theorem TablePaths.get {table : TranslationTable} (h : TablePaths table) {field : String}
    {translation : Translation} (ht : table.get? field = some translation) :
    translation.paths ≠ [] := h _ (mem_of_find? ht)

/-- Where every translation has a path, no test is empty. -/
theorem CriterionTree.solid_compile {table : TranslationTable} (h : TablePaths table)
    (datatype : String) (t : CriterionTree) : (t.compile datatype table).Solid := by
  induction t with
  | and l r ihl ihr => exact ihl.and ihr
  | or l r ihl ihr => exact ihl.or ihr
  | compare path operator value =>
    simp only [CriterionTree.compile, compileTest]
    split
    · exact .leaf _
    · next translation ht =>
      have hne := h.get ht
      split
      · refine .allOf (by simpa using hne) fun c hc => ?_
        obtain ⟨p, -, rfl⟩ := List.mem_map.1 hc
        exact .leaf _
      · refine .anyOf (by simpa using hne) fun c hc => ?_
        obtain ⟨p, -, rfl⟩ := List.mem_map.1 hc
        exact .leaf _

theorem Term.solid_boundLeaves {path operator : String} {negated : Bool} {bound : Operand}
    {c : Criteria} (h : c ∈ boundLeaves path negated operator bound) : c.Solid := by
  unfold boundLeaves at h
  split at h
  · cases h
  · rw [List.mem_singleton.1 h]
    exact .leaf _

theorem Term.solid_compileRange (path lowOperator highOperator : String) (low high : Operand)
    (negated : Bool) : (compileRange path lowOperator highOperator low high negated).Solid := by
  unfold compileRange
  split
  · split <;> exact .leaf _
  · next hne =>
    have hsolid : ∀ c ∈ boundLeaves path negated lowOperator low ++
        boundLeaves path negated highOperator high, c.Solid :=
      fun c hc => (List.mem_append.1 hc).elim solid_boundLeaves solid_boundLeaves
    split
    · exact .anyOf hne hsolid
    · exact .allOf hne hsolid

/-- No term is empty. -/
theorem Term.solid_compile (datatype : String) (negated : Bool) (t : Term) :
    (t.compile datatype negated).Solid := by
  cases t with
  | value field operand modifier =>
    simp only [Term.compile]
    split <;> exact .leaf _
  | inclusive field low high => exact solid_compileRange ..
  | exclusive field low high => exact solid_compileRange ..

theorem LuceneTree.solid_compile (datatype : String) (t : LuceneTree) :
    (t.compile datatype).Solid := by
  induction t with
  | combine l op r ihl ihr =>
    cases op with
    | and => exact ihl.and ihr
    | or => exact ihl.or ihr
  | group t ih => exact ih
  | signed sign t => exact t.solid_compile datatype _

end EventSearch.Query
