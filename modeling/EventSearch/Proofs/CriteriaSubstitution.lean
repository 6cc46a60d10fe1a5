/-
# `EventSearch.Proofs.CriteriaSubstitution` — criteria with their tests replaced

A query that is written as text and read again, perhaps in another language or by another table, has
its tests replaced one by one, and its nodes put together again (`Criteria.substitute`).  The
combinators are associative, so it makes no difference whether tests are replaced before criteria
are combined or after (`substitute_foldl`).
-/
import EventSearch.Proofs.WrittenCriteria

namespace EventSearch.Query

namespace Criteria

mutual

/-- The criteria with every leaf replaced, and the nodes put together again. -/
def substitute (f : Leaf → Criteria) : Criteria → Criteria
  | .empty => .empty
  | .leaf l => f l
  | .conj cs => allOf (substituteAll f cs)
  | .disj cs => anyOf (substituteAll f cs)

/-- The members of a list with every leaf replaced. -/
def substituteAll (f : Leaf → Criteria) : List Criteria → List Criteria
  | [] => []
  | c :: cs => substitute f c :: substituteAll f cs

end

variable {f : Leaf → Criteria}

theorem substituteAll_eq_map (cs : List Criteria) : substituteAll f cs = cs.map (substitute f) := by
  induction cs with
  | nil => rfl
  | cons c cs ih => rw [substituteAll, ih, List.map_cons]

theorem substitute_node (op : Connective) (c : Criteria) (cs : List Criteria) :
    (op.node (c :: cs)).substitute f = (cs.map (substitute f)).foldl op.apply (c.substitute f) := by
  cases op with
  | and =>
    rw [Connective.node, substitute, substituteAll_eq_map, List.map_cons, allOf, List.foldl_cons,
      empty_and]
    rfl
  | or =>
    rw [Connective.node, substitute, substituteAll_eq_map, List.map_cons, anyOf, List.foldl_cons,
      empty_or]
    rfl

/-! ## Combination -/

theorem and_assoc (a b c : Criteria) : (a.and b).and c = a.and (b.and c) := by
  by_cases ha : a = .empty
  · rw [ha, empty_and, empty_and]
  by_cases hb : b = .empty
  · rw [hb, and_empty, empty_and]
  by_cases hc : c = .empty
  · rw [hc, and_empty, and_empty]
  have hbc : b.and c ≠ .empty := by
    rw [and_eq_conj hb hc]
    exact Criteria.noConfusion
  have hab : a.and b ≠ .empty := by
    rw [and_eq_conj ha hb]
    exact Criteria.noConfusion
  rw [and_eq_conj hab hc, and_eq_conj ha hbc, and_eq_conj ha hb, and_eq_conj hb hc]
  simp only [conjuncts, List.append_assoc]

theorem or_assoc (a b c : Criteria) : (a.or b).or c = a.or (b.or c) := by
  by_cases ha : a = .empty
  · rw [ha, empty_or, empty_or]
  by_cases hb : b = .empty
  · rw [hb, or_empty, empty_or]
  by_cases hc : c = .empty
  · rw [hc, or_empty, or_empty]
  have hbc : b.or c ≠ .empty := by
    rw [or_eq_disj hb hc]
    exact Criteria.noConfusion
  have hab : a.or b ≠ .empty := by
    rw [or_eq_disj ha hb]
    exact Criteria.noConfusion
  rw [or_eq_disj hab hc, or_eq_disj ha hbc, or_eq_disj ha hb, or_eq_disj hb hc]
  simp only [disjuncts, List.append_assoc]

theorem foldl_and_eq (cs : List Criteria) (c : Criteria) : cs.foldl and c = c.and (allOf cs) := by
  induction cs generalizing c with
  | nil => rw [allOf, List.foldl_nil, List.foldl_nil, and_empty]
  | cons d ds ih => rw [allOf, List.foldl_cons, List.foldl_cons, empty_and, ih, ih d, and_assoc]

theorem foldl_or_eq (cs : List Criteria) (c : Criteria) : cs.foldl or c = c.or (anyOf cs) := by
  induction cs generalizing c with
  | nil => rw [anyOf, List.foldl_nil, List.foldl_nil, or_empty]
  | cons d ds ih => rw [anyOf, List.foldl_cons, List.foldl_cons, empty_or, ih, ih d, or_assoc]

/-- What is not empty is told by its conjuncts, before its leaves are replaced and after. -/
theorem allOf_conjuncts {c : Criteria} (h : c ≠ .empty) :
    allOf (c.conjuncts.map (substitute f)) = c.substitute f := by
  cases c with
  | empty => exact absurd rfl h
  | leaf l => exact empty_and _
  | conj cs => rw [substitute, substituteAll_eq_map, conjuncts]
  | disj cs => exact empty_and _

theorem anyOf_disjuncts {c : Criteria} (h : c ≠ .empty) :
    anyOf (c.disjuncts.map (substitute f)) = c.substitute f := by
  cases c with
  | empty => exact absurd rfl h
  | leaf l => exact empty_or _
  | conj cs => exact empty_or _
  | disj cs => rw [substitute, substituteAll_eq_map, disjuncts]

theorem substitute_and (a b : Criteria) :
    (a.and b).substitute f = (a.substitute f).and (b.substitute f) := by
  by_cases ha : a = .empty
  · rw [ha, empty_and, substitute, empty_and]
  by_cases hb : b = .empty
  · rw [hb, and_empty, substitute, and_empty]
  rw [and_eq_conj ha hb, substitute, substituteAll_eq_map, List.map_append, allOf,
    List.foldl_append, foldl_and_eq, ← allOf, allOf_conjuncts ha, allOf_conjuncts hb]

theorem substitute_or (a b : Criteria) :
    (a.or b).substitute f = (a.substitute f).or (b.substitute f) := by
  by_cases ha : a = .empty
  · rw [ha, empty_or, substitute, empty_or]
  by_cases hb : b = .empty
  · rw [hb, or_empty, substitute, or_empty]
  rw [or_eq_disj ha hb, substitute, substituteAll_eq_map, List.map_append, anyOf,
    List.foldl_append, foldl_or_eq, ← anyOf, anyOf_disjuncts ha, anyOf_disjuncts hb]

/-- Leaves may be replaced before criteria are combined, or after. -/
theorem substitute_foldl (op : Connective) (c : Criteria) (cs : List Criteria) :
    (cs.foldl op.apply c).substitute f
      = (cs.map (substitute f)).foldl op.apply (c.substitute f) := by
  induction cs generalizing c with
  | nil => rfl
  | cons d ds ih =>
    have happly : (op.apply c d).substitute f = op.apply (c.substitute f) (d.substitute f) := by
      cases op with
      | and => exact substitute_and c d
      | or => exact substitute_or c d
    rw [List.foldl_cons, ih, happly, List.map_cons, List.foldl_cons]

/-- Where every leaf is replaced by itself, nothing changes. -/
theorem substitute_eq_self {c : Criteria} (hs : c.Solid) (h : ∀ l ∈ c.leaves, f l = .leaf l) :
    c.substitute f = c := by
  revert h
  refine Solid.node_induction (fun l h => ?_) (fun op c cs hn _ hall h => ?_) hs
  · exact h l (by simp [leaves])
  · have hself : ∀ d ∈ c :: cs, d.substitute f = d := by
      intro d hd
      refine (hall d hd).2 fun l hm => h l ?_
      rw [Connective.leaves_node]
      exact List.mem_flatMap.2 ⟨d, hd, hm⟩
    have hmap : cs.map (substitute f) = cs :=
      (List.map_congr_left fun d hd => hself d (List.mem_cons_of_mem c hd)).trans (List.map_id cs)
    rw [substitute_node, hmap, hself c List.mem_cons_self, Connective.foldl_apply hn]

end Criteria

theorem Connective.apply_ne_empty (op : Connective) {a b : Criteria} (ha : a ≠ .empty)
    (hb : b ≠ .empty) : op.apply a b ≠ .empty := by
  cases op with
  | and =>
    rw [apply, Criteria.and_eq_conj ha hb]
    exact Criteria.noConfusion
  | or =>
    rw [apply, Criteria.or_eq_disj ha hb]
    exact Criteria.noConfusion

end EventSearch.Query
