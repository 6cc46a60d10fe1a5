/-
# `EventSearch.Proofs.CombinedCriteria` — the laws of the combinators and the form they keep

`and` and `or` are associative with `empty` as their neutral element, also on nodes that no
combinator built, and they put the paths of both sides behind one another.

Criteria made by combinators have a form that both writers of texts rely on: `empty` stands alone or
not at all, a node has at least two children, and none of them is a node of its kind (`Normal`).  It is
the form of solid criteria, seen from the whole tree (`normal_iff`).  Each combinator keeps it, so that
whatever is built by them has it (`Combined.built`), and whatever a query compiles to.
-/
import EventSearch.Proofs.CriteriaLinks

namespace EventSearch.Query

namespace Criteria

/-! ## Form -/

/-- A tree is another one, or stands somewhere in it. -/
inductive Occurs (d : Criteria) : Criteria → Prop where
  | whole : Occurs d d
  | conj {c : Criteria} {cs : List Criteria} (hc : c ∈ cs) (h : Occurs d c) : Occurs d (.conj cs)
  | disj {c : Criteria} {cs : List Criteria} (hc : c ∈ cs) (h : Occurs d c) : Occurs d (.disj cs)

/-- Criteria in which nothing can be left out or merged. -/
structure Normal (c : Criteria) : Prop where
  empty : Occurs .empty c → c = .empty
  conj : ∀ cs, Occurs (.conj cs) c → 2 ≤ cs.length ∧ ∀ d ∈ cs, d.isConj = false
  disj : ∀ cs, Occurs (.disj cs) c → 2 ≤ cs.length ∧ ∀ d ∈ cs, d.isDisj = false

theorem Solid.occurs {c d : Criteria} (h : c.Solid) (ho : Occurs d c) : d.Solid := by
  induction ho with
  | whole => exact h
  | conj hc _ ih =>
    cases h with
    | conj _ hs _ => exact ih (hs _ hc)
  | disj hc _ ih =>
    cases h with
    | disj _ hs _ => exact ih (hs _ hc)

theorem Solid.normal {c : Criteria} (h : c.Solid) : c.Normal := by
  refine ⟨fun ho => absurd rfl (h.occurs ho).not_empty, fun cs ho => ?_, fun cs ho => ?_⟩
  · cases h.occurs ho with
    | conj hlength _ hkind => exact ⟨hlength, hkind⟩
  · cases h.occurs ho with
    | disj hlength _ hkind => exact ⟨hlength, hkind⟩

theorem normal_empty : Normal .empty := by
  refine ⟨fun _ => rfl, fun cs ho => ?_, fun cs ho => ?_⟩ <;> cases ho

/-- A child of a node in normal form is in normal form and not empty. -/
theorem Normal.child {c d : Criteria} (h : c.Normal) (hd : ∀ e, Occurs e d → Occurs e c)
    (hc : c ≠ .empty) : d.Normal ∧ d ≠ .empty := by
  have hne : ¬ Occurs .empty d := fun ho => hc (h.empty (hd _ ho))
  refine ⟨⟨fun ho => absurd ho hne, fun cs ho => h.conj cs (hd _ ho),
    fun cs ho => h.disj cs (hd _ ho)⟩, ?_⟩
  rintro rfl
  exact hne .whole

theorem Normal.solid : (c : Criteria) → c.Normal → c ≠ .empty → c.Solid
  | .empty, _, hne => absurd rfl hne
  | .leaf l, _, _ => .leaf l
  | .conj cs, h, hne => by
    obtain ⟨hlength, hkind⟩ := h.conj cs .whole
    refine .conj hlength (fun d hd => ?_) hkind
    obtain ⟨hnormal, hd'⟩ := h.child (fun e ho => .conj hd ho) hne
    exact Normal.solid d hnormal hd'
  | .disj cs, h, hne => by
    obtain ⟨hlength, hkind⟩ := h.disj cs .whole
    refine .disj hlength (fun d hd => ?_) hkind
    obtain ⟨hnormal, hd'⟩ := h.child (fun e ho => .disj hd ho) hne
    exact Normal.solid d hnormal hd'

/-- The normal form is that of built criteria. -/
theorem normal_iff {c : Criteria} : c.Normal ↔ c.Built := by
  constructor
  · intro h
    by_cases hc : c = .empty
    · exact .inl hc
    · exact .inr (h.solid c hc)
  · rintro (rfl | h)
    · exact normal_empty
    · exact h.normal

/-! ## Combination -/

/-- Criteria made from leaves and `empty` by combinators.  An update replaces criteria by their
combination with others. -/
inductive Combined : Criteria → Prop where
  | empty : Combined .empty
  | leaf (l : Leaf) : Combined (.leaf l)
  | and {a b : Criteria} (ha : Combined a) (hb : Combined b) : Combined (a.and b)
  | or {a b : Criteria} (ha : Combined a) (hb : Combined b) : Combined (a.or b)
  | allOf {cs : List Criteria} (h : ∀ c ∈ cs, Combined c) : Combined (allOf cs)
  | anyOf {cs : List Criteria} (h : ∀ c ∈ cs, Combined c) : Combined (anyOf cs)
  | updated {c : Criteria} {updates : List (Connective × Criteria)} (hc : Combined c)
      (h : ∀ u ∈ updates, Combined u.2) :
      Combined (updates.foldl (fun c u => u.1.apply c u.2) c)

/-- Each update keeps the form, and so do many. -/
theorem Built.updated {updates : List (Connective × Criteria)} (h : ∀ u ∈ updates, u.2.Built)
    {c : Criteria} (hc : c.Built) : (updates.foldl (fun c u => u.1.apply c u.2) c).Built := by
  induction updates generalizing c with
  | nil => exact hc
  | cons u updates ih =>
    obtain ⟨hu, hrest⟩ := List.forall_mem_cons.1 h
    exact ih hrest (hc.apply hu)

theorem Combined.built {c : Criteria} (h : Combined c) : c.Built := by
  induction h with
  | empty => exact .inl rfl
  | leaf l => exact .inr (.leaf l)
  | and _ _ iha ihb => exact iha.and ihb
  | or _ _ iha ihb => exact iha.or ihb
  | @allOf cs _ ih =>
    have hfold : (cs.foldl Connective.and.apply .empty).Built := Built.foldl ih (.inl rfl)
    exact hfold
  | @anyOf cs _ ih =>
    have hfold : (cs.foldl Connective.or.apply .empty).Built := Built.foldl ih (.inl rfl)
    exact hfold
  | updated _ _ ihc ih => exact Built.updated ih ihc

theorem paths_and (a b : Criteria) : (a.and b).paths = a.paths ++ b.paths := by
  rw [paths, leaves_and, List.map_append]
  rfl

theorem paths_or (a b : Criteria) : (a.or b).paths = a.paths ++ b.paths := by
  rw [paths, leaves_or, List.map_append]
  rfl

/-- Both combinators are monoids on all criteria and put paths behind one another; what they build
and what queries compile to is in normal form. -/
theorem combinators_lawful :
    (∀ a b c : Criteria, (a.and b).and c = a.and (b.and c) ∧ (a.or b).or c = a.or (b.or c)) ∧
      (∀ c : Criteria, and .empty c = c ∧ c.and .empty = c ∧ or .empty c = c ∧ c.or .empty = c) ∧
      (∀ a b : Criteria, (a.and b).paths = a.paths ++ b.paths ∧
        (a.or b).paths = a.paths ++ b.paths) ∧
      (∀ c : Criteria, Combined c → c.Normal) ∧
      ∀ datatype table mode query c, compile datatype table mode query = .ok c → c.Normal := by
  refine ⟨fun a b c => ⟨and_assoc a b c, or_assoc a b c⟩,
    fun c => ⟨empty_and c, and_empty c, empty_or c, or_empty c⟩,
    fun a b => ⟨paths_and a b, paths_or a b⟩, fun c h => ?_, fun datatype table mode query c h => ?_⟩
  · exact normal_iff.2 h.built
  · exact normal_iff.2 (compile_cases h).1

/-- Criteria that are built by all combinators in turn, and compiled ones. -/
theorem combinators_lawful_samples :
    let a : Criteria := .test "e.a" "==" "1"
    let b : Criteria := .test "e.b" "==" "2"
    let updated : Criteria := [(Connective.or, a), (.or, b)].foldl (fun c u => u.1.apply c u.2) .empty
    (allOf [updated, .empty, anyOf [a.and b, b]] = .conj [.disj [a, b], .disj [.conj [a, b], b]] ∧
      (allOf [updated, .empty, anyOf [a.and b, b]]).Normal) ∧
      ∃ c, compile "e" .empty .lucene "a:1 AND (b:2 OR c:3) AND d:4" = .ok c ∧ c.Normal := by
  intro a b updated
  have ha : Combined a := .leaf _
  have hb : Combined b := .leaf _
  have hupdated : Combined updated := .updated .empty (by simp [ha, hb])
  have hany : Combined (anyOf [a.and b, b]) := .anyOf (by simp [ha.and hb, hb])
  have hall : Combined (allOf [updated, .empty, anyOf [a.and b, b]]) :=
    .allOf (by simp [hupdated, hany, Combined.empty])
  have hcompile : compile "e" .empty .lucene "a:1 AND (b:2 OR c:3) AND d:4"
      = .ok (.conj [.test "e.a" "==" "1", .disj [.test "e.b" "==" "2", .test "e.c" "==" "3"],
          .test "e.d" "==" "4"]) := Text.eq_ok_of_toOption (by decide +kernel)
  exact ⟨⟨rfl, combinators_lawful.2.2.2.1 _ hall⟩, _, hcompile,
    combinators_lawful.2.2.2.2 _ _ _ _ _ hcompile⟩

end Criteria

end EventSearch.Query
