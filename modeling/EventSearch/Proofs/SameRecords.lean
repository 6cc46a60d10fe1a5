/-
# `EventSearch.Proofs.SameRecords` — criteria that find the same records

Criteria find the same records when the provider can test both or neither, and the same records pass
(`SameRecords`).  Where each test of some criteria is replaced by what finds the records of that
test, the whole finds what it found (`sameRecords_substitute`).  No replacement may be empty: an
empty alternative would be dropped.
-/
import EventSearch.Proofs.CriteriaSubstitution
import EventSearch.Proofs.QueryMeaning

namespace EventSearch.Provider

open EventSearch.Data EventSearch.Query

/-! ## What can be tested -/

namespace Filter

variable {scope : Scope}

theorem testable_and_iff (c d : Criteria) :
    Testable scope (c.and d) ↔ Testable scope c ∧ Testable scope d := by
  refine ⟨testable_and, ?_⟩
  rintro ⟨⟨f, hf⟩, g, hg⟩
  obtain ⟨h, hh, -⟩ := compile_and hf hg
  exact ⟨h, hh⟩

/-- The alternatives of what can be tested can be tested. -/
theorem compile_disjuncts {c : Criteria} (h : Testable scope c) :
    ∃ fs, compileAll scope c.disjuncts = .ok fs := by
  obtain ⟨f, hf⟩ := h
  by_cases hd : c.isDisj = true
  · cases c with
    | disj cs =>
      obtain ⟨fs, hfs, -⟩ := compile_disj hf
      exact ⟨fs, hfs⟩
    | empty => cases hd
    | leaf l => cases hd
    | conj cs => cases hd
  · by_cases hc : c = .empty
    · subst hc
      exact ⟨[], rfl⟩
    · rw [Criteria.disjuncts_of_not_disj hc (by simpa using hd), compileAll_singleton, hf]
      exact ⟨[f], rfl⟩

theorem testable_or_iff {c d : Criteria} (hc : c ≠ .empty) (hd : d ≠ .empty) :
    Testable scope (c.or d) ↔ Testable scope c ∧ Testable scope d := by
  constructor
  · intro h
    obtain ⟨htc, htd, -⟩ := passes_or hc hd h
    exact ⟨htc, htd⟩
  · rintro ⟨htc, htd⟩
    obtain ⟨fs, hfs⟩ := compile_disjuncts htc
    obtain ⟨gs, hgs⟩ := compile_disjuncts htd
    refine ⟨.disj (fs ++ gs), ?_⟩
    rw [Criteria.or_eq_disj hc hd, compile, compileAll_append, hfs, hgs]
    rfl

end Filter

/-! ## Criteria that find the same -/

/-- Both criteria can be tested or neither, and the same records pass. -/
structure SameRecords (scope : Scope) (c d : Criteria) : Prop where
  testable : Testable scope c ↔ Testable scope d
  passes : ∀ record, Passes scope record c ↔ Passes scope record d

namespace SameRecords

variable {scope : Scope} {a b c d : Criteria}

theorem refl (scope : Scope) (c : Criteria) : SameRecords scope c c :=
  ⟨Iff.rfl, fun _ => Iff.rfl⟩

/-- What cannot be tested is passed by no record. -/
theorem of_error {e e' : Error} (ha : Filter.compile scope a = .error e)
    (hb : Filter.compile scope b = .error e') : SameRecords scope a b := by
  have hnone {c : Criteria} {e : Error} (hc : Filter.compile scope c = .error e) :
      ¬ Testable scope c := by
    rintro ⟨f, hf⟩
    rw [hc] at hf
    cases hf
  have hfails {c : Criteria} {record : Record} (hc : ¬ Testable scope c) :
      ¬ Passes scope record c := by
    rintro ⟨f, hf, -⟩
    exact hc ⟨f, hf⟩
  exact ⟨iff_of_false (hnone ha) (hnone hb),
    fun record => iff_of_false (hfails (hnone ha)) (hfails (hnone hb))⟩

theorem of_ok {f g : Filter} (ha : Filter.compile scope a = .ok f)
    (hb : Filter.compile scope b = .ok g)
    (h : ∀ record, f.accepts record = g.accepts record) : SameRecords scope a b := by
  refine ⟨iff_of_true ⟨f, ha⟩ ⟨g, hb⟩, fun record => ?_⟩
  rw [Filter.passes_iff ha, Filter.passes_iff hb, h]

theorem and (hab : SameRecords scope a b) (hcd : SameRecords scope c d) :
    SameRecords scope (a.and c) (b.and d) := by
  refine ⟨?_, fun record => ?_⟩
  · rw [Filter.testable_and_iff, Filter.testable_and_iff, hab.testable, hcd.testable]
  · rw [Filter.passes_and, Filter.passes_and, hab.passes, hcd.passes]

theorem or (hab : SameRecords scope a b) (hcd : SameRecords scope c d) (ha : a ≠ .empty)
    (hb : b ≠ .empty) (hc : c ≠ .empty) (hd : d ≠ .empty) :
    SameRecords scope (a.or c) (b.or d) := by
  have htestable : Testable scope (a.or c) ↔ Testable scope (b.or d) := by
    rw [Filter.testable_or_iff ha hc, Filter.testable_or_iff hb hd, hab.testable, hcd.testable]
  refine ⟨htestable, fun record => ?_⟩
  -- what cannot be tested is passed by no record
  by_cases ht : Testable scope (a.or c)
  · obtain ⟨-, -, hleft⟩ := Filter.passes_or ha hc ht
    obtain ⟨-, -, hright⟩ := Filter.passes_or hb hd (htestable.1 ht)
    rw [hleft, hright, hab.passes, hcd.passes]
  · constructor
    · rintro ⟨f, hf, -⟩
      exact absurd ⟨f, hf⟩ ht
    · rintro ⟨f, hf, -⟩
      exact absurd (htestable.2 ⟨f, hf⟩) ht

theorem apply (op : Connective) (hab : SameRecords scope a b) (hcd : SameRecords scope c d)
    (ha : a ≠ .empty) (hb : b ≠ .empty) (hc : c ≠ .empty) (hd : d ≠ .empty) :
    SameRecords scope (op.apply a c) (op.apply b d) := by
  cases op with
  | and => exact hab.and hcd
  | or => exact hab.or hcd ha hb hc hd

theorem foldl_apply (op : Connective) {g : Criteria → Criteria} {cs : List Criteria}
    (hall : ∀ c ∈ cs, g c ≠ .empty ∧ c ≠ .empty ∧ SameRecords scope (g c) c)
    (hab : SameRecords scope a b) (ha : a ≠ .empty) (hb : b ≠ .empty) :
    (cs.map g).foldl op.apply a ≠ .empty ∧
      SameRecords scope ((cs.map g).foldl op.apply a) (cs.foldl op.apply b) := by
  induction cs generalizing a b with
  | nil => exact ⟨ha, hab⟩
  | cons c cs ih =>
    obtain ⟨hg, hc, hsame⟩ := hall c List.mem_cons_self
    exact ih (fun d hd => hall d (List.mem_cons_of_mem c hd)) (hab.apply op hsame ha hb hg hc)
      (op.apply_ne_empty ha hg) (op.apply_ne_empty hb hc)

end SameRecords

/-- Criteria whose tests are replaced by what finds the same records find the same records. -/
theorem sameRecords_substitute {scope : Scope} {f : Leaf → Criteria} {c : Criteria}
    (hs : c.Solid) (h : ∀ l ∈ c.leaves, f l ≠ .empty ∧ SameRecords scope (f l) (.leaf l)) :
    SameRecords scope (c.substitute f) c := by
  have hboth : c.substitute f ≠ .empty ∧ SameRecords scope (c.substitute f) c := by
    revert h
    refine Criteria.Solid.node_induction (fun l h => ?_) (fun op c cs hn _ hall h => ?_) hs
    · exact h l (by simp [Criteria.leaves])
    · have hparts : ∀ d ∈ c :: cs, d.substitute f ≠ .empty ∧ d ≠ .empty ∧
          SameRecords scope (d.substitute f) d := by
        intro d hd
        obtain ⟨hsolid, hsame⟩ := hall d hd
        obtain ⟨hne, hsame⟩ := hsame fun l hm => h l (by
          rw [Connective.leaves_node]
          exact List.mem_flatMap.2 ⟨d, hd, hm⟩)
        exact ⟨hne, hsolid.not_empty, hsame⟩
      obtain ⟨hg, hc, hsame⟩ := hparts c List.mem_cons_self
      rw [Criteria.substitute_node, ← Connective.foldl_apply hn]
      exact hsame.foldl_apply op (fun d hd => hparts d (List.mem_cons_of_mem c hd)) hg hc
  exact hboth.2

end EventSearch.Provider
