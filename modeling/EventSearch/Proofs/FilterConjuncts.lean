/-
# `EventSearch.Proofs.FilterConjuncts` — filters of conjunctions

The combinator `and` merges the children of conjunctions, so the filter of `c.and d` is not built
from those of `c` and `d`.  It still accepts what both accept, and looks for the texts of both
(`compile_and`), because all three are told by their conjuncts (`compile_conjuncts`,
`compile_of_conjuncts`).  A record passes criteria that can be tested and accept it (`Passes`), and a
conjunction when it passes both sides (`passes_and`).
-/
import EventSearch.Proofs.CriteriaShape
import EventSearch.Provider.Filter

namespace EventSearch.Provider

open EventSearch.Data EventSearch.Query

namespace Filter

/-! ## Lists of filters -/

section Lists

variable (scope : Scope)

theorem compileAll_append (cs ds : List Criteria) : compileAll scope (cs ++ ds) =
    match compileAll scope cs with
    | .error e => .error e
    | .ok fs => (compileAll scope ds).map (fs ++ ·) := by
  induction cs with
  | nil =>
    simp only [List.nil_append, compileAll]
    cases compileAll scope ds <;> rfl
  | cons c cs ih =>
    simp only [List.cons_append, compileAll, ih]
    cases compile scope c with
    | error e => rfl
    | ok f =>
      cases compileAll scope cs with
      | error e => rfl
      | ok fs => cases compileAll scope ds <;> rfl

theorem acceptsAll_append (record : Record) (fs gs : List Filter) :
    acceptsAll record (fs ++ gs) = (acceptsAll record fs && acceptsAll record gs) := by
  induction fs with
  | nil => simp [acceptsAll]
  | cons f fs ih => simp [acceptsAll, ih, Bool.and_assoc]

theorem freeTextsOfAll_append (fs gs : List Filter) :
    freeTextsOfAll (fs ++ gs) = freeTextsOfAll fs ++ freeTextsOfAll gs := by
  induction fs with
  | nil => simp [freeTextsOfAll]
  | cons f fs ih => simp [freeTextsOfAll, ih]

end Lists

/-! ## Conjuncts -/

/-- A filter that accepts what some filters all accept, and looks for their texts. -/
structure Joins (f : Filter) (fs : List Filter) : Prop where
  accepts : ∀ record, f.accepts record = acceptsAll record fs
  freeTexts : f.freeTexts = freeTextsOfAll fs

theorem joins_conj (fs : List Filter) : Joins (.conj fs) fs :=
  ⟨fun record => by rw [Filter.accepts], by rw [Filter.freeTexts]⟩

theorem joins_singleton (f : Filter) : Joins f [f] :=
  ⟨fun record => by simp [acceptsAll], by simp [freeTextsOfAll]⟩

theorem joins_all : Joins .all [] :=
  ⟨fun record => by simp [Filter.accepts, acceptsAll],
    by simp [Filter.freeTexts, freeTextsOfAll]⟩

variable {scope : Scope}

theorem compileAll_singleton (c : Criteria) : compileAll scope [c] = (compile scope c).map ([·]) := by
  simp only [compileAll]
  cases compile scope c <;> rfl

theorem compile_conjuncts {c : Criteria} {f : Filter} (h : compile scope c = .ok f) :
    ∃ fs, compileAll scope c.conjuncts = .ok fs ∧ Joins f fs := by
  have hsingle (hc : c.conjuncts = [c]) : ∃ fs, compileAll scope c.conjuncts = .ok fs ∧ Joins f fs :=
    ⟨[f], by rw [hc, compileAll_singleton, h]; rfl, joins_singleton f⟩
  cases c with
  | empty =>
    obtain rfl := Except.ok.inj h
    exact ⟨[], rfl, joins_all⟩
  | conj cs =>
    simp only [compile] at h
    cases hc : compileAll scope cs with
    | error e =>
      rw [hc] at h
      cases h
    | ok fs =>
      rw [hc] at h
      obtain rfl := Except.ok.inj h
      exact ⟨fs, hc, joins_conj fs⟩
  | leaf l => exact hsingle rfl
  | disj cs => exact hsingle rfl

theorem compile_of_conjuncts {c : Criteria} {fs : List Filter}
    (h : compileAll scope c.conjuncts = .ok fs) : ∃ f, compile scope c = .ok f ∧ Joins f fs := by
  have hsingle (hc : c.conjuncts = [c]) : ∃ f, compile scope c = .ok f ∧ Joins f fs := by
    rw [hc, compileAll_singleton] at h
    cases hf : compile scope c with
    | error e =>
      rw [hf] at h
      cases h
    | ok f =>
      rw [hf] at h
      obtain rfl := Except.ok.inj h
      exact ⟨f, rfl, joins_singleton f⟩
  cases c with
  | empty =>
    obtain rfl := Except.ok.inj h
    exact ⟨.all, rfl, joins_all⟩
  | conj cs => exact ⟨.conj fs, by rw [compile, show compileAll scope cs = .ok fs from h]; rfl, joins_conj fs⟩
  | leaf l => exact hsingle rfl
  | disj cs => exact hsingle rfl

theorem conjuncts_and (c d : Criteria) : (c.and d).conjuncts = c.conjuncts ++ d.conjuncts := by
  by_cases hc : c = .empty
  · rw [hc, Criteria.empty_and]
    rfl
  · by_cases hd : d = .empty
    · rw [hd, Criteria.and_empty]
      exact (List.append_nil _).symm
    · rw [Criteria.and_eq_conj hc hd]
      rfl

theorem Joins.append {f g h : Filter} {fs gs : List Filter} (hf : Joins f fs) (hg : Joins g gs)
    (hh : Joins h (fs ++ gs)) : (∀ record, h.accepts record = (f.accepts record && g.accepts record)) ∧
      h.freeTexts = f.freeTexts ++ g.freeTexts := by
  refine ⟨fun record => ?_, ?_⟩
  · rw [hh.accepts, acceptsAll_append, hf.accepts, hg.accepts]
  · rw [hh.freeTexts, freeTextsOfAll_append, hf.freeTexts, hg.freeTexts]

/-- Criteria that can both be tested can be tested together. -/
theorem compile_and {c d : Criteria} {f g : Filter} (hf : compile scope c = .ok f)
    (hg : compile scope d = .ok g) : ∃ h, compile scope (c.and d) = .ok h ∧
      (∀ record, h.accepts record = (f.accepts record && g.accepts record)) ∧
      h.freeTexts = f.freeTexts ++ g.freeTexts := by
  obtain ⟨fs, hfs, hjf⟩ := compile_conjuncts hf
  obtain ⟨gs, hgs, hjg⟩ := compile_conjuncts hg
  have hall : compileAll scope (c.and d).conjuncts = .ok (fs ++ gs) := by
    rw [conjuncts_and, compileAll_append, hfs, hgs]
    rfl
  obtain ⟨h, hh, hj⟩ := compile_of_conjuncts hall
  exact ⟨h, hh, hjf.append hjg hj⟩

/-- Criteria that can be tested together can both be tested. -/
theorem compile_and_inv {c d : Criteria} {h : Filter} (hh : compile scope (c.and d) = .ok h) :
    ∃ f g, compile scope c = .ok f ∧ compile scope d = .ok g ∧
      (∀ record, h.accepts record = (f.accepts record && g.accepts record)) ∧
      h.freeTexts = f.freeTexts ++ g.freeTexts := by
  obtain ⟨hs, hhs, hj⟩ := compile_conjuncts hh
  rw [conjuncts_and, compileAll_append] at hhs
  cases hc : compileAll scope c.conjuncts with
  | error e =>
    rw [hc] at hhs
    cases hhs
  | ok fs =>
    rw [hc] at hhs
    cases hd : compileAll scope d.conjuncts with
    | error e =>
      rw [hd] at hhs
      cases hhs
    | ok gs =>
      rw [hd] at hhs
      obtain rfl := Except.ok.inj hhs
      obtain ⟨f, hf, hjf⟩ := compile_of_conjuncts hc
      obtain ⟨g, hg, hjg⟩ := compile_of_conjuncts hd
      exact ⟨f, g, hf, hg, hjf.append hjg hj⟩

end Filter

/-! ## Passing criteria -/

/-- Criteria that the provider can test. -/
def Testable (scope : Scope) (c : Criteria) : Prop := ∃ f, Filter.compile scope c = .ok f

/-- The criteria can be tested, and the record passes. -/
def Passes (scope : Scope) (record : Record) (c : Criteria) : Prop :=
  ∃ f, Filter.compile scope c = .ok f ∧ f.accepts record = true

theorem passes_iff_any {scope : Scope} {record : Record} {c : Criteria} :
    Passes scope record c ↔ (Filter.compile scope c).toOption.any (·.accepts record) = true := by
  unfold Passes
  cases Filter.compile scope c with
  | error e => simp [Except.toOption]
  | ok f => simp [Except.toOption]

instance (scope : Scope) (record : Record) (c : Criteria) : Decidable (Passes scope record c) :=
  decidable_of_iff _ passes_iff_any.symm

namespace Filter

variable {scope : Scope} {record : Record}

theorem passes_iff {c : Criteria} {f : Filter} (h : compile scope c = .ok f) :
    Passes scope record c ↔ f.accepts record = true := by
  constructor
  · rintro ⟨g, hg, haccepts⟩
    rw [h] at hg
    obtain rfl := Except.ok.inj hg
    exact haccepts
  · exact fun haccepts => ⟨f, h, haccepts⟩

theorem passes_empty : Passes scope record .empty :=
  ⟨.all, rfl, by rw [accepts]⟩

/-- A record passes a conjunction when it passes both sides. -/
theorem passes_and (c d : Criteria) :
    Passes scope record (c.and d) ↔ Passes scope record c ∧ Passes scope record d := by
  constructor
  · rintro ⟨h, hh, haccepts⟩
    obtain ⟨f, g, hf, hg, hboth, -⟩ := compile_and_inv hh
    rw [hboth, Bool.and_eq_true] at haccepts
    exact ⟨⟨f, hf, haccepts.1⟩, g, hg, haccepts.2⟩
  · rintro ⟨⟨f, hf, hfa⟩, g, hg, hga⟩
    obtain ⟨h, hh, hboth, -⟩ := compile_and hf hg
    exact ⟨h, hh, by rw [hboth, hfa, hga]; rfl⟩

theorem passes_allOf (cs : List Criteria) :
    Passes scope record (.allOf cs) ↔ ∀ c ∈ cs, Passes scope record c := by
  have hfold : ∀ b, Passes scope record (cs.foldl Criteria.and b) ↔
      Passes scope record b ∧ ∀ c ∈ cs, Passes scope record c := by
    induction cs with
    | nil => simp
    | cons c cs ih =>
      intro b
      rw [List.foldl_cons, ih, passes_and, List.forall_mem_cons, and_assoc]
  rw [Criteria.allOf, hfold]
  exact ⟨fun h => h.2, fun h => ⟨passes_empty, h⟩⟩

theorem testable_and {c d : Criteria} (h : Testable scope (c.and d)) :
    Testable scope c ∧ Testable scope d := by
  obtain ⟨f, hf⟩ := h
  obtain ⟨g, k, hg, hk, -, -⟩ := compile_and_inv hf
  exact ⟨⟨g, hg⟩, k, hk⟩

end Filter

end EventSearch.Provider
