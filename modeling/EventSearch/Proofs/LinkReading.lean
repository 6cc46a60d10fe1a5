/-
# `EventSearch.Proofs.LinkReading` — the query of a link compiles to what the link asks for

The query of a link is the text of its plan, in parentheses when it is a disjunction, and behind it
the criteria of some cells.  It compiles to the conjunction of both (`compile_linkText`), provided
that the text of the plan reads the same in front of other text (`Plan.Extendable`).  In `lucene`
that is a matter of its values.  In `criterion` every text does, and the names of the cells may be
translated (`compile_linkText_criterion`); but a translation without paths leaves a condition empty,
and an alternative to it is then not taken for one.
-/
import EventSearch.Proofs.CellCriteria
import EventSearch.Proofs.CriterionLeftover

namespace EventSearch.Search

open EventSearch.Text EventSearch.Query

/-! ## `lucene` -/

section Lucene

variable {cells : List (String × Option String)} (h : ∀ cell ∈ cells, Readable .lucene cell)
  (datatype : String)

include h

/-- Criteria of cells alone. -/
theorem takeCriteria_cells {cell : String × Option String} (hcell : Readable .lucene cell) :
    ∃ t : LuceneTree, t.compile datatype = narrowed .lucene datatype .empty (cell :: cells) ∧
      LuceneTree.takeCriteria
        (LuceneTree.fuelFor (cellText .lucene cell ++ moreCells .lucene cells))
        (cellText .lucene cell ++ moreCells .lucene cells) = .ok (t, []) := by
  obtain ⟨t, htc, htr⟩ := reads_cell hcell datatype
  obtain ⟨u, huc, hur⟩ := takeChain_cells h datatype t
  refine ⟨u, ?_, ?_⟩
  · rw [huc, htc, narrowed, narrowed, List.foldl_cons, Criteria.empty_and]
  · have hlen : (cellText .lucene cell ++ moreCells .lucene cells).length
        = (cellText .lucene cell).length + (moreCells .lucene cells).length := List.length_append
    rw [LuceneTree.fuelFor, LuceneTree.takeCriteria_succ,
      htr _ (moreCells .lucene cells) (by omega) (follows_moreCells cells)]
    exact congrArg Except.ok (hur _ (by omega))

/-- Criteria of cells behind a query. -/
theorem takeCriteria_query {q : List Char} {tree : LuceneTree}
    (hq : LuceneTree.takeCriteria (LuceneTree.fuelFor q) q = .ok (tree, []))
    (hf : tree.Firm (moreCells .lucene cells)) (he : tree.EndsBefore (moreCells .lucene cells))
    (hne : cells ≠ []) :
    ∃ t : LuceneTree, t.compile datatype = narrowed .lucene datatype (tree.compile datatype) cells ∧
      LuceneTree.takeCriteria (LuceneTree.fuelFor (q ++ moreCells .lucene cells))
        (q ++ moreCells .lucene cells) = .ok (t, []) := by
  have hm : Continues (moreCells .lucene cells) := by
    obtain ⟨cell, cells, rfl⟩ := List.exists_cons_of_ne_nil hne
    rw [moreCells_cons, joiner_lucene]
    exact ⟨' ', _, rfl, by decide⟩
  obtain ⟨n, hn, hk⟩ := LuceneTree.takeCriteria_continued hm hq hf he
  obtain ⟨t, htc, htr⟩ := takeChain_cells h datatype tree
  refine ⟨t, htc, ?_⟩
  have hlen : (q ++ moreCells .lucene cells).length
      = q.length + (moreCells .lucene cells).length := List.length_append
  rw [LuceneTree.fuelFor] at hn hk
  rw [hk (LuceneTree.fuelFor (q ++ moreCells .lucene cells)) (by rw [LuceneTree.fuelFor]; omega)]
  exact congrArg Except.ok (htr _ (by rw [LuceneTree.fuelFor]; omega))

/-- Criteria of cells behind a query in parentheses. -/
theorem takeCriteria_group {q : List Char} {tree : LuceneTree}
    (hq : LuceneTree.takeCriteria (LuceneTree.fuelFor q) q = .ok (tree, [])) (hs : Starts q)
    (hf : tree.Firm (')' :: moreCells .lucene cells))
    (he : tree.EndsBefore (')' :: moreCells .lucene cells)) :
    ∃ t : LuceneTree, t.compile datatype = narrowed .lucene datatype (tree.compile datatype) cells ∧
      LuceneTree.takeCriteria (LuceneTree.fuelFor ('(' :: (q ++ ')' :: moreCells .lucene cells)))
        ('(' :: (q ++ ')' :: moreCells .lucene cells)) = .ok (t, []) := by
  obtain ⟨t, htc, htr⟩ := takeChain_cells h datatype (.group tree)
  refine ⟨t, htc, ?_⟩
  obtain ⟨k, hk, hle⟩ : ∃ k, LuceneTree.fuelFor ('(' :: (q ++ ')' :: moreCells .lucene cells))
      = k + 2 ∧ LuceneTree.fuelFor q ≤ k ∧ (moreCells .lucene cells).length ≤ k := by
    refine ⟨LuceneTree.fuelFor ('(' :: (q ++ ')' :: moreCells .lucene cells)) - 2, ?_, ?_, ?_⟩ <;>
      simp only [LuceneTree.fuelFor, List.length_cons, List.length_append] <;> omega
  rw [hk, LuceneTree.takeCriteria_succ, LuceneTree.takeCriterion_group hq hs hf he k hle.1]
  exact congrArg Except.ok (htr (k + 1) (by omega))

end Lucene

/-! ## `criterion` -/

theorem takeOrChain_shape {fuel : Nat} {first tree : CriterionTree} {cs rest : List Char}
    (h : CriterionTree.takeOrChain fuel first cs = (tree, rest)) :
    (first = tree ∧ cs = rest) ∨ ∃ l r, tree = .or l r := by
  induction fuel generalizing first cs with
  | zero => exact .inl (Prod.mk.inj h)
  | succ fuel ih =>
    rcases CriterionTree.takeOrChain_cases h with hstop | ⟨n, left, right, after, hn, -, -, hchain⟩
    · exact .inl hstop
    · obtain rfl := Nat.succ.inj hn
      rcases ih hchain with ⟨rfl, -⟩ | hor
      · exact .inr ⟨first, right, rfl⟩
      · exact .inr hor

/-- What is no disjunction was read as a conjunction. -/
theorem takeAnd?_of_not_disj {table : TranslationTable} (ht : TablePaths table)
    (datatype : String) {fuel : Nat} {cs : List Char} {tree : CriterionTree}
    (h : CriterionTree.takeOr? fuel cs = some (tree, []))
    (hd : (tree.compile datatype table).isDisj = false) :
    ∃ n < fuel, CriterionTree.takeAnd? n cs = some (tree, []) := by
  obtain ⟨n, first, left, rfl, ha, hchain⟩ := CriterionTree.takeOr?_eq_some h
  rcases takeOrChain_shape hchain with ⟨rfl, rfl⟩ | ⟨l, r, rfl⟩
  · exact ⟨n, Nat.lt_succ_self n, ha⟩
  · have hl := (l.solid_compile ht datatype).not_empty
    have hr := (r.solid_compile ht datatype).not_empty
    rw [CriterionTree.compile, Criteria.or_eq_disj hl hr] at hd
    cases hd

theorem length_le_moreCells (mode : Mode) (cells : List (String × Option String)) :
    cells.length ≤ (moreCells mode cells).length := by
  have hj : 0 < mode.operators.joiner.toList.length := by
    cases mode <;> decide
  induction cells with
  | nil => exact Nat.le_refl 0
  | cons cell cells ih =>
    rw [moreCells_cons]
    simp only [List.length_cons, List.length_append]
    omega

section Criterion

variable {cells : List (String × Option String)}
  (h : ∀ cell ∈ cells, CriterionTree.IsPath cell.1.toList)

include h

/-- A conjunction to which cells were added is the whole of a query. -/
theorem takeOr?_of_takeAnd? {fuel k : Nat} {cs : List Char} {tree : CriterionTree}
    (ha : CriterionTree.takeAnd? fuel cs = some
      (CriterionTree.takeAndChain k tree (moreCells .criterion cells)))
    (hk : cells.length ≤ k) :
    CriterionTree.takeOr? (fuel + 1) cs
      = some (cells.foldl (fun t cell => .and t (cellTree cell)) tree, []) := by
  rw [takeAndChain_cells h tree hk] at ha
  simp only [CriterionTree.takeOr?, ha, Option.map_some]
  cases fuel <;> rfl

theorem takeOr?_cells {cell : String × Option String}
    (hcell : CriterionTree.IsPath cell.1.toList) :
    CriterionTree.takeOr?
        (CriterionTree.fuelFor (cellText .criterion cell ++ moreCells .criterion cells))
        (cellText .criterion cell ++ moreCells .criterion cells)
      = some (cells.foldl (fun t cell => .and t (cellTree cell)) (cellTree cell), []) := by
  have hlen := length_le_moreCells .criterion cells
  obtain ⟨k, hk, hle⟩ : ∃ k, CriterionTree.fuelFor
      (cellText .criterion cell ++ moreCells .criterion cells) = k + 2 ∧ cells.length ≤ k := by
    refine ⟨CriterionTree.fuelFor (cellText .criterion cell ++ moreCells .criterion cells) - 2,
      ?_, ?_⟩ <;> simp only [CriterionTree.fuelFor, List.length_append] <;> omega
  rw [hk]
  refine takeOr?_of_takeAnd? h ?_ hle
  rw [CriterionTree.takeAnd?, takePrimary?_cell hcell (followsTest_moreCells cells)]
  rfl

theorem takeOr?_query {q : List Char} {tree : CriterionTree}
    (hq : CriterionTree.takeOr? (CriterionTree.fuelFor q) q = some (tree, []))
    (hand : ∃ n < CriterionTree.fuelFor q, CriterionTree.takeAnd? n q = some (tree, [])) :
    CriterionTree.takeOr? (CriterionTree.fuelFor (q ++ moreCells .criterion cells))
        (q ++ moreCells .criterion cells)
      = some (cells.foldl (fun t cell => .and t (cellTree cell)) tree, []) := by
  by_cases hne : cells = []
  · subst hne
    rw [moreCells, List.flatMap_nil, List.append_nil]
    exact hq
  obtain ⟨n, hn, hand⟩ := hand
  have hm : CriterionTree.Continues (moreCells .criterion cells) := by
    obtain ⟨cell, cells, rfl⟩ := List.exists_cons_of_ne_nil hne
    rw [moreCells_cons, joiner_criterion, CriterionTree.between_criterion]
    exact .inl ⟨_, rfl⟩
  have hlen := length_le_moreCells .criterion cells
  obtain ⟨m, hmn, hk⟩ := CriterionTree.takeAnd?_continued hm hand
  obtain ⟨k, hfuel, hle⟩ : ∃ k, CriterionTree.fuelFor (q ++ moreCells .criterion cells) = k + 1 ∧
      n + cells.length ≤ k := by
    refine ⟨CriterionTree.fuelFor (q ++ moreCells .criterion cells) - 1, ?_, ?_⟩ <;>
      simp only [CriterionTree.fuelFor, List.length_append] at * <;> omega
  rw [hfuel]
  exact takeOr?_of_takeAnd? h (hk k (by omega)) (by omega)

theorem takeOr?_group {q : List Char} {tree : CriterionTree} (hs : Starts q)
    (hq : CriterionTree.takeOr? (CriterionTree.fuelFor q) q = some (tree, [])) :
    CriterionTree.takeOr? (CriterionTree.fuelFor ('(' :: (q ++ ')' :: moreCells .criterion cells)))
        ('(' :: (q ++ ')' :: moreCells .criterion cells))
      = some (cells.foldl (fun t cell => .and t (cellTree cell)) tree, []) := by
  have hlen := length_le_moreCells .criterion cells
  obtain ⟨k, hfuel, hle, hcells⟩ : ∃ k,
      CriterionTree.fuelFor ('(' :: (q ++ ')' :: moreCells .criterion cells)) = k + 3 ∧
      CriterionTree.fuelFor q ≤ k ∧ cells.length ≤ k := by
    refine ⟨CriterionTree.fuelFor ('(' :: (q ++ ')' :: moreCells .criterion cells)) - 3, ?_, ?_,
      ?_⟩ <;> simp only [CriterionTree.fuelFor, List.length_cons, List.length_append] <;> omega
  have ha : CriterionTree.takeAnd? (k + 2) ('(' :: (q ++ ')' :: moreCells .criterion cells))
      = some (CriterionTree.takeAndChain (k + 1) tree (moreCells .criterion cells)) := by
    rw [CriterionTree.takeAnd?, CriterionTree.takePrimary?_group hq hs k hle]
    rfl
  rw [hfuel]
  exact takeOr?_of_takeAnd? h ha (by omega)

end Criterion

/-! ## Whole queries -/

namespace Plan

variable {σ : Type} (p : Plan σ)

/-- What a link puts behind the query of a plan. -/
def behind (cells : List (String × Option String)) : List Char :=
  (if p.criteria.isDisj then [')'] else []) ++ moreCells p.mode cells

/-- A plan whose query text reads the same in front of the criteria of some cells.  In `lucene` that
is a matter of its values and of its last word. -/
def Extendable (cells : List (String × Option String)) : Prop :=
  match p.mode with
  | .lucene => ∀ tree, LuceneTree.read p.query = .ok tree →
      tree.Firm (p.behind cells) ∧ tree.EndsBefore (p.behind cells)
  | .criterion => TablePaths p.surface.translations

/-- The criteria of a plan are those of its query. -/
def Compiled : Prop :=
  compile p.surface.datatype p.surface.translations p.mode p.query = .ok p.criteria

variable {p}

theorem queryPart_blank (h : allBlank p.query.toList = true) : p.queryPart = [] := by
  simp [queryPart, trimmed, trim_of_allBlank h]

theorem queryPart_of_not_blank (h : allBlank p.query.toList = false) :
    p.queryPart = [if p.criteria.isDisj then "(" ++ trimmed p.query ++ ")" else trimmed p.query] := by
  have hne : (trimmed p.query).isEmpty = false := by
    obtain ⟨c, hc, -⟩ := (tight_trim h).starts
    rw [Bool.eq_false_iff]
    intro he
    have hnil := congrArg String.toList (String.isEmpty_iff.1 he)
    rw [trimmed, String.toList_ofList] at hnil
    rw [hnil] at hc
    cases hc
  simp only [queryPart, hne, Bool.false_eq_true, if_false]
  cases p.criteria <;> rfl

variable {cells : List (String × Option String)}

theorem toList_parts (mode : Mode) (first : String) (cells : List (String × Option String)) :
    (mode.operators.joiner.intercalate
        (first :: cells.map fun cell => formatCriterion cell.1 cell.2 mode)).toList
      = first.toList ++ moreCells mode cells := by
  rw [toList_intercalate_cons, List.flatMap_map]
  rfl

theorem toList_query (mode : Mode) (query : String) (cells : List (String × Option String)) :
    (mode.operators.joiner.intercalate
        (trimmed query :: cells.map fun cell => formatCriterion cell.1 cell.2 mode)).toList
      = trim query.toList ++ moreCells mode cells := by
  rw [toList_parts, trimmed, String.toList_ofList]

theorem toList_group (mode : Mode) (query : String) (cells : List (String × Option String)) :
    (mode.operators.joiner.intercalate
        (("(" ++ trimmed query ++ ")") ::
          cells.map fun cell => formatCriterion cell.1 cell.2 mode)).toList
      = '(' :: (trim query.toList ++ ')' :: moreCells mode cells) := by
  rw [toList_parts, trimmed]
  simp

theorem tight_parts {mode : Mode} (h : ∀ cell ∈ cells, Tight (cellText mode cell)) {lead : List Char}
    (hl : Tight lead) : Tight (lead ++ moreCells mode cells) :=
  ⟨hl.starts.append _, ends_moreCells h hl.ends⟩

/-- A `lucene` text without blanks around it compiles when its criteria are read to the end. -/
theorem compile_of_takeCriteria {datatype : String} {table : TranslationTable} {text : String}
    {cs : List Char} {c : Criteria} (hcs : text.toList = cs) (ht : Tight cs)
    (h : ∃ t : LuceneTree, t.compile datatype = c ∧
      LuceneTree.takeCriteria (LuceneTree.fuelFor cs) cs = .ok (t, [])) :
    compile datatype table .lucene text = .ok c := by
  subst hcs
  obtain ⟨t, htc, htr⟩ := h
  exact (compile_lucene_eq_ok ht).2 ⟨t, (LuceneTree.read_eq_ok ht).2 ⟨[], htr, rfl⟩, htc⟩

theorem compile_of_takeOr? {datatype : String} {table : TranslationTable} {text : String}
    {cs : List Char} {t : CriterionTree} (hcs : text.toList = cs) (ht : Tight cs)
    (h : CriterionTree.takeOr? (CriterionTree.fuelFor cs) cs = some (t, [])) :
    compile datatype table .criterion text = .ok (t.compile datatype table) := by
  subst hcs
  simp only [compile, ht.starts.allBlank, CriterionTree.read_of_takeOr? ht h]
  rfl

/-- A query that is not blank is the text of a tree. -/
theorem Compiled.tree_lucene (hc : p.Compiled) (hm : p.mode = .lucene)
    (hb : allBlank p.query.toList = false) : ∃ tree : LuceneTree,
      LuceneTree.read p.query = .ok tree ∧ tree.compile p.surface.datatype = p.criteria := by
  simp only [Compiled, hm, compile, hb, Bool.false_eq_true, if_false] at hc
  cases hr : LuceneTree.read p.query with
  | error place =>
    rw [hr] at hc
    cases hc
  | ok tree =>
    rw [hr] at hc
    exact ⟨tree, rfl, Except.ok.inj hc⟩

theorem Compiled.tree_criterion (hc : p.Compiled) (hm : p.mode = .criterion)
    (hb : allBlank p.query.toList = false) : ∃ tree : CriterionTree,
      CriterionTree.read p.query = .ok tree ∧
        tree.compile p.surface.datatype p.surface.translations = p.criteria := by
  simp only [Compiled, hm, compile, hb, Bool.false_eq_true, if_false] at hc
  cases hr : CriterionTree.read p.query with
  | error place =>
    rw [hr] at hc
    cases hc
  | ok tree =>
    rw [hr] at hc
    exact ⟨tree, rfl, Except.ok.inj hc⟩

theorem Compiled.empty (hc : p.Compiled) (hb : allBlank p.query.toList = true) :
    p.criteria = .empty := by
  simp only [Compiled, compile, hb, if_true] at hc
  exact (Except.ok.inj hc).symm

theorem compile_linkText_lucene (hm : p.mode = .lucene) (hc : p.Compiled) (he : p.Extendable cells)
    (hne : cells ≠ []) (h : ∀ cell ∈ cells, Readable .lucene cell) :
    compile p.surface.datatype p.surface.translations .lucene
        (Mode.lucene.operators.joiner.intercalate
          (p.queryPart ++ cells.map fun cell => formatCriterion cell.1 cell.2 .lucene))
      = .ok (narrowed .lucene p.surface.datatype p.criteria cells) := by
  cases hb : allBlank p.query.toList with
  | true =>
    obtain ⟨cell, cells, rfl⟩ := List.exists_cons_of_ne_nil hne
    have hcell := h cell List.mem_cons_self
    have hcells : ∀ d ∈ cells, Readable .lucene d := fun d hd => h d (List.mem_cons_of_mem cell hd)
    rw [queryPart_blank hb, hc.empty hb, List.nil_append, List.map_cons]
    exact compile_of_takeCriteria (toList_parts .lucene _ cells)
      (tight_parts (fun d hd => tight_cell (hcells d hd)) (tight_cell hcell)) (takeCriteria_cells hcells _ hcell)
  | false =>
    obtain ⟨tree, hr, htree⟩ := hc.tree_lucene hm hb
    simp only [Extendable, behind, hm] at he
    -- a disjunction is put in parentheses first, so that the cells narrow all of it
    obtain ⟨hf, hends⟩ := he tree hr
    have htight := tight_trim hb
    have hcells : ∀ cell ∈ cells, Tight (cellText .lucene cell) := fun cell hm => tight_cell (h cell hm)
    have hread := LuceneTree.takeCriteria_of_read hr
    rw [queryPart_of_not_blank hb, List.singleton_append]
    cases hd : p.criteria.isDisj with
    | true =>
      rw [hd, if_pos rfl] at hf hends
      have hgroup := takeCriteria_group h p.surface.datatype hread htight.starts hf hends
      rw [htree] at hgroup
      rw [if_pos rfl]
      refine compile_of_takeCriteria (toList_group .lucene p.query cells) ?_ hgroup
      simpa using tight_parts hcells (tight_between (c := '(') (d := ')') (by decide) (by decide)
        (trim p.query.toList))
    | false =>
      rw [hd, if_neg (by decide), List.nil_append] at hf hends
      rw [if_neg (by decide)]
      have hquery := takeCriteria_query h p.surface.datatype hread hf hends hne
      rw [htree] at hquery
      exact compile_of_takeCriteria (toList_query .lucene p.query cells) (tight_parts hcells htight)
        hquery

/-- In `criterion` the query of a link means the query of its plan and the tests of its cells. -/
theorem compile_linkText_criterion (hm : p.mode = .criterion) (hc : p.Compiled)
    (ht : TablePaths p.surface.translations)
    (h : ∀ cell ∈ cells, CriterionTree.IsPath cell.1.toList) :
    compile p.surface.datatype p.surface.translations .criterion
        (Mode.criterion.operators.joiner.intercalate
          (p.queryPart ++ cells.map fun cell => formatCriterion cell.1 cell.2 .criterion))
      = .ok (cells.foldl
          (fun c cell => c.and (cellTest p.surface.datatype p.surface.translations cell))
          p.criteria) := by
  have htight : ∀ cell ∈ cells, Tight (cellText .criterion cell) :=
    fun cell hm => tight_cell_criterion (h cell hm)
  cases hb : allBlank p.query.toList with
  | true =>
    rw [queryPart_blank hb, hc.empty hb, List.nil_append]
    cases cells with
    | nil => rfl
    | cons cell cells =>
      have hcell := h cell List.mem_cons_self
      rw [List.map_cons, compile_of_takeOr? (toList_parts .criterion _ cells)
        (tight_parts (fun d hd => htight d (List.mem_cons_of_mem cell hd))
          (tight_cell_criterion hcell))
        (takeOr?_cells (fun d hd => h d (List.mem_cons_of_mem cell hd)) hcell)]
      rw [compile_foldl_and, compile_cellTree, List.foldl_cons, Criteria.empty_and]
  | false =>
    obtain ⟨tree, hr, htree⟩ := hc.tree_criterion hm hb
    have htrim := tight_trim hb
    have hread := CriterionTree.takeOr?_of_read hr
    have hresult := compile_foldl_and p.surface.datatype p.surface.translations cells tree
    rw [htree] at hresult
    rw [queryPart_of_not_blank hb, List.singleton_append, ← hresult]
    cases hd : p.criteria.isDisj with
    | true =>
      rw [if_pos rfl]
      refine compile_of_takeOr? (toList_group .criterion p.query cells) ?_
        (takeOr?_group h htrim.starts hread)
      simpa using tight_parts htight (tight_between (c := '(') (d := ')') (by decide) (by decide)
        (trim p.query.toList))
    | false =>
      rw [← htree] at hd
      rw [if_neg (by decide)]
      exact compile_of_takeOr? (toList_query .criterion p.query cells) (tight_parts htight htrim)
        (takeOr?_query h hread (takeAnd?_of_not_disj ht p.surface.datatype hread hd))

/-- The query of a link compiles to the criteria of its plan and of its cells. -/
theorem compile_linkText (hc : p.Compiled) (he : p.Extendable cells) (hne : cells ≠ [])
    (h : ∀ cell ∈ cells, Readable p.mode cell)
    (ht : ∀ cell ∈ cells, p.surface.translations.get? cell.1 = none) :
    compile p.surface.datatype p.surface.translations p.mode
        (p.mode.operators.joiner.intercalate
          (p.queryPart ++ cells.map fun cell => formatCriterion cell.1 cell.2 p.mode))
      = .ok (narrowed p.mode p.surface.datatype p.criteria cells) := by
  cases hm : p.mode with
  | lucene =>
    rw [hm] at h
    exact compile_linkText_lucene hm hc he hne h
  | criterion =>
    rw [hm] at h
    simp only [Extendable, hm] at he
    rw [compile_linkText_criterion hm hc he fun cell hcell => isPath_of_nameReads (h cell hcell).name]
    rw [foldl_cellTest_plain ht]

end Plan

end EventSearch.Search
