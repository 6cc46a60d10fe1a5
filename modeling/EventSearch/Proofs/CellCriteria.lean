/-
# `EventSearch.Proofs.CellCriteria` — the criteria of the cells of a row are read back

A link tests each group for the text of its cell, or for absence (`formatCriterion`).  Where the
name of the group is a path of the language (`nameReads`), the text is read as that test
(`cellCriteria`; in `criterion` the table is asked too, `cellTest`), and several of them behind a
query are read into the conjunction of all (`takeChain_cells`, `takeAndChain_cells`).  In `lucene`
the text of a cell must not end in a backslash (`Quotable`).
-/
import EventSearch.Proofs.CriterionContinued
import EventSearch.Proofs.CriterionRoundTrip
import EventSearch.Proofs.LuceneRoundTrip
import EventSearch.Search.Link

namespace EventSearch.Search

open EventSearch.Text EventSearch.Query

/-! ## Criteria -/

/-- The operator by which a language tests for a value. -/
def equalOperator : Mode → String
  | .lucene => "=="
  | .criterion => "="

/-- What the criterion of a cell asks for: its text, or absence. -/
def cellCriteria (mode : Mode) (datatype name : String) (text : Option String) : Criteria :=
  match text with
  | some v => .test (datatype ++ "." ++ name) (equalOperator mode) v
  | none => .absent (datatype ++ "." ++ name)

/-- The criteria of several cells, added to those of a query. -/
def narrowed (mode : Mode) (datatype : String) (c : Criteria)
    (cells : List (String × Option String)) : Criteria :=
  cells.foldl (fun c cell => c.and (cellCriteria mode datatype cell.1 cell.2)) c

/-- A name that a language reads as one path, other than the name of free text. -/
def nameReads (mode : Mode) (name : String) : Bool :=
  name ≠ anyField && match mode with
    | .lucene => (LuceneTree.takePath? name.toList).any fun p => p.2.isEmpty
    | .criterion => (CriterionTree.takePath? name.toList).any fun p => p.2.isEmpty

/-- A text that can be written in a language: in `lucene` a last backslash would protect the
closing quote. -/
def Quotable (mode : Mode) (text : Option String) : Prop :=
  mode = .lucene → ∀ v, text = some v → ¬ EndsInBackslash v.toList

/-- A cell whose criterion is read back. -/
structure Readable (mode : Mode) (cell : String × Option String) : Prop where
  name : nameReads mode cell.1 = true
  text : Quotable mode cell.2

/-- The characters of the criterion of a cell. -/
def cellText (mode : Mode) (cell : String × Option String) : List Char :=
  (formatCriterion cell.1 cell.2 mode).toList

/-- The criteria of several cells behind a query. -/
def moreCells (mode : Mode) (cells : List (String × Option String)) : List Char :=
  cells.flatMap fun cell => mode.operators.joiner.toList ++ cellText mode cell

theorem moreCells_cons (mode : Mode) (cell : String × Option String)
    (cells : List (String × Option String)) : moreCells mode (cell :: cells) =
      mode.operators.joiner.toList ++ (cellText mode cell ++ moreCells mode cells) := by
  simp [moreCells]

theorem joiner_lucene : Mode.lucene.operators.joiner.toList = [' '] := rfl

theorem joiner_criterion :
    Mode.criterion.operators.joiner.toList = (Connective.and.between .criterion).toList := rfl

/-! ## `lucene` -/

section Lucene

theorem path_of_nameReads {name : String} (h : nameReads .lucene name = true) :
    ∃ p : FieldPath, p.Readable ∧ p.toText = name := by
  simp only [nameReads, Bool.and_eq_true] at h
  obtain ⟨⟨p, rest⟩, hp, he⟩ := (Option.any_eq_true _ _).1 h.2
  obtain rfl := List.isEmpty_iff.1 he
  refine ⟨p, LuceneTree.readable_of_takePath? hp, ?_⟩
  have hj := LuceneTree.takePath?_join hp
  rw [List.append_nil] at hj
  exact String.toList_inj.1 hj

/-- The criterion of a cell is the text of a leaf. -/
theorem cellText_lucene (p : FieldPath) (text : Option String) :
    cellText .lucene (p.toText, text) = match text with
      | some v => leafText false (some p) (luceneValue v).toList
      | none => leafText true (some p) "[* TO *]".toList := by
  cases text with
  | some v => simp [cellText, formatCriterion, leafText, LuceneTree.signText, fieldText]
  | none => simp [cellText, formatCriterion, leafText, LuceneTree.signText, fieldText]

theorem reads_cell {cell : String × Option String} (h : Readable .lucene cell)
    (datatype : String) : Reads datatype (cellText .lucene cell)
      (cellCriteria .lucene datatype cell.1 cell.2) := by
  obtain ⟨name, text⟩ := cell
  obtain ⟨p, hp, rfl⟩ := path_of_nameReads h.name
  have hf : LuceneTree.FieldReadable (some p) := fun q hq => Option.some.inj hq ▸ hp
  rw [cellText_lucene]
  cases text with
  | some v => exact LuceneTree.reads_value hf false datatype (h.text rfl v rfl) (by simp)
  | none => exact LuceneTree.reads_presence hf true datatype

theorem tight_cell_lucene {cell : String × Option String} (h : Readable .lucene cell) :
    Tight (cellText .lucene cell) := by
  obtain ⟨name, text⟩ := cell
  obtain ⟨p, hp, rfl⟩ := path_of_nameReads h.name
  have hf : LuceneTree.FieldReadable (some p) := fun q hq => Option.some.inj hq ▸ hp
  rw [cellText_lucene]
  cases text with
  | some v =>
    exact tight_leafText false hf ⟨(LuceneTree.opensValue_luceneValue v).starts,
      ends_luceneValue v⟩
  | none =>
    exact tight_leafText true hf (tight_between (c := '[') (d := ']') (by decide) (by decide)
      "* TO *".toList)

/-- The criterion of a cell starts with a sign or a letter. -/
theorem head_cell {cell : String × Option String} (h : Readable .lucene cell) :
    ∃ c cs, cellText .lucene cell = c :: cs ∧ (c = '-' ∨ isAsciiLower c = true) := by
  obtain ⟨name, text⟩ := cell
  obtain ⟨p, hp, rfl⟩ := path_of_nameReads h.name
  rw [cellText_lucene]
  cases text with
  | none => exact ⟨'-', _, rfl, .inl rfl⟩
  | some v =>
    obtain ⟨c, cs, hcs, hl⟩ := LuceneTree.head_path hp
    refine ⟨c, cs ++ ':' :: (luceneValue v).toList, ?_, .inr hl⟩
    simp [leafText, LuceneTree.signText, fieldText, hcs]

/-- In front of the criterion of a cell a space means conjunction. -/
theorem takeConnective?_cell {cell : String × Option String} (h : Readable .lucene cell)
    (tail : List Char) : LuceneTree.takeConnective? (' ' :: (cellText .lucene cell ++ tail))
      = some (.and, cellText .lucene cell ++ tail) := by
  have hs : skipLayout (' ' :: (cellText .lucene cell ++ tail)) = cellText .lucene cell ++ tail := by
    rw [skipLayout_space, ((tight_cell_lucene h).starts.append tail).skipLayout]
  obtain ⟨c, cs, hc, hhead⟩ := head_cell h
  have hne {d : Char} (hd : d ≠ '-' ∧ isAsciiLower d = false) : d ≠ c := by
    rintro rfl
    rcases hhead with rfl | hl
    · exact hd.1 rfl
    · rw [hd.2] at hl
      cases hl
  have hamp : '&' ≠ c := hne (by decide)
  have hbar : '|' ≠ c := hne (by decide)
  have hA : 'A' ≠ c := hne (by decide)
  have hO : 'O' ≠ c := hne (by decide)
  rw [hc, List.cons_append] at hs ⊢
  simp [LuceneTree.takeConnective?, LuceneTree.takeSymbol?, LuceneTree.takeKeyword?,
    LuceneTree.takeLayout?, hs, after?, hamp, hbar, hA, hO]

theorem follows_moreCells (cells : List (String × Option String)) :
    Follows (moreCells .lucene cells) := by
  cases cells with
  | nil => exact follows_nil
  | cons cell cells =>
    rw [moreCells_cons, joiner_lucene]
    exact follows_cons (by decide) _

/-- The criteria of cells are added to the tree in front of them. -/
theorem takeChain_cells {cells : List (String × Option String)}
    (h : ∀ cell ∈ cells, Readable .lucene cell) (datatype : String) (tree : LuceneTree) :
    ∃ t : LuceneTree, t.compile datatype = narrowed .lucene datatype (tree.compile datatype) cells ∧
      ∀ fuel, (moreCells .lucene cells).length ≤ fuel →
        LuceneTree.takeChain fuel tree (moreCells .lucene cells) = (t, []) := by
  induction cells generalizing tree with
  | nil => exact ⟨tree, rfl, fun fuel _ => LuceneTree.takeChain_nil fuel tree⟩
  | cons cell cells ih =>
    have hcell := h cell List.mem_cons_self
    obtain ⟨t, htc, htr⟩ := reads_cell hcell datatype
    obtain ⟨u, huc, hur⟩ := ih (fun d hd => h d (List.mem_cons_of_mem cell hd)) (.combine tree .and t)
    refine ⟨u, ?_, fun fuel hf => ?_⟩
    · rw [huc, LuceneTree.compile, htc]
      rfl
    · rw [moreCells_cons, joiner_lucene, List.cons_append, List.nil_append] at hf ⊢
      simp only [List.length_cons, List.length_append] at hf
      obtain ⟨fuel, rfl⟩ : ∃ n, fuel = n + 1 := ⟨fuel - 1, by omega⟩
      simp only [LuceneTree.takeChain, takeConnective?_cell hcell,
        htr fuel (moreCells .lucene cells) (by omega) (follows_moreCells cells)]
      exact hur fuel (by omega)

end Lucene

/-! ## `criterion` -/

section Criterion

/-- The tree of the criterion of a cell. -/
def cellTree (cell : String × Option String) : CriterionTree :=
  match cell.2 with
  | some v => .compare cell.1 "=" (some v)
  | none => .compare cell.1 "!=" none

theorem isPath_of_nameReads {name : String} (h : nameReads .criterion name = true) :
    CriterionTree.IsPath name.toList := by
  simp only [nameReads, Bool.and_eq_true] at h
  obtain ⟨⟨p, rest⟩, hp, he⟩ := (Option.any_eq_true _ _).1 h.2
  obtain rfl := List.isEmpty_iff.1 he
  obtain ⟨hpath, hj⟩ := CriterionTree.takePath?_join hp
  rwa [List.append_nil, ← hj] at *

/-- The criteria of a cell as a query asks for them: its text, or absence, of the field or of what
the field is translated to. -/
def cellTest (datatype : String) (table : TranslationTable) (cell : String × Option String) :
    Criteria :=
  match cell.2 with
  | some v => compileTest datatype table cell.1 "=" (some v)
  | none => compileTest datatype table cell.1 "!=" none

theorem compile_cellTree (datatype : String) (table : TranslationTable)
    (cell : String × Option String) :
    (cellTree cell).compile datatype table = cellTest datatype table cell := by
  obtain ⟨name, text⟩ := cell
  cases text with
  | some v => rfl
  | none => rfl

/-- The test of a field that is not translated is one of the field itself. -/
theorem cellTest_plain {table : TranslationTable} {cell : String × Option String}
    (h : table.get? cell.1 = none) (datatype : String) :
    cellTest datatype table cell = cellCriteria .criterion datatype cell.1 cell.2 := by
  obtain ⟨name, text⟩ := cell
  cases text <;> simp [cellTest, compileTest, h, cellCriteria, Criteria.test, Criteria.absent,
    equalOperator]

theorem takePrimary?_cell {cell : String × Option String}
    (hp : CriterionTree.IsPath cell.1.toList) {tail : List Char}
    (ht : CriterionTree.FollowsTest tail) (fuel : Nat) :
    CriterionTree.takePrimary? fuel (cellText .criterion cell ++ tail)
      = some (cellTree cell, tail) := by
  obtain ⟨name, text⟩ := cell
  refine CriterionTree.takePrimary?_of_takeTest? ?_ fuel
  cases text with
  | some v =>
    have hop : "=" ∈ CriterionTree.operators := by decide
    have hr := CriterionTree.takeTest?_comparison hp hop v tail
    simpa [cellText, formatCriterion, cellTree] using hr
  | none =>
    have hr := CriterionTree.takeTest?_absent hp ht
    simpa [cellText, formatCriterion, cellTree] using hr

theorem tight_cell_criterion {cell : String × Option String}
    (hp : CriterionTree.IsPath cell.1.toList) : Tight (cellText .criterion cell) := by
  obtain ⟨name, text⟩ := cell
  cases text with
  | some v =>
    have hends : Ends (criterionValue v).toList := by
      simpa [criterionValue, doubleQuoted] using ends_concat (c := '"') (by decide)
        ('"' :: escapeChar '"' (escapeChar '\\' v.toList))
    have hcs : cellText .criterion (name, some v)
        = name.toList ++ (" = ".toList ++ (criterionValue v).toList) := by
      simp [cellText, formatCriterion]
    rw [hcs]
    exact ⟨hp.starts.append _, (hends.append _).append _⟩
  | none =>
    have hcs : cellText .criterion (name, none) = '!' :: name.toList := by
      simp [cellText, formatCriterion]
    rw [hcs]
    exact ⟨starts_cons (by decide) _, hp.ends.append ['!']⟩

theorem followsTest_moreCells (cells : List (String × Option String)) :
    CriterionTree.FollowsTest (moreCells .criterion cells) := by
  cases cells with
  | nil => exact CriterionTree.followsTest_ends endsParts_nil
  | cons cell cells =>
    rw [moreCells_cons, joiner_criterion]
    exact CriterionTree.followsTest_between .and _

/-- The criteria of cells are added to the conjunction in front of them. -/
theorem takeAndChain_cells {cells : List (String × Option String)}
    (h : ∀ cell ∈ cells, CriterionTree.IsPath cell.1.toList) (tree : CriterionTree) {fuel : Nat}
    (hf : cells.length ≤ fuel) :
    CriterionTree.takeAndChain fuel tree (moreCells .criterion cells)
      = (cells.foldl (fun t cell => .and t (cellTree cell)) tree, []) := by
  induction cells generalizing tree fuel with
  | nil => cases fuel <;> rfl
  | cons cell cells ih =>
    obtain ⟨fuel, rfl⟩ : ∃ n, fuel = n + 1 := ⟨fuel - 1, by simp at hf; omega⟩
    have hcell := h cell List.mem_cons_self
    have hsym := CriterionTree.takeSymbol?_between .and
      ((tight_cell_criterion hcell).starts.append (moreCells .criterion cells))
    rw [CriterionTree.symbol] at hsym
    rw [moreCells_cons, joiner_criterion]
    simp only [CriterionTree.takeAndChain, hsym, Option.bind_some,
      takePrimary?_cell hcell (followsTest_moreCells cells) fuel]
    exact ih (fun d hd => h d (List.mem_cons_of_mem cell hd)) _ (Nat.le_of_succ_le_succ hf)

theorem compile_foldl_and (datatype : String) (table : TranslationTable)
    (cells : List (String × Option String)) (tree : CriterionTree) :
    (cells.foldl (fun t cell => .and t (cellTree cell)) tree).compile datatype table
      = cells.foldl (fun c cell => c.and (cellTest datatype table cell))
          (tree.compile datatype table) := by
  induction cells generalizing tree with
  | nil => rfl
  | cons cell cells ih =>
    rw [List.foldl_cons, ih, CriterionTree.compile, compile_cellTree]
    rfl

/-- The tests of fields that are not translated narrow criteria as their cells do. -/
theorem foldl_cellTest_plain {table : TranslationTable} {cells : List (String × Option String)}
    (h : ∀ cell ∈ cells, table.get? cell.1 = none) (datatype : String) (c : Criteria) :
    cells.foldl (fun c cell => c.and (cellTest datatype table cell)) c
      = narrowed .criterion datatype c cells := by
  induction cells generalizing c with
  | nil => rfl
  | cons cell cells ih =>
    rw [List.foldl_cons, ih fun d hd => h d (List.mem_cons_of_mem cell hd),
      cellTest_plain (h cell List.mem_cons_self)]
    rfl

end Criterion

/-! ## Both languages -/

theorem tight_cell {mode : Mode} {cell : String × Option String} (h : Readable mode cell) :
    Tight (cellText mode cell) := by
  cases mode with
  | lucene => exact tight_cell_lucene h
  | criterion => exact tight_cell_criterion (isPath_of_nameReads h.name)

theorem ends_moreCells {mode : Mode} {cells : List (String × Option String)}
    (h : ∀ cell ∈ cells, Tight (cellText mode cell)) {lead : List Char} (hl : Ends lead) :
    Ends (lead ++ moreCells mode cells) := by
  induction cells generalizing lead with
  | nil => simpa [moreCells] using hl
  | cons cell cells ih =>
    have hcell := (h cell List.mem_cons_self).ends
    rw [moreCells_cons, ← List.append_assoc, ← List.append_assoc]
    exact ih (fun d hd => h d (List.mem_cons_of_mem cell hd)) (hcell.append _)

end EventSearch.Search
