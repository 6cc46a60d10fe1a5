/-
# `EventSearch.Proofs.WrittenTests` — a written test of a field is read as that test

`formatCriterion` writes a path and a value, or a path alone, as query text.  Whether the value is
quoted, how it is escaped, and what the reader takes for a bare word, a wildcard, a pattern, a
keyword or an escape is decided in four places; together they give back the test that was written
(`compile_formatCriterion`).

There is one exception.  `lucene` quotes write a backslash once, so that a last one protects the
closing quote.  Such a value stays open to the end of the text and is no value at all
(`takeOperand_unquotable`); the query is refused there.
-/
import EventSearch.Proofs.LinkReading

namespace EventSearch.Query.LuceneTree

open EventSearch.Text

/-! ## Values that cannot be quoted -/

/-- The closing mark of a value that ends in a backslash closes nothing. -/
theorem takeQuoted?_unquotable {mark : Char} (hm : mark ≠ '\\') {s : List Char}
    (h : EndsInBackslash s) : takeQuoted? mark (escapeChar mark s ++ [mark]) = none := by
  obtain ⟨body, rfl⟩ := List.getLast?_eq_some_iff.1 h
  have hsplit : escapeChar mark (body ++ ['\\']) ++ [mark]
      = escapeChar mark body ++ ['\\', mark] := by
    simp [escapeChar, Ne.symm hm]
  rw [hsplit, takeQuoted?_escapeChar hm body _ (by simp [Ne.symm hm]), takeQuoted?_escaped]
  rfl

/-- At the end of a query such a value is not read, neither in quotes nor bare. -/
theorem takeOperand_unquotable {v : String} (h : EndsInBackslash v.toList) :
    takeOperand (luceneValue v).toList = .error (luceneValue v).toList := by
  have htext : (luceneValue v).toList = '"' :: (escapeChar '"' v.toList ++ ['"']) := by
    simp [luceneValue_backslash h, doubleQuoted]
  rw [htext]
  simp only [takeOperand, takeEnclosed?_mark, takeQuoted?_unquotable (by decide : '"' ≠ '\\') h,
    Option.map_none, takeEnclosed?_ne (by decide : '"' ≠ '\''),
    takeEnclosed?_ne (by decide : '"' ≠ '/'),
    takeBare_reserved (by decide : '"' ∈ BareText.reserved)]

/-- The reader stops in front of the value, wherever the value stands behind a field. -/
theorem takeCriteria_unquotable {p : FieldPath} (hp : p.Readable) {v : String}
    (h : EndsInBackslash v.toList) (fuel : Nat) :
    takeCriteria (fuel + 1) (leafText false (some p) (luceneValue v).toList)
      = .error (luceneValue v).toList := by
  have hf : FieldReadable (some p) := fun q hq => Option.some.inj hq ▸ hp
  have hu : Unmarked (luceneValue v).toList := by
    simpa using unmarked_luceneValue v follows_nil
  have hfield := takeField_fieldText hf hu
  have hsign := takeSign_signText false hf hu
  have hopens := opensValue_luceneValue v
  obtain ⟨c, text, hc, hl⟩ := head_path hp
  have hhead : leafText false (some p) (luceneValue v).toList
      = c :: (text ++ ':' :: (luceneValue v).toList) := by
    simp [leafText, signText, fieldText, hc]
  have hopen : c ≠ '(' := by
    rintro rfl
    exact absurd hl (by decide)
  have hsigned : takeSigned (leafText false (some p) (luceneValue v).toList)
      = .error (luceneValue v).toList := by
    rw [leafText, takeSigned, hsign]
    simp only [takeTerm, takeRange?_none hfield hopens, takeValue, hfield,
      takeOperand_unquotable h]
  rw [takeCriteria, hhead, takeCriterion_of_ne hopen, ← hhead, hsigned]

end EventSearch.Query.LuceneTree

namespace EventSearch.Search

open EventSearch.Text EventSearch.Query

/-! ## Paths -/

/-- A text that a language reads as one field path, to its end. -/
def ReadsWhole (mode : Mode) (path : String) : Prop :=
  match mode with
  | .lucene => ∃ p, LuceneTree.takePath? path.toList = some (p, [])
  | .criterion => ∃ p, CriterionTree.takePath? path.toList = some (p, [])

theorem isPath_of_readsWhole {path : String} (h : ReadsWhole .criterion path) :
    CriterionTree.IsPath path.toList := by
  obtain ⟨p, hp⟩ := h
  obtain ⟨hpath, hjoin⟩ := CriterionTree.takePath?_join hp
  rwa [List.append_nil, ← hjoin] at *

theorem readable_of_readsWhole {path : String} (h : ReadsWhole .lucene path)
    {text : Option String} (ht : Quotable .lucene text) : Readable .lucene (path, text) := by
  obtain ⟨p, hp⟩ := h
  -- the name of free text starts with an underscore and is no path of this language
  have hname : path ≠ anyField := by
    rintro rfl
    have hnone : LuceneTree.takePath? anyField.toList = none := by decide
    rw [hnone] at hp
    cases hp
  refine ⟨?_, ht⟩
  simp [nameReads, hname, hp]

/-! ## Tests -/

theorem compile_written_lucene (datatype : String) {path : String} (h : ReadsWhole .lucene path)
    {text : Option String} (ht : Quotable .lucene text) :
    compile datatype .empty .lucene (formatCriterion path text .lucene)
      = .ok (cellCriteria .lucene datatype path text) := by
  have hcell := readable_of_readsWhole h ht
  have hnone : ∀ cell ∈ ([] : List (String × Option String)), Readable .lucene cell := by simp
  obtain ⟨t, htc, htr⟩ := takeCriteria_cells hnone datatype hcell
  have hnil : moreCells .lucene [] = [] := rfl
  rw [hnil, List.append_nil] at htr
  refine Plan.compile_of_takeCriteria rfl (tight_cell_lucene hcell) ⟨t, ?_, htr⟩
  rw [htc, narrowed, List.foldl_cons, Criteria.empty_and, List.foldl_nil]

theorem compile_written_criterion (datatype : String) {path : String}
    (h : ReadsWhole .criterion path) (text : Option String) :
    compile datatype .empty .criterion (formatCriterion path text .criterion)
      = .ok (cellCriteria .criterion datatype path text) := by
  let cell := (path, text)
  have hpath : CriterionTree.IsPath cell.1.toList := isPath_of_readsWhole h
  have hnone : ∀ cell ∈ ([] : List (String × Option String)),
      CriterionTree.IsPath cell.1.toList := by simp
  have hplain : TranslationTable.empty.get? cell.1 = none := rfl
  have hread := takeOr?_cells hnone hpath
  have hnil : moreCells .criterion [] = [] := rfl
  rw [hnil, List.append_nil, List.foldl_nil] at hread
  rw [Plan.compile_of_takeOr? rfl (tight_cell_criterion hpath) hread, compile_cellTree,
    cellTest_plain hplain]

/-- A value that cannot be quoted is left over as the part of the query that was not read. -/
theorem compile_unquotable (datatype : String) {path : String} (h : ReadsWhole .lucene path)
    {v : String} (hv : EndsInBackslash v.toList) :
    compile datatype .empty .lucene (formatCriterion path (some v) .lucene)
      = .error (luceneValue v) := by
  obtain ⟨p, hp⟩ := h
  have hreadable := LuceneTree.readable_of_takePath? hp
  obtain rfl : p.toText = path := by
    have hjoin := LuceneTree.takePath?_join hp
    rw [List.append_nil] at hjoin
    exact String.toList_inj.1 hjoin
  have hf : LuceneTree.FieldReadable (some p) := fun q hq => Option.some.inj hq ▸ hreadable
  have htext : (formatCriterion p.toText (some v) .lucene).toList
      = leafText false (some p) (luceneValue v).toList := cellText_lucene p (some v)
  have hvalue : Tight (luceneValue v).toList :=
    ⟨(LuceneTree.opensValue_luceneValue v).starts, ends_luceneValue v⟩
  have htight : Tight (formatCriterion p.toText (some v) .lucene).toList := by
    rw [htext]
    exact tight_leafText false hf hvalue
  have hstop := LuceneTree.takeCriteria_unquotable hreadable hv
    (3 * (formatCriterion p.toText (some v) .lucene).toList.length + 2)
  rw [← htext] at hstop
  simp only [compile, htight.starts.allBlank, Bool.false_eq_true, if_false, LuceneTree.read,
    htight.trim, LuceneTree.fuelFor, hstop, LuceneTree.faultAt, hvalue.starts.allBlank,
    hvalue.trim, String.ofList_toList]
  rfl

/-- A test of a field that can be read is read as written: for its value, unless `lucene` quotes
end in a backslash, and for absence.  With such a backslash the query is refused at the value. -/
theorem compile_formatCriterion (datatype : String) {mode : Mode} {path : String}
    (h : ReadsWhole mode path) :
    (∀ v, compile datatype .empty mode (formatCriterion path (some v) mode)
        = .ok (.test (datatype ++ "." ++ path) (equalOperator mode) v) ↔
      (mode = .lucene → ¬ EndsInBackslash v.toList)) ∧
    (∀ v, mode = .lucene → EndsInBackslash v.toList →
      compile datatype .empty mode (formatCriterion path (some v) mode)
        = .error (luceneValue v)) ∧
    compile datatype .empty mode (formatCriterion path none mode)
      = .ok (.absent (datatype ++ "." ++ path)) := by
  cases mode with
  | lucene =>
    refine ⟨fun v => ⟨fun hc _ hv => ?_, fun hv => ?_⟩,
      fun v _ hv => compile_unquotable datatype h hv,
      compile_written_lucene datatype h fun _ v hv => by cases hv⟩
    · rw [compile_unquotable datatype h hv] at hc
      cases hc
    · exact compile_written_lucene datatype h fun _ w hw => by
        obtain rfl := Option.some.inj hw
        exact hv rfl
  | criterion =>
    have hne : ¬ Mode.criterion = .lucene := by decide
    exact ⟨fun v => iff_of_true (compile_written_criterion datatype h (some v))
        fun hm => absurd hm hne,
      fun v hm => absurd hm hne, compile_written_criterion datatype h none⟩

/-- A path with an index and a value with quotes, blanks and a backslash inside. -/
theorem compile_formatCriterion_header :
    ReadsWhole .lucene "http.headers(0)" ∧
    compile "e" .empty .lucene (formatCriterion "http.headers(0)" (some "a\\ \"b\" AND *") .lucene)
      = .ok (.test "e.http.headers(0)" "==" "a\\ \"b\" AND *") := by
  have hpath : ReadsWhole .lucene "http.headers(0)" :=
    ⟨⟨[⟨"http", none⟩, ⟨"headers", some "0"⟩]⟩, by decide +kernel⟩
  exact ⟨hpath, ((compile_formatCriterion "e" hpath).1 _).2 fun _ => by decide⟩

/-- A value that ends in a backslash is not read back in `lucene`. -/
theorem formatCriterion_misses : ReadsWhole .lucene "name" ∧
    formatCriterion "name" (some "C:\\") .lucene = "name:\"C:\\\"" ∧
    ∀ c, compile "events" .empty .lucene (formatCriterion "name" (some "C:\\") .lucene) ≠ .ok c := by
  have hpath : ReadsWhole .lucene "name" := ⟨⟨[⟨"name", none⟩]⟩, by decide +kernel⟩
  refine ⟨hpath, by decide +kernel, fun c hc => ?_⟩
  rw [compile_unquotable "events" hpath (by decide)] at hc
  cases hc

end EventSearch.Search
