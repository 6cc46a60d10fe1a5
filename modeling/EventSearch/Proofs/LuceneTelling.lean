/-
# `EventSearch.Proofs.LuceneTelling` — `criterion` tests told in `lucene`

`lucene` has fewer words than `criterion`.  A test that is written in it is read back as another one
(`Leaf.told`): the two equalities are one, every search by pattern is a pattern, a search for a part
is a pattern around the part, and a field that differs from the empty value is a field that is
absent.  The text of criteria compiles to the same nodes over the tests that are told
(`compile_toQuery_told`), where `lucene` has the names of their paths and no value or pattern ends in
a backslash.
-/
import EventSearch.Proofs.CriterionRoundTrip
import EventSearch.Proofs.LuceneRoundTrip
import EventSearch.Proofs.PartPatterns

namespace EventSearch.Query

open EventSearch.Text EventSearch.Pattern Criteria

/-! ## Whole queries -/

section Queries

variable {datatype : String} {f : Leaf → Criteria}

/-- Every part of criteria is read with its tests replaced, when they are read so. -/
theorem readAs_substitute {c : Criteria} (hs : c.Solid)
    (hl : ∀ l ∈ c.leaves, ReadAs datatype (.leaf l) (f l)) :
    ReadAs datatype c (c.substitute f) := by
  revert hl
  refine Solid.node_induction (fun l hl => ?_) (fun op c cs hn hlen hall hl => ?_) hs
  · exact hl l (by simp [leaves])
  · rw [substitute_node]
    refine readAs_node op hlen (fun d hd => (hall d hd).1) fun d hd => (hall d hd).2 ?_
    intro l hm
    refine hl l ?_
    rw [Connective.leaves_node]
    exact List.mem_flatMap.2 ⟨d, hd, hm⟩

theorem compile_toQuery_readAs (table : TranslationTable) {c : Criteria}
    (hc : c = .empty ∨ c.Solid) (hl : ∀ l ∈ c.leaves, ReadAs datatype (.leaf l) (f l)) :
    compile datatype table .lucene (c.toQuery .lucene (some datatype)) = .ok (c.substitute f) := by
  rcases hc with rfl | hs
  · rfl
  obtain ⟨op, d, ds, htext, hall, hfold, hleaves⟩ := toQuery_listText .lucene (some datatype) hs
  have hparts : ∀ e ∈ d :: ds, ReadAs datatype e (e.substitute f) := fun e he =>
    readAs_substitute (hall e he) fun l hm => by
      refine hl l ?_
      rw [hleaves]
      exact List.mem_flatMap.2 ⟨e, he, hm⟩
  have htight : Tight (c.toQuery .lucene (some datatype)).toList := by
    rw [htext]
    exact tight_listText op fun e he => (hparts e he).tight
  obtain ⟨t, htc, htr⟩ := takeCriteria_readAs op hparts
  refine (compile_lucene_eq_ok htight).2 ⟨t, (LuceneTree.read_eq_ok htight).2 ⟨[], ?_, rfl⟩, ?_⟩
  · rw [htext]
    have hr := htr (LuceneTree.fuelFor (listText .lucene (some datatype) op d ds)) []
      (by rw [LuceneTree.fuelFor]; omega) endsParts_nil
    rwa [List.append_nil] at hr
  · rw [htc, ← substitute_foldl, hfold]

end Queries

/-! ## Tests -/

/-- The operators of tests with a value, by the form of their `lucene` text. -/
theorem CriterionTree.operators_cases {op : String} (h : op ∈ operators) :
    op ∈ Leaf.partOperators ∨ op ∉ Leaf.partOperators ∧
      (op ∈ Leaf.patternOperators ∨ op ∈ ["=", "=="] ∨ op = "!=" ∨ op ∈ boundOperators) := by
  revert op
  decide

namespace Leaf

/-- The test that a test is read back as from its `lucene` text. -/
def told (l : Leaf) : Leaf :=
  match l.value with
  | none => l
  | some v =>
    if partOperators.contains l.operator then
      ⟨l.path, Term.signedOperator (isNegated l.operator) "~", some (partPattern v)⟩
    else if patternOperators.contains l.operator then
      ⟨l.path, Term.signedOperator (isNegated l.operator) "~", some v⟩
    else if l.operator = "=" then ⟨l.path, "==", some v⟩
    else if l.operator = "!=" ∧ v = "" then ⟨l.path, "!=", none⟩
    else l

section Told

variable {path op v : String}

theorem told_presence : told ⟨path, op, none⟩ = ⟨path, op, none⟩ := rfl

theorem told_part (h : op ∈ partOperators) : told ⟨path, op, some v⟩
    = ⟨path, Term.signedOperator (isNegated op) "~", some (partPattern v)⟩ :=
  if_pos (List.contains_iff_mem.2 h)

theorem told_pattern (h : op ∈ patternOperators) : told ⟨path, op, some v⟩
    = ⟨path, Term.signedOperator (isNegated op) "~", some v⟩ := by
  simp only [patternOperators, List.mem_cons, List.not_mem_nil, or_false] at h
  rcases h with rfl | rfl | rfl | rfl <;> simp [told, partOperators, patternOperators]

theorem told_equality (h : op ∈ ["=", "=="]) :
    told ⟨path, op, some v⟩ = ⟨path, "==", some v⟩ := by
  simp only [List.mem_cons, List.not_mem_nil, or_false] at h
  rcases h with rfl | rfl <;> simp [told, partOperators, patternOperators]

theorem told_nonempty : told ⟨path, "!=", some ""⟩ = ⟨path, "!=", none⟩ := by
  simp [told, partOperators, patternOperators]

theorem told_difference (h : v ≠ "") :
    told ⟨path, "!=", some v⟩ = ⟨path, "!=", some v⟩ := by
  simp [told, partOperators, patternOperators, h]

theorem told_bound (h : op ∈ boundOperators) :
    told ⟨path, op, some v⟩ = ⟨path, op, some v⟩ := by
  simp only [boundOperators, List.mem_cons, List.not_mem_nil, or_false] at h
  rcases h with rfl | rfl | rfl | rfl <;> simp [told, partOperators, patternOperators]

end Told

/-- A test whose name `lucene` has, and whose value can stand in quotes or between slashes.  A part
stands in a pattern that ends in a star, whatever it ends in itself. -/
structure Tellable (datatype : String) (l : Leaf) : Prop where
  name : l.name datatype = anyField ∨
    ∃ p, LuceneTree.takePath? (l.name datatype).toList = some (p, [])
  value : ∀ v, l.value = some v → l.operator ∉ partOperators → ¬ EndsInBackslash v.toList

end Leaf

section Tests

variable {datatype : String} {field : Option FieldPath} (hf : LuceneTree.FieldReadable field)

/-- A test is read as what the same text is known to be read as. -/
theorem ReadAs.of_toText {l m : Leaf} {c : Criteria} (h : ReadAs datatype (.leaf m) c)
    (htext : l.toText .lucene (some datatype) = m.toText .lucene (some datatype)) :
    ReadAs datatype (.leaf l) c := by
  have hpart : partText .lucene (some datatype) (.leaf l)
      = partText .lucene (some datatype) (.leaf m) := congrArg String.toList htext
  exact ⟨hpart ▸ h.tight, hpart ▸ h.reads⟩

theorem not_unquotable {path op v : String} (hv : ¬ EndsInBackslash v.toList) :
    ¬ (Leaf.mk path op (some v)).Unquotable := by
  rintro ⟨-, w, hw, hb⟩
  obtain rfl := Option.some.inj hw
  exact hv hb

/-- A test of `lucene` is read as itself. -/
theorem FromLucene.readAs {l : Leaf} (h : FromLucene datatype l) (hq : ¬ l.Unquotable) :
    ReadAs datatype (.leaf l) (.leaf l) :=
  ⟨tight_leaf h, reads_leaf h hq⟩

include hf

theorem readAs_equality (op : String) (ho : op ∈ ["=", "=="]) {v : String}
    (hv : ¬ EndsInBackslash v.toList) :
    ReadAs datatype (.leaf ⟨qualified datatype field, op, some v⟩)
      (.leaf ⟨qualified datatype field, "==", some v⟩) := by
  have hread : ReadAs datatype (.leaf ⟨qualified datatype field, "==", some v⟩) _ :=
    (FromLucene.value false v hf fun h => Bool.noConfusion h).readAs (not_unquotable hv)
  refine hread.of_toText ?_
  simp only [List.mem_cons, List.not_mem_nil, or_false] at ho
  rcases ho with rfl | rfl <;>
    simp [Leaf.toText, Leaf.toLucene, Leaf.partOperators, Leaf.patternOperators, isNegated]

theorem readAs_difference {v : String} (hv : ¬ EndsInBackslash v.toList) (hne : v ≠ "") :
    ReadAs datatype (.leaf ⟨qualified datatype field, "!=", some v⟩)
      (.leaf ⟨qualified datatype field, "!=", some v⟩) :=
  (FromLucene.value true v hf fun _ => hne).readAs (not_unquotable hv)

/-- A field that differs from the empty value is read as one that is absent. -/
theorem readAs_nonempty :
    ReadAs datatype (.leaf ⟨qualified datatype field, "!=", some ""⟩)
      (.leaf ⟨qualified datatype field, "!=", none⟩) := by
  have htext : partText .lucene (some datatype) (.leaf ⟨qualified datatype field, "!=", some ""⟩)
      = leafText true field (luceneValue "").toList := by
    rw [← toList_leafText]
    exact congrArg String.toList (toText_value datatype true hf "")
  have hread := LuceneTree.reads_of_takeTerm hf true datatype
    (fun tail ht => LuceneTree.unmarked_luceneValue "" ht)
    (fun text tail ht h => LuceneTree.takeTerm_value h
      ((LuceneTree.opensValue_luceneValue "").append tail) (LuceneTree.takeOperand_luceneValue (by decide) ht) ht)
  have hcompile : (Term.value field (operandOf "") none).compile datatype true
      = .leaf ⟨qualified datatype field, "!=", none⟩ := by
    have hempty : (operandOf "").isEmptyText = true := by decide
    simp [Term.compile, hempty, Term.path_eq, Term.field, Criteria.absent]
  rw [hcompile] at hread
  constructor
  · rw [htext]
    exact tight_leafText true hf ⟨(LuceneTree.opensValue_luceneValue "").starts,
      ends_luceneValue ""⟩
  · rw [htext]
    exact hread

theorem readAs_bound {op v : String} (ho : op ∈ boundOperators) (hv : ¬ EndsInBackslash v.toList) :
    ReadAs datatype (.leaf ⟨qualified datatype field, op, some v⟩)
      (.leaf ⟨qualified datatype field, op, some v⟩) :=
  (FromLucene.bound v hf ho).readAs (not_unquotable hv)

/-- A pattern between slashes is read as a pattern. -/
theorem readAs_pattern (negated : Bool) {p : String} (hp : ¬ EndsInBackslash p.toList) :
    ReadAs datatype (.leaf ⟨qualified datatype field, Term.signedOperator negated "~", some p⟩)
      (.leaf ⟨qualified datatype field, Term.signedOperator negated "~", some p⟩) :=
  (FromLucene.pattern negated p hf hp).readAs fun h => pattern_not_mem negated h.1

omit hf in
/-- A search by pattern is written like the one that regards case. -/
theorem toText_patternOperator {op v : String} (ho : op ∈ Leaf.patternOperators) (path : String) :
    (Leaf.mk path op (some v)).toText .lucene (some datatype)
      = (Leaf.mk path (Term.signedOperator (isNegated op) "~") (some v)).toText .lucene
          (some datatype) := by
  simp only [Leaf.patternOperators, List.mem_cons, List.not_mem_nil, or_false] at ho
  rcases ho with rfl | rfl | rfl | rfl <;>
    simp [Leaf.toText, Leaf.toLucene, Leaf.patternOperators, isNegated, signedOperator_pattern]

omit hf in
/-- A search for a part is written like one by the pattern of the part. -/
theorem toText_partOperator {op v : String} (ho : op ∈ Leaf.partOperators) (path : String) :
    (Leaf.mk path op (some v)).toText .lucene (some datatype)
      = (Leaf.mk path (Term.signedOperator (isNegated op) "~") (some (partPattern v))).toText
          .lucene (some datatype) := by
  simp only [Leaf.partOperators, List.mem_cons, List.not_mem_nil, or_false] at ho
  rcases ho with rfl | rfl | rfl | rfl <;>
    simp [Leaf.toText, Leaf.toLucene, Leaf.partOperators, Leaf.patternOperators, partPattern,
      isNegated, signedOperator_pattern]

omit hf in
theorem not_backslash_partPattern (v : String) : ¬ EndsInBackslash (partPattern v).toList := by
  rw [EndsInBackslash, partPattern, String.toList_ofList, List.append_cons _ '.' ['*'],
    List.getLast?_concat]
  decide

theorem readAs_presence (negated : Bool) :
    ReadAs datatype (.leaf ⟨qualified datatype field, Term.signedOperator negated "==", none⟩)
      (.leaf ⟨qualified datatype field, Term.signedOperator negated "==", none⟩) :=
  (FromLucene.presence negated hf).readAs fun h => by
    obtain ⟨v, hv, -⟩ := h.2
    cases hv

/-- A test is read as the one that it is told as. -/
theorem readAs_told_field {op : String} {value : Option String}
    (ho : op ∈ CriterionTree.operatorsFor value)
    (hv : ∀ v, value = some v → op ∉ Leaf.partOperators → ¬ EndsInBackslash v.toList) :
    ReadAs datatype (.leaf ⟨qualified datatype field, op, value⟩)
      (.leaf (Leaf.told ⟨qualified datatype field, op, value⟩)) := by
  cases value with
  | none =>
    simp only [CriterionTree.operatorsFor, List.mem_cons, List.not_mem_nil, or_false] at ho
    rcases ho with rfl | rfl
    · exact readAs_presence hf false
    · exact readAs_presence hf true
  | some v =>
    rcases CriterionTree.operators_cases ho with
      hpart | ⟨hother, hpattern | hequal | rfl | hbound⟩
    · rw [Leaf.told_part hpart]
      exact (readAs_pattern hf (isNegated op) (not_backslash_partPattern v)).of_toText
        (toText_partOperator hpart _)
    · have hlast := hv v rfl hother
      rw [Leaf.told_pattern hpattern]
      exact (readAs_pattern hf (isNegated op) hlast).of_toText (toText_patternOperator hpattern _)
    · have hlast := hv v rfl hother
      rw [Leaf.told_equality hequal]
      exact readAs_equality hf op hequal hlast
    · have hlast := hv v rfl hother
      by_cases hempty : v = ""
      · subst hempty
        rw [Leaf.told_nonempty]
        exact readAs_nonempty hf
      · rw [Leaf.told_difference hempty]
        exact readAs_difference hf hlast hempty
    · have hlast := hv v rfl hother
      rw [Leaf.told_bound hbound]
      exact readAs_bound hf hbound hlast

end Tests

/-- A path whose name `lucene` has is that of a field it reads. -/
theorem Leaf.Tellable.field {datatype : String} {l : Leaf} (h : FromCriterion datatype l)
    (ht : l.Tellable datatype) :
    ∃ field, LuceneTree.FieldReadable field ∧ l.path = qualified datatype field := by
  obtain @⟨path, op, value, -, -⟩ := h
  have hname := ht.name
  rw [Leaf.name, stripDatatype_dot] at hname
  rcases hname with rfl | hreads
  · refine ⟨none, ?_, rfl⟩
    intro p hp
    cases hp
  · obtain ⟨p, hp⟩ := hreads
    have hjoin := LuceneTree.takePath?_join hp
    rw [List.append_nil] at hjoin
    obtain rfl : p.toText = path := String.toList_inj.1 hjoin
    exact ⟨some p, fun q hq => Option.some.inj hq ▸ LuceneTree.readable_of_takePath? hp, rfl⟩

theorem Leaf.Tellable.readAs {datatype : String} {l : Leaf} (h : FromCriterion datatype l)
    (ht : l.Tellable datatype) : ReadAs datatype (.leaf l) (.leaf l.told) := by
  obtain ⟨field, hf, hpath⟩ := ht.field h
  have ho : l.operator ∈ CriterionTree.operatorsFor l.value := by
    obtain @⟨path, op, value, -, ho⟩ := h
    exact ho
  obtain ⟨path, op, value⟩ := l
  subst hpath
  exact readAs_told_field hf ho ht.value

/-- Criteria compiled from a `criterion` query without translations are told in `lucene` test by
test, where each of their tests can be. -/
theorem compile_toQuery_told {datatype query : String} {c : Criteria} (table : TranslationTable)
    (h : compile datatype .empty .criterion query = .ok c)
    (ht : ∀ l ∈ c.leaves, l.Tellable datatype) :
    compile datatype table .lucene (c.toQuery .lucene (some datatype))
      = .ok (c.substitute fun l => .leaf l.told) := by
  rcases compile_criterion_cases h with rfl | ⟨hs, hl⟩
  · rfl
  · exact compile_toQuery_readAs table (.inr hs) fun l hm => (ht l hm).readAs (hl l hm)

end EventSearch.Query
