/-
# `EventSearch.Proofs.LuceneMeaning` — what `criterion` criteria find when told in `lucene`

The text of criteria in `lucene` finds the records of the criteria when it says all of their tests
(`compile_toQuery_sameRecords`).  A test keeps its records (`Leaf.Kept`) unless it ignores case,
which is lost in the text, asks a field to differ from the empty value, whose text is that of its
absence, or looks for a part so long that its pattern is refused.

| `criterion` | written in `lucene` | what would say it |
|---|---|---|
| `sev <>* "LOW"` | `sev:/.*LOW.*/` | `sev:/(?i).*LOW.*/` |
| `sev != ""` | `-sev:""` | `-sev:/^$/` |
| `sev = "C:\\"` | `sev:"C:\"` | `sev:C\:\\` |

The two equalities are one condition; a search for a part and the search by its pattern agree on
every value (`foundIn_around`); and free text that differs from the empty value is told as no text
at all, which the same records have.
-/
import EventSearch.Proofs.LuceneTelling
import EventSearch.Proofs.PartPatternSize
import EventSearch.Proofs.SameRecords

namespace EventSearch.Query

open EventSearch.Pattern

namespace Leaf

/-- The operators that ignore case. -/
def caselessOperators : List String := ["<>*", "!<>*", "~*", "!~*"]

/-- A test that finds the same records when it is told in `lucene`. -/
structure Kept (datatype : String) (l : Leaf) : Prop where
  cased : l.operator ∉ caselessOperators
  nonempty : l.operator = "!=" → l.value = some "" → l.name datatype = anyField
  fits : ∀ v, l.value = some v → l.operator ∈ partOperators →
    Pattern.read false (partPattern v) ≠ .error .tooLarge

end Leaf

end EventSearch.Query

namespace EventSearch.Provider

open EventSearch.Text EventSearch.Data EventSearch.Pattern EventSearch.Query

/-! ## Conditions -/

/-- The condition of a leaf, negation aside. -/
def Predicate.ofLeaf (l : Leaf) : Except Error Predicate :=
  match l.value with
  | none => .ok .present
  | some v => ofOperator l.operator (baseOperator l.operator) v

theorem LeafFilter.compile_eq (scope : Scope) (l : Leaf) : compile scope l =
    (scope.target l.path).bind fun target =>
      (Predicate.ofLeaf l).map fun predicate => ⟨target, predicate, isNegated l.operator⟩ := by
  obtain ⟨path, op, value⟩ := l
  cases value with
  | none => rfl
  | some v =>
    simp only [compile, Predicate.ofLeaf]
    cases scope.target path with
    | error e => rfl
    | ok target =>
      cases hp : Predicate.ofOperator op (baseOperator op) v <;>
        simp [Except.map, Except.bind, bind, pure, Except.pure]

section Leaves

variable {scope : Scope} {a b : Leaf}

/-- Two leaves of one path find the same records when their conditions are met by the same. -/
theorem sameRecords_leaf {p q : Predicate} (hpath : a.path = b.path)
    (hnegated : isNegated a.operator = isNegated b.operator) (hp : Predicate.ofLeaf a = .ok p)
    (hq : Predicate.ofLeaf b = .ok q)
    (hhits : ∀ target, scope.target b.path = .ok target → ∀ negated record,
      LeafFilter.hits ⟨target, p, negated⟩ record = LeafFilter.hits ⟨target, q, negated⟩ record) :
    SameRecords scope (.leaf a) (.leaf b) := by
  have ha : Filter.compile scope (.leaf a) = (scope.target b.path).map fun target =>
      .leaf ⟨target, p, isNegated b.operator⟩ := by
    rw [Filter.compile, LeafFilter.compile_eq, hp, hpath, hnegated]
    cases scope.target b.path <;> rfl
  have hb : Filter.compile scope (.leaf b) = (scope.target b.path).map fun target =>
      .leaf ⟨target, q, isNegated b.operator⟩ := by
    rw [Filter.compile, LeafFilter.compile_eq, hq]
    cases scope.target b.path <;> rfl
  cases ht : scope.target b.path with
  | error e =>
    rw [ht] at ha hb
    exact .of_error ha hb
  | ok target =>
    rw [ht] at ha hb
    refine .of_ok ha hb fun record => ?_
    simp only [Filter.accepts, LeafFilter.accepts, hhits target ht]

/-- Conditions that values meet alike are met by the same records. -/
theorem hits_congr {p q : Predicate} (htest : ∀ value, p.test value = q.test value)
    (hfree : ∀ value, p.testFreeText value = q.testFreeText value) (target : Target)
    (negated : Bool) (record : Record) :
    LeafFilter.hits ⟨target, p, negated⟩ record = LeafFilter.hits ⟨target, q, negated⟩ record := by
  cases target with
  | field name =>
    simp only [LeafFilter.hits]
    rw [funext htest]
  | anywhere => simp only [LeafFilter.hits, hfree]

end Leaves

/-! ## Tests -/

section Told

variable {scope : Scope} {path op v : String}

theorem Predicate.ofLeaf_equal (hop : op ∈ ["=", "==", "!="]) :
    ofLeaf ⟨path, op, some v⟩ = .ok (.equal v) := by
  have hbase : baseOperator op = "==" ∨ baseOperator op = "=" :=
    (by decide : ∀ op ∈ ["=", "==", "!="], baseOperator op = "==" ∨ baseOperator op = "=") op hop
  simp only [ofLeaf, ofOperator, if_pos hbase]

theorem Predicate.ofLeaf_part (hop : op ∈ ["<>", "!<>"]) :
    ofLeaf ⟨path, op, some v⟩ = .ok (.holdsPart v) := by
  have hbase : baseOperator op = "<>" :=
    (by decide : ∀ op ∈ ["<>", "!<>"], baseOperator op = "<>") op hop
  simp [ofLeaf, ofOperator, hbase]

theorem Predicate.baseOperator_pattern (negated : Bool) :
    baseOperator (Term.signedOperator negated "~") = "~" := by
  cases negated <;> decide

/-- Both equalities are one condition. -/
theorem sameRecords_equality (hop : op ∈ ["=", "=="]) :
    SameRecords scope (.leaf ⟨path, "==", some v⟩) (.leaf ⟨path, op, some v⟩) := by
  have hnegated : isNegated "==" = isNegated op :=
    (by decide : ∀ op ∈ ["=", "=="], isNegated "==" = isNegated op) op hop
  have hequal : Predicate.ofLeaf ⟨path, op, some v⟩ = .ok (.equal v) :=
    Predicate.ofLeaf_equal (List.mem_append_left ["!="] hop)
  exact sameRecords_leaf rfl hnegated (Predicate.ofLeaf_equal (by decide)) hequal
    fun target _ negated record => hits_congr (fun _ => rfl) (fun _ => rfl) target negated record

/-- A part and its pattern are found in the same values. -/
theorem test_partPattern (v : String) (value : Value) :
    (Predicate.matchesPattern (around v.toList)).test value = (Predicate.holdsPart v).test value := by
  rw [Predicate.test, Predicate.test, foundIn_around, textHolds]

theorem read_partPattern (h : Pattern.read false (partPattern v) ≠ .error .tooLarge) :
    Pattern.read false (partPattern v) = .ok (around v.toList) := by
  simp only [Pattern.read, parse?_partPattern] at h ⊢
  by_cases hfits : (around v.toList).fits = true
  · rw [if_pos hfits]
  · exact absurd (if_neg hfits) h

/-- Parts of up to 300 000 bytes have patterns that are not too large. -/
theorem read_partPattern_ne_tooLarge (hlength : Machine.byteCount v.toList ≤ 300000) :
    Pattern.read false (partPattern v) ≠ .error .tooLarge := by
  simp only [Pattern.read, parse?_partPattern, if_pos (fits_around hlength)]
  intro h
  cases h

/-- Those of parts of 327 681 bytes and more are. -/
theorem read_partPattern_tooLarge (hlength : 327681 ≤ Machine.byteCount v.toList) :
    Pattern.read false (partPattern v) = .error .tooLarge := by
  simp only [Pattern.read, parse?_partPattern, fits_around_large hlength]
  rfl

theorem sameRecords_part (hop : op ∈ ["<>", "!<>"])
    (hfits : Pattern.read false (partPattern v) ≠ .error .tooLarge) :
    SameRecords scope
      (.leaf ⟨path, Term.signedOperator (isNegated op) "~", some (partPattern v)⟩)
      (.leaf ⟨path, op, some v⟩) := by
  have hpattern : Predicate.ofLeaf
      ⟨path, Term.signedOperator (isNegated op) "~", some (partPattern v)⟩
        = .ok (.matchesPattern (around v.toList)) := by
    simp only [Predicate.ofLeaf, Predicate.baseOperator_pattern, Predicate.ofOperator,
      read_partPattern hfits]
    rfl
  have hnegated : isNegated (Term.signedOperator (isNegated op) "~") = isNegated op := by
    cases isNegated op <;> decide
  exact sameRecords_leaf rfl hnegated hpattern (Predicate.ofLeaf_part hop)
    fun target _ negated record =>
      hits_congr (test_partPattern v) (test_partPattern v) target negated record

/-- A search for a part whose pattern is too large is told as a test that cannot be made. -/
theorem not_sameRecords_told_part {target : Target} (htarget : scope.target path = .ok target)
    (hop : op ∈ ["<>", "!<>"]) (hlength : 327681 ≤ Machine.byteCount v.toList) :
    ¬ SameRecords scope (.leaf (Leaf.told ⟨path, op, some v⟩)) (.leaf ⟨path, op, some v⟩) := by
  have hpart : op ∈ Leaf.partOperators :=
    (by decide : ∀ op ∈ ["<>", "!<>"], op ∈ Leaf.partOperators) op hop
  have hpattern : Predicate.ofLeaf
      ⟨path, Term.signedOperator (isNegated op) "~", some (partPattern v)⟩
        = .error (.invalidCriteria (.invalidPattern (partPattern v) .tooLarge)) := by
    simp only [Predicate.ofLeaf, Predicate.baseOperator_pattern, Predicate.ofOperator,
      read_partPattern_tooLarge hlength]
    rfl
  have htestable : Testable scope (.leaf ⟨path, op, some v⟩) := by
    refine ⟨.leaf ⟨target, .holdsPart v, isNegated op⟩, ?_⟩
    rw [Filter.compile, LeafFilter.compile_eq, htarget, Predicate.ofLeaf_part hop]
    rfl
  intro hsame
  obtain ⟨f, hf⟩ := hsame.testable.2 htestable
  rw [Leaf.told_part hpart, Filter.compile, LeafFilter.compile_eq, htarget, hpattern] at hf
  cases hf

/-- Free text that differs from the empty value is no text at all. -/
theorem sameRecords_nonempty (dataset : Dataset) (datatype : String) :
    SameRecords ⟨datatype, dataset⟩ (.leaf ⟨datatype ++ "." ++ anyField, "!=", none⟩)
      (.leaf ⟨datatype ++ "." ++ anyField, "!=", some ""⟩) := by
  refine sameRecords_leaf (p := .present) rfl rfl rfl (Predicate.ofLeaf_equal (by decide))
    fun target htarget negated record => ?_
  obtain rfl : Target.anywhere = target := by
    rw [Scope.target, if_pos (dropLead?_dot datatype anyField)] at htarget
    exact Except.ok.inj htarget
  have hevery : ∀ value : Value, (Predicate.equal "").testFreeText value = true := by
    intro value
    have hempty : (lower "").toList = [] := by decide
    rw [Predicate.testFreeText, textHolds, hempty]
    exact hasPart_iff.2 ⟨0, Nat.zero_le _, List.nil_prefix⟩
  simp only [LeafFilter.hits, hevery]
  rfl

end Told

/-- A test that keeps its records finds them when it is told in `lucene`. -/
theorem sameRecords_told {datatype : String} {l : Leaf} (h : FromCriterion datatype l)
    (hk : l.Kept datatype) (dataset : Dataset) :
    SameRecords ⟨datatype, dataset⟩ (.leaf l.told) (.leaf l) := by
  obtain @⟨path, op, value, -, ho⟩ := h
  cases value with
  | none =>
    rw [Leaf.told_presence]
    exact SameRecords.refl _ _
  | some v =>
    rcases CriterionTree.operators_cases ho with
      hpart | ⟨-, hpattern | hequal | rfl | hbound⟩
    · have hop : op ∈ ["<>", "!<>"] :=
        (by decide : ∀ op ∈ Leaf.partOperators, op ∉ Leaf.caselessOperators → op ∈ ["<>", "!<>"])
          op hpart hk.cased
      rw [Leaf.told_part hpart]
      exact sameRecords_part hop (hk.fits v rfl hpart)
    · have hop : Term.signedOperator (isNegated op) "~" = op :=
        (by decide : ∀ op ∈ Leaf.patternOperators, op ∉ Leaf.caselessOperators →
          Term.signedOperator (isNegated op) "~" = op) op hpattern hk.cased
      rw [Leaf.told_pattern hpattern, hop]
      exact SameRecords.refl _ _
    · rw [Leaf.told_equality hequal]
      exact sameRecords_equality hequal
    · by_cases hempty : v = ""
      · subst hempty
        have hname := hk.nonempty rfl rfl
        rw [Leaf.name, stripDatatype_dot] at hname
        subst hname
        rw [Leaf.told_nonempty]
        exact sameRecords_nonempty dataset datatype
      · rw [Leaf.told_difference hempty]
        exact SameRecords.refl _ _
    · rw [Leaf.told_bound hbound]
      exact SameRecords.refl _ _

/-! ## Criteria -/

/-- Criteria compiled from a `criterion` query without translations, written in `lucene`, compile
when each of their tests can be told there, and find the same records when each keeps its own. -/
theorem compile_toQuery_sameRecords {datatype query : String} {c : Criteria}
    (h : compile datatype .empty .criterion query = .ok c)
    (ht : ∀ l ∈ c.leaves, l.Tellable datatype) :
    ∃ d, compile datatype .empty .lucene (c.toQuery .lucene (some datatype)) = .ok d ∧
      d = c.substitute (fun l => .leaf l.told) ∧
      ((∀ l ∈ c.leaves, l.Kept datatype) →
        ∀ dataset, SameRecords ⟨datatype, dataset⟩ d c) := by
  refine ⟨_, compile_toQuery_told .empty h ht, rfl, fun hk dataset => ?_⟩
  rcases compile_criterion_cases h with rfl | ⟨hs, hl⟩
  · exact SameRecords.refl _ _
  · exact sameRecords_substitute hs fun l hm =>
      ⟨Criteria.noConfusion, sameRecords_told (hl l hm) (hk l hm) dataset⟩

/-- A search for `a.b`, where the point is no mark, and one for `x/y` keep their records. -/
theorem compile_toQuery_sameRecords_parts :
    let query := "sev = \"lo w\" && (src <> \"a.b\" || src !~ \"x/y\") && _raw_query != \"\""
    ∃ c d, compile "e" .empty .criterion query = .ok c ∧
      compile "e" .empty .lucene (c.toQuery .lucene (some "e")) = .ok d ∧
      ∀ dataset, SameRecords ⟨"e", dataset⟩ d c := by
  intro query
  have hcompile : compile "e" .empty .criterion query = .ok (.conj [.test "e.sev" "=" "lo w",
      .disj [.test "e.src" "<>" "a.b", .test "e.src" "!~" "x/y"],
      .test "e._raw_query" "!=" ""]) := eq_ok_of_toOption (by decide +kernel)
  have hnames : ∀ name ∈ ["sev", "src"],
      ∃ p, LuceneTree.takePath? name.toList = some (p, []) := by
    intro name hn
    simp only [List.mem_cons, List.not_mem_nil, or_false] at hn
    rcases hn with rfl | rfl
    · exact ⟨⟨[⟨"sev", none⟩]⟩, by decide⟩
    · exact ⟨⟨[⟨"src", none⟩]⟩, by decide⟩
  have htellable : ∀ l ∈ [Leaf.mk "e.sev" "=" (some "lo w"), ⟨"e.src", "<>", some "a.b"⟩,
      ⟨"e.src", "!~", some "x/y"⟩, ⟨"e._raw_query", "!=", some ""⟩], l.Tellable "e" := by
    intro l hl
    have hvalue : ∀ v, l.value = some v → ¬ EndsInBackslash v.toList := by
      intro v hv
      simp only [List.mem_cons, List.not_mem_nil, or_false] at hl
      rcases hl with rfl | rfl | rfl | rfl <;> (obtain rfl := Option.some.inj hv; decide)
    refine ⟨?_, fun v hv _ => hvalue v hv⟩
    simp only [List.mem_cons, List.not_mem_nil, or_false] at hl
    rcases hl with rfl | rfl | rfl | rfl
    · exact .inr (hnames "sev" (by decide))
    · exact .inr (hnames "src" (by decide))
    · exact .inr (hnames "src" (by decide))
    · exact .inl (by decide)
  have hkept : ∀ l ∈ [Leaf.mk "e.sev" "=" (some "lo w"), ⟨"e.src", "<>", some "a.b"⟩,
      ⟨"e.src", "!~", some "x/y"⟩, ⟨"e._raw_query", "!=", some ""⟩], l.Kept "e" := by
    intro l hl
    simp only [List.mem_cons, List.not_mem_nil, or_false] at hl
    rcases hl with rfl | rfl | rfl | rfl
    · exact ⟨by decide, fun h => absurd h (by decide), fun v _ h => absurd h (by decide)⟩
    · refine ⟨by decide, fun h => absurd h (by decide), fun v hv _ => ?_⟩
      obtain rfl := Option.some.inj hv
      exact read_partPattern_ne_tooLarge (by decide)
    · exact ⟨by decide, fun h => absurd h (by decide), fun v _ h => absurd h (by decide)⟩
    · exact ⟨by decide, fun _ _ => by decide, fun v _ h => absurd h (by decide)⟩
  obtain ⟨d, hd, -, hsame⟩ := compile_toQuery_sameRecords hcompile htellable
  exact ⟨_, d, hcompile, hd, hsame hkept⟩

/-- What is written of a field that is not empty is read as its absence, what is written of a search
that ignores case is read with regard to case, and a last backslash protects the quote behind it.
Nor does `lucene` have a name that begins with a capital, and the patterns of very long parts are
refused. -/
theorem toQuery_lucene_misses :
    let misses (query : String) : Prop := ∃ c, compile "e" .empty .criterion query = .ok c ∧
      ∀ d, compile "e" .empty .lucene (c.toQuery .lucene (some "e")) = .ok d →
        ¬ SameRecords sampleScope d c
    misses "sev != \"\"" ∧ misses "sev <>* \"LOW\"" ∧ misses "Sev = \"low\"" ∧
      misses "sev = \"C:\\\\\"" ∧
      ∃ v, misses ((Criteria.test "e.sev" "<>" v).toQuery .criterion (some "e")) := by
  intro misses
  have hfound : ∀ {query : String} {c d : Criteria},
      (compile "e" .empty .criterion query).toOption = some c →
      (compile "e" .empty .lucene (c.toQuery .lucene (some "e"))).toOption = some d →
      Passes sampleScope sampleRecord c → ¬ Passes sampleScope sampleRecord d → misses query := by
    intro query c d hc hd hpasses hfails
    refine ⟨c, eq_ok_of_toOption hc, fun d' hd' hsame => hfails ?_⟩
    obtain rfl := Except.ok.inj ((eq_ok_of_toOption hd).symm.trans hd')
    exact (hsame.passes sampleRecord).2 hpasses
  have hunread : ∀ {query : String} {c : Criteria},
      (compile "e" .empty .criterion query).toOption = some c →
      (compile "e" .empty .lucene (c.toQuery .lucene (some "e"))).toOption = none →
      misses query := by
    intro query c hc hnone
    refine ⟨c, eq_ok_of_toOption hc, fun d hd => ?_⟩
    rw [hd] at hnone
    cases hnone
  have htarget : sampleScope.target "e.sev" = .ok (.field "sev") := rfl
  have hlong : ∀ v : String, 327681 ≤ Machine.byteCount v.toList → ¬ EndsInBackslash v.toList →
      misses ((Criteria.test "e.sev" "<>" v).toQuery .criterion (some "e")) := by
    intro v hlength hlast
    have hleaf : FromCriterion "e" ⟨"e.sev", "<>", some v⟩ :=
      .test (CriterionTree.takePath?_join (by decide : CriterionTree.takePath? "sev".toList
        = some ("sev".toList, []))).1 (by decide : "<>" ∈ CriterionTree.operators)
    have hname : (Leaf.mk "e.sev" "<>" (some v)).name "e" = "sev" := stripDatatype_dot "e" "sev"
    have htellable : (Leaf.mk "e.sev" "<>" (some v)).Tellable "e" := by
      refine ⟨.inr ⟨⟨[⟨"sev", none⟩]⟩, ?_⟩, fun w hw _ => Option.some.inj hw ▸ hlast⟩
      rw [hname]
      decide
    have hcompile := compile_toQuery_reread .empty (.inr (.leaf ⟨"e.sev", "<>", some v⟩))
      fun l hm => List.mem_singleton.1 hm ▸ hleaf.writable
    rw [Criteria.substitute, hleaf.reread] at hcompile
    have htold := compile_toQuery_told .empty hcompile
      fun l hm => List.mem_singleton.1 hm ▸ htellable
    refine ⟨_, hcompile, fun d hd => ?_⟩
    obtain rfl := Except.ok.inj (htold.symm.trans hd)
    exact not_sameRecords_told_part htarget (by decide) hlength
  refine ⟨?_, ?_, ?_, ?_, String.ofList (List.replicate 327681 'a'), hlong _ ?_ ?_⟩
  · exact hfound (c := .test "e.sev" "!=" "") (d := .absent "e.sev") (by decide +kernel)
      (by decide +kernel) (by decide +kernel) (by decide +kernel)
  · have hpart : SameRecords sampleScope (.test "e.sev" "~" (partPattern "LOW"))
        (.test "e.sev" "<>" "LOW") :=
      sameRecords_part (by decide : "<>" ∈ ["<>", "!<>"])
        (read_partPattern_ne_tooLarge (by decide : Machine.byteCount "LOW".toList ≤ 300000))
    refine hfound (c := .test "e.sev" "<>*" "LOW") (d := .test "e.sev" "~" (partPattern "LOW"))
      (by decide +kernel) (by decide +kernel) (by decide +kernel) fun h => ?_
    exact absurd ((hpart.passes sampleRecord).1 h) (by decide +kernel)
  · exact hunread (c := .test "e.Sev" "=" "low") (by decide +kernel) (by decide +kernel)
  · exact hunread (c := .test "e.sev" "=" "C:\\") (by decide +kernel) (by decide +kernel)
  · rw [String.toList_ofList, Machine.byteCount_replicate]
    decide
  · rw [String.toList_ofList, EndsInBackslash, List.getLast?_replicate]
    decide

end EventSearch.Provider
