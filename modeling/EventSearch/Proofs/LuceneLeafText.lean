/-
# `EventSearch.Proofs.LuceneLeafText` — the text of one leaf in `lucene`

A leaf of one of the four forms is written as a sign, a field and a value or range
(`toText_value` and its siblings).  The text comes back as a tree for the leaf (`reads_leaf`),
unless the leaf compares with a value that ends in a backslash (`Leaf.Unquotable`): that text is
not read, or its first leaf is another one (`breaks_leaf`).
-/
import EventSearch.Proofs.LuceneLeaves
import EventSearch.Proofs.WrittenCriteria

namespace EventSearch.Query

open EventSearch.Text

/-! ## Text -/

theorem stripDatatype_qualified (datatype : String) (field : Option FieldPath) :
    stripDatatype (some datatype) (qualified datatype field)
      = (field.map (·.toText)).getD anyField :=
  stripDatatype_dot datatype _

/-- A field is written in front of a colon, the field of terms that name none is not written. -/
theorem writtenField {field : Option FieldPath} (h : LuceneTree.FieldReadable field) :
    (if (field.map (·.toText)).getD anyField = anyField then ""
      else (field.map (·.toText)).getD anyField ++ ":") = fieldText field := by
  cases field with
  | none => rfl
  | some p =>
    obtain ⟨c, cs, hc, hl⟩ := LuceneTree.head_path (h p rfl)
    have hne : p.toText ≠ anyField := by
      intro he
      rw [he] at hc
      obtain rfl : '_' = c := (List.cons.inj hc).1
      exact absurd hl (by decide)
    simp [hne, fieldText]

theorem signedOperator_equal (negated : Bool) :
    Term.signedOperator negated "==" = if negated then "!=" else "==" := by
  cases negated <;> rfl

theorem signedOperator_pattern (negated : Bool) :
    Term.signedOperator negated "~" = if negated then "!~" else "~" := by
  cases negated
  · rfl
  · decide

/-- The range from or to a value. -/
def boundText (op v : String) : String :=
  if op = ">=" then "[" ++ luceneValue v ++ " TO *]"
  else if op = ">" then "\x7b" ++ luceneValue v ++ " TO *\x7d"
  else if op = "<=" then "[* TO " ++ luceneValue v ++ "]"
  else "\x7b* TO " ++ luceneValue v ++ "\x7d"

section

variable (datatype : String) (negated : Bool) {field : Option FieldPath}
  (hf : LuceneTree.FieldReadable field)

include hf

theorem toText_presence :
    (Leaf.mk (qualified datatype field) (Term.signedOperator negated "==") none).toText .lucene
      (some datatype) = LuceneTree.signText negated ++ fieldText field ++ "[* TO *]" := by
  simp only [Leaf.toText, stripDatatype_qualified, Leaf.toLucene, writtenField hf,
    signedOperator_equal]
  cases negated <;> simp [LuceneTree.signText, isNegated]

theorem toText_value (v : String) :
    (Leaf.mk (qualified datatype field) (Term.signedOperator negated "==") (some v)).toText .lucene
      (some datatype) = LuceneTree.signText negated ++ fieldText field ++ luceneValue v := by
  simp only [Leaf.toText, stripDatatype_qualified, Leaf.toLucene, writtenField hf,
    signedOperator_equal]
  cases negated <;>
    simp [LuceneTree.signText, isNegated, Leaf.patternOperators, Leaf.partOperators]

theorem toText_pattern (p : String) :
    (Leaf.mk (qualified datatype field) (Term.signedOperator negated "~") (some p)).toText .lucene
      (some datatype) = LuceneTree.signText negated ++ fieldText field ++ slashed p.toList := by
  simp only [Leaf.toText, stripDatatype_qualified, Leaf.toLucene, writtenField hf,
    signedOperator_pattern]
  cases negated <;> simp [LuceneTree.signText, isNegated, Leaf.patternOperators]

theorem toText_bound {op : String} (ho : op ∈ boundOperators) (v : String) :
    (Leaf.mk (qualified datatype field) op (some v)).toText .lucene (some datatype)
      = fieldText field ++ boundText op v := by
  simp only [Leaf.toText, stripDatatype_qualified, Leaf.toLucene, writtenField hf]
  simp only [boundOperators, List.mem_cons, List.not_mem_nil, or_false] at ho
  rcases ho with rfl | rfl | rfl | rfl <;> simp [boundText, String.append_assoc]

end

/-! ## Ends of a range -/

namespace Term

theorem boundLeaves_star (path op : String) (negated : Bool) :
    boundLeaves path negated op (.bare "*") = [] := by
  simp [boundLeaves, Operand.isOpenBound]

theorem boundLeaves_closed {bound : Operand} (h : bound.isOpenBound = false) (path op : String) :
    boundLeaves path false op bound = [.test path op bound.text] := by
  simp [boundLeaves, h, signedOperator]

/-- The first leaf of a range is that of its lower end. -/
theorem leaves_compileRange_low {low : Operand} (h : low.isOpenBound = false)
    (path lowOp highOp : String) (high : Operand) :
    ∃ more, (compileRange path lowOp highOp low high false).leaves
      = ⟨path, lowOp, some low.text⟩ :: more := by
  simp [compileRange, boundLeaves_closed h, Criteria.test, Criteria.leaves]

/-- Without a lower end the first leaf of a range is that of its upper end. -/
theorem leaves_compileRange_high {high : Operand} (h : high.isOpenBound = false)
    (path lowOp highOp : String) :
    ∃ more, (compileRange path lowOp highOp (.bare "*") high false).leaves
      = ⟨path, highOp, some high.text⟩ :: more := by
  simp [compileRange, boundLeaves_star, boundLeaves_closed h, Criteria.test, Criteria.leaves]

end Term

/-! ## Reading -/

/-- The text of a part comes back as a tree for the part, in front of whatever may follow it. -/
def Reads (datatype : String) (text : List Char) (c : Criteria) : Prop :=
  ∃ t : LuceneTree, t.compile datatype = c ∧ ∀ fuel tail, text.length ≤ fuel → Follows tail →
    LuceneTree.takeCriterion fuel (text ++ tail) = .ok (t, tail)

/-- The characters of a sign, a field and what stands behind them. -/
def leafText (negated : Bool) (field : Option FieldPath) (body : List Char) : List Char :=
  (LuceneTree.signText negated).toList ++ ((fieldText field).toList ++ body)

theorem leafText_append (negated : Bool) (field : Option FieldPath) (body tail : List Char) :
    leafText negated field body ++ tail = leafText negated field (body ++ tail) := by
  simp [leafText]

theorem compile_sign (negated : Bool) (t : Term) (datatype : String) :
    (LuceneTree.signed (if negated then some .minus else none) t).compile datatype
      = t.compile datatype negated := by
  cases negated <;> rfl

namespace LuceneTree

theorem takeCriterion_of_takeSigned {cs : List Char} {r : LuceneTree × List Char}
    (h : takeSigned cs = .ok r) (fuel : Nat) : takeCriterion fuel cs = .ok r := by
  cases cs with
  | nil => rw [takeCriterion_nil, h]
  | cons c cs =>
    by_cases hc : c = '('
    · subst hc
      rw [takeSigned_paren] at h
      cases h
    · rw [takeCriterion_of_ne hc, h]

variable {field : Option FieldPath} (hf : FieldReadable field) (negated : Bool)

include hf

theorem takeSigned_leafText {cs rest : List Char} {t : Term} (hu : Unmarked cs)
    (ht : ∀ text, takeField text = (field, cs) → takeTerm text = .ok (t, rest)) :
    takeSigned (leafText negated field cs)
      = .ok (.signed (if negated then some .minus else none) t, rest) := by
  simp only [takeSigned, leafText, takeSign_signText negated hf hu, ht _ (takeField_fieldText hf hu)]

/-- The text of a leaf reads back when its term does. -/
theorem reads_of_takeTerm (datatype : String) {body : List Char} {t : Term}
    (hu : ∀ tail, Follows tail → Unmarked (body ++ tail))
    (ht : ∀ text tail, Follows tail → takeField text = (field, body ++ tail) →
      takeTerm text = .ok (t, tail)) :
    Reads datatype (leafText negated field body) (t.compile datatype negated) := by
  refine ⟨_, compile_sign negated t datatype, fun fuel tail _ htail => ?_⟩
  rw [leafText_append]
  exact takeCriterion_of_takeSigned
    (takeSigned_leafText hf negated (hu tail htail) fun text => ht text tail htail) fuel

theorem reads_value (datatype : String) {v : String} (hb : ¬ EndsInBackslash v.toList)
    (hv : negated = true → v ≠ "") :
    Reads datatype (leafText negated field (luceneValue v).toList)
      (.leaf ⟨qualified datatype field, Term.signedOperator negated "==", some v⟩) := by
  have hr := reads_of_takeTerm hf negated datatype
    (fun tail ht => unmarked_luceneValue v ht)
    (fun text tail ht h => takeTerm_value h ((opensValue_luceneValue v).append tail)
      (takeOperand_luceneValue hb ht) ht)
  have hc : (Term.value field (operandOf v) none).compile datatype negated
      = .leaf ⟨qualified datatype field, Term.signedOperator negated "==", some v⟩ := by
    have he : (negated && (operandOf v).isEmptyText) = false := by
      cases hn : negated with
      | false => rfl
      | true => simp [operandOf_isEmptyText (hv hn)]
    simp [Term.compile, he, operandOf_comparison, Term.path_eq, Term.field, Criteria.test]
  rwa [hc] at hr

theorem reads_pattern (datatype : String) {p : String} (hb : ¬ EndsInBackslash p.toList) :
    Reads datatype (leafText negated field (slashed p.toList).toList)
      (.leaf ⟨qualified datatype field, Term.signedOperator negated "~", some p⟩) := by
  have hs : (slashed p.toList).toList = '/' :: (escapeChar '/' p.toList ++ ['/']) := by
    simp [slashed]
  have hu : ∀ tail, Follows tail → Unmarked ((slashed p.toList).toList ++ tail) := by
    intro tail _
    rw [hs]
    exact unmarked_cons (by decide) (by decide) _
  have hr := reads_of_takeTerm hf negated datatype hu fun text tail ht h =>
    takeTerm_value h (by rw [hs]; exact opensValue_cons (by decide) (by decide) _)
      (takeOperand_slashed hb tail) ht
  rw [String.ofList_toList] at hr
  have hc : (Term.value field (.pattern p) none).compile datatype negated
      = .leaf ⟨qualified datatype field, Term.signedOperator negated "~", some p⟩ := by
    simp [Term.compile, Operand.isEmptyText, Term.comparison, Term.path_eq, Term.field,
      Criteria.test]
  rwa [hc] at hr

theorem reads_inclusive (datatype : String) {lowText highText : List Char} {low high : Operand}
    (hl : RangeEnd lowText low) (hh : RangeEnd highText high) :
    Reads datatype (leafText negated field ('[' :: boundsText lowText highText [']']))
      ((Term.inclusive field low high).compile datatype negated) := by
  refine reads_of_takeTerm hf negated datatype
    (fun tail _ => unmarked_cons (by decide) (by decide) _) fun text tail _ h => ?_
  have hb := takeBounds?_boundsText (show ']' ∈ [']', '}'] by decide) hl hh tail
  exact takeTerm_inclusive (by simpa [boundsText] using h) hb

theorem reads_exclusive (datatype : String) {lowText highText : List Char} {low high : Operand}
    (hl : RangeEnd lowText low) (hh : RangeEnd highText high) :
    Reads datatype (leafText negated field ('{' :: boundsText lowText highText ['}']))
      ((Term.exclusive field low high).compile datatype negated) := by
  refine reads_of_takeTerm hf negated datatype
    (fun tail _ => unmarked_cons (by decide) (by decide) _) fun text tail _ h => ?_
  have hb := takeBounds?_boundsText (show '}' ∈ [']', '}'] by decide) hl hh tail
  exact takeTerm_exclusive (by simpa [boundsText] using h) hb

theorem reads_presence (datatype : String) :
    Reads datatype (leafText negated field "[* TO *]".toList)
      (.leaf ⟨qualified datatype field, Term.signedOperator negated "==", none⟩) := by
  have hr := reads_inclusive hf negated datatype rangeEnd_star rangeEnd_star
  have hc : (Term.inclusive field (.bare "*") (.bare "*")).compile datatype negated
      = .leaf ⟨qualified datatype field, Term.signedOperator negated "==", none⟩ := by
    rw [signedOperator_equal]
    cases negated <;> simp [Term.compile, Term.compileRange, Term.boundLeaves, Operand.isOpenBound,
      Term.path_eq, Term.field, Criteria.absent, Criteria.present]
  rwa [hc] at hr

omit negated in
theorem reads_bound (datatype : String) {op v : String} (ho : op ∈ boundOperators)
    (hb : ¬ EndsInBackslash v.toList) :
    Reads datatype (leafText false field (boundText op v).toList)
      (.leaf ⟨qualified datatype field, op, some v⟩) := by
  have hv := rangeEnd_luceneValue hb
  have hlow : ∀ lowOp highOp, Term.compileRange (qualified datatype field) lowOp highOp
      (operandOf v) (.bare "*") false = .leaf ⟨qualified datatype field, lowOp, some v⟩ := by
    intro lowOp highOp
    simp [Term.compileRange, Term.boundLeaves_star, operandOf_text, Criteria.allOf, Criteria.test,
      Term.boundLeaves_closed (operandOf_isOpenBound v)]
  have hhigh : ∀ lowOp highOp, Term.compileRange (qualified datatype field) lowOp highOp
      (.bare "*") (operandOf v) false = .leaf ⟨qualified datatype field, highOp, some v⟩ := by
    intro lowOp highOp
    simp [Term.compileRange, Term.boundLeaves_star, operandOf_text, Criteria.allOf, Criteria.test,
      Term.boundLeaves_closed (operandOf_isOpenBound v)]
  simp only [boundOperators, List.mem_cons, List.not_mem_nil, or_false] at ho
  rcases ho with rfl | rfl | rfl | rfl
  · have hr := reads_inclusive hf false datatype hv rangeEnd_star
    simp only [Term.compile, Term.path_eq, Term.field, hlow] at hr
    simpa [boundText, boundsText] using hr
  · have hr := reads_exclusive hf false datatype hv rangeEnd_star
    simp only [Term.compile, Term.path_eq, Term.field, hlow] at hr
    simpa [boundText, boundsText] using hr
  · have hr := reads_inclusive hf false datatype rangeEnd_star hv
    simp only [Term.compile, Term.path_eq, Term.field, hhigh] at hr
    simpa [boundText, boundsText] using hr
  · have hr := reads_exclusive hf false datatype rangeEnd_star hv
    simp only [Term.compile, Term.path_eq, Term.field, hhigh] at hr
    simpa [boundText, boundsText] using hr

end LuceneTree

/-! ## Leaves of all forms -/

/-- The operators of leaves that are written with a value in quotes. -/
def comparisonOperators : List String := ["==", "!=", ">", ">=", "<", "<="]

/-- A leaf whose value ends in a backslash, written where only quotes could hold it. -/
def Leaf.Unquotable (l : Leaf) : Prop :=
  l.operator ∈ comparisonOperators ∧ ∃ v, l.value = some v ∧ EndsInBackslash v.toList

theorem comparison_mem (negated : Bool) :
    Term.signedOperator negated "==" ∈ comparisonOperators := by
  cases negated <;> decide

theorem pattern_not_mem (negated : Bool) :
    Term.signedOperator negated "~" ∉ comparisonOperators := by
  cases negated <;> decide

theorem bound_mem {op : String} (h : op ∈ boundOperators) : op ∈ comparisonOperators := by
  simp only [boundOperators, List.mem_cons, List.not_mem_nil, or_false] at h
  rcases h with rfl | rfl | rfl | rfl <;> decide

theorem toList_leafText (negated : Bool) (field : Option FieldPath) (body : String) :
    (LuceneTree.signText negated ++ fieldText field ++ body).toList
      = leafText negated field body.toList := by
  simp [leafText]

theorem toList_boundText (field : Option FieldPath) (op v : String) :
    (fieldText field ++ boundText op v).toList
      = leafText false field (boundText op v).toList := by
  simp [leafText, LuceneTree.signText]

/-- A leaf of a compiled query comes back from its text unless its value cannot be quoted. -/
theorem reads_leaf {datatype : String} {l : Leaf} (h : FromLucene datatype l)
    (hq : ¬ l.Unquotable) :
    Reads datatype (l.toText .lucene (some datatype)).toList (.leaf l) := by
  cases h with
  | value negated v hf hv =>
    rw [toText_value datatype negated hf v, toList_leafText]
    exact LuceneTree.reads_value hf negated datatype (fun hb => hq ⟨comparison_mem negated, v, rfl, hb⟩) hv
  | pattern negated p hf hp =>
    rw [toText_pattern datatype negated hf p, toList_leafText]
    exact LuceneTree.reads_pattern hf negated datatype hp
  | bound v hf ho =>
    rw [toText_bound datatype hf ho v, toList_boundText]
    exact LuceneTree.reads_bound hf datatype ho fun hb => hq ⟨bound_mem ho, v, rfl, hb⟩
  | presence negated hf =>
    rw [toText_presence datatype negated hf, toList_leafText]
    exact LuceneTree.reads_presence hf negated datatype

/-! ## First and last characters -/

theorem ends_luceneValue (v : String) : Ends (luceneValue v).toList := by
  unfold luceneValue
  split
  · simpa [doubleQuoted] using ends_concat (c := '"') (by decide) ('"' :: escapeChar '"' v.toList)
  · next h =>
    have hb := bare_of_needsQuotes (Bool.eq_false_iff.2 h)
    cases hl : v.toList.getLast? with
    | none => exact absurd (List.getLast?_eq_none_iff.1 hl) hb.nonempty
    | some c => exact ⟨c, hl, (hb.marks c (List.mem_of_getLast? hl)).1⟩

theorem not_blank_of_lower {c : Char} (h : isAsciiLower c = true) : isBlank c = false := by
  simp only [isAsciiLower, Bool.and_eq_true, decide_eq_true_eq] at h
  have hlow : 97 ≤ c.toNat := h.1
  have hhigh : c.toNat ≤ 122 := h.2
  exact not_blank_of_printable (by omega) (by omega)

theorem starts_leafText {negated : Bool} {field : Option FieldPath}
    (hf : LuceneTree.FieldReadable field) {body : List Char} (hb : Starts body) :
    Starts (leafText negated field body) := by
  cases negated with
  | true => exact starts_cons (c := '-') (by decide) _
  | false =>
    cases field with
    | none => simpa [leafText, LuceneTree.signText, fieldText] using hb
    | some p =>
      obtain ⟨c, cs, hc, hl⟩ := LuceneTree.head_path (hf p rfl)
      refine ⟨c, ?_, not_blank_of_lower hl⟩
      simp [leafText, LuceneTree.signText, fieldText, hc]

theorem tight_leafText (negated : Bool) {field : Option FieldPath}
    (hf : LuceneTree.FieldReadable field) {body : List Char} (hb : Tight body) :
    Tight (leafText negated field body) :=
  ⟨starts_leafText hf hb.starts, by
    rw [leafText, ← List.append_assoc]
    exact hb.ends.append _⟩

theorem tight_boundText (op v : String) : Tight (boundText op v).toList := by
  unfold boundText
  split
  · simpa using tight_between (c := '[') (d := ']') (by decide) (by decide)
      ((luceneValue v).toList ++ " TO *".toList)
  split
  · simpa using tight_between (c := '{') (d := '}') (by decide) (by decide)
      ((luceneValue v).toList ++ " TO *".toList)
  split
  · simpa using tight_between (c := '[') (d := ']') (by decide) (by decide)
      ("* TO ".toList ++ (luceneValue v).toList)
  · simpa using tight_between (c := '{') (d := '}') (by decide) (by decide)
      ("* TO ".toList ++ (luceneValue v).toList)

/-- The text of a leaf neither starts nor ends with a blank. -/
theorem tight_leaf {datatype : String} {l : Leaf} (h : FromLucene datatype l) :
    Tight (l.toText .lucene (some datatype)).toList := by
  cases h with
  | value negated v hf hv =>
    rw [toText_value datatype negated hf v, toList_leafText]
    exact tight_leafText negated hf ⟨(LuceneTree.opensValue_luceneValue v).starts,
      ends_luceneValue v⟩
  | pattern negated p hf hp =>
    rw [toText_pattern datatype negated hf p, toList_leafText]
    refine tight_leafText negated hf ?_
    simpa [slashed] using tight_between (c := '/') (d := '/') (by decide) (by decide)
      (escapeChar '/' p.toList)
  | bound v hf ho =>
    rw [toText_bound datatype hf ho v, toList_boundText]
    exact tight_leafText false hf (tight_boundText _ v)
  | presence negated hf =>
    rw [toText_presence datatype negated hf, toList_leafText]
    exact tight_leafText negated hf (tight_between (c := '[') (d := ']') (by decide) (by decide)
      "* TO *".toList)

end EventSearch.Query
