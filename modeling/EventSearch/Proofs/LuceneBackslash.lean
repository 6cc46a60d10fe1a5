/-
# `EventSearch.Proofs.LuceneBackslash` — values that no quotes can hold

A value that ends in a backslash escapes the closing mark of its own quotes.  The text of a leaf
with such a value (`Leaf.Unquotable`) is not read, or is read as a tree whose first leaf is another
one (`breaks_leaf`).
-/
import EventSearch.Proofs.LuceneLeafText

namespace EventSearch.Query

open EventSearch.Text

/-! ## Values that cannot be quoted -/

section Diverge

variable {α : Type}

/-- Two lists, of leaves or terms, that differ at a place that both have. -/
def Diverge (as bs : List α) : Prop :=
  ∃ common a b as' bs', a ≠ b ∧ as = common ++ a :: as' ∧ bs = common ++ b :: bs'

theorem diverge_cons {a b : α} (h : a ≠ b) (as bs : List α) :
    Diverge (a :: as) (b :: bs) := ⟨[], a, b, as, bs, h, rfl, rfl⟩

theorem Diverge.ne {as bs : List α} (h : Diverge as bs) : as ≠ bs := by
  obtain ⟨common, a, b, as', bs', hab, rfl, rfl⟩ := h
  intro he
  exact hab (List.cons.inj (List.append_cancel_left he)).1

theorem Diverge.append {as bs : List α} (h : Diverge as bs) (lead as' bs' : List α) :
    Diverge (lead ++ as ++ as') (lead ++ bs ++ bs') := by
  obtain ⟨common, a, b, xs, ys, hab, rfl, rfl⟩ := h
  exact ⟨lead ++ common, a, b, xs ++ as', ys ++ bs', hab, by simp, by simp⟩

end Diverge

/-- The text of a part is not read, or is read as a tree whose leaves differ from those of the
part at a place that both have. -/
def Breaks (datatype : String) (text : List Char) (c : Criteria) : Prop :=
  ∀ fuel tail t rest, text.length ≤ fuel →
    LuceneTree.takeCriterion fuel (text ++ tail) = .ok (t, rest) →
    Diverge (t.compile datatype).leaves c.leaves

namespace LuceneTree

/-- A range from a value that ends in a backslash is read as a range from another value, if at
all. -/
theorem takeBounds?_low_backslash {close : Char} {v : String} (hv : EndsInBackslash v.toList)
    {rest after : List Char} {low high : Operand}
    (h : takeBounds? close ((luceneValue v).toList ++ rest) = some ((low, high), after)) :
    ∃ w, low = .double w ∧ w ≠ v := by
  obtain ⟨a, b, c, d, e, hlow, -⟩ := takeBounds?_eq_some h
  rw [((opensValue_luceneValue v).append rest).starts.skipLayout] at hlow
  exact takeOperand_backslash hv hlow

/-- A range up to a value that ends in a backslash is read up to another value, if at all. -/
theorem takeBounds?_high_backslash {close : Char} {v : String} (hv : EndsInBackslash v.toList)
    {rest after : List Char} {low high : Operand}
    (h : takeBounds? close ('*' :: (" TO ".toList ++ ((luceneValue v).toList ++ rest)))
      = some ((low, high), after)) :
    low = .bare "*" ∧ ∃ w, high = .double w ∧ w ≠ v := by
  obtain ⟨a, b, c, d, e, hlow, hb, hc, hd, hhigh, -⟩ := takeBounds?_eq_some h
  have hs := ((opensValue_luceneValue v).append rest).starts
  have hf : Follows (" TO ".toList ++ ((luceneValue v).toList ++ rest)) := follows_cons (by decide) _
  rw [skipLayout_cons (by decide), takeOperand_star hf] at hlow
  obtain ⟨rfl, rfl⟩ := Prod.mk.inj (Except.ok.inj hlow)
  obtain ⟨b', c', hb', hc', hd'⟩ := takeTo hs
  obtain rfl := Option.some.inj (hb.symm.trans hb')
  obtain rfl := Option.some.inj (hc.symm.trans hc')
  obtain rfl := Option.some.inj (hd.symm.trans hd')
  exact ⟨rfl, takeOperand_backslash hv hhigh⟩

variable {negated : Bool} {field : Option FieldPath} (hf : FieldReadable field)

include hf

theorem head_leafText (negated : Bool) {c : Char} (hc : c ≠ '(') (cs : List Char) :
    ∃ d ds, leafText negated field (c :: cs) = d :: ds ∧ d ≠ '(' := by
  cases negated with
  | true => exact ⟨'-', _, rfl, by decide⟩
  | false =>
    cases field with
    | none => exact ⟨c, cs, by simp [leafText, signText, fieldText], hc⟩
    | some p =>
      obtain ⟨e, text, hp, hl⟩ := head_path (hf p rfl)
      refine ⟨e, text ++ ':' :: c :: cs, by simp [leafText, signText, fieldText, hp], ?_⟩
      rintro rfl
      exact absurd hl (by decide)

/-- What the text of a leaf is read as. -/
theorem takeCriterion_leafText_inv {fuel : Nat} {c : Char} {cs rest : List Char} {t : LuceneTree}
    (hc : c ≠ '(') (hu : Unmarked (c :: cs))
    (h : takeCriterion fuel (leafText negated field (c :: cs)) = .ok (t, rest)) :
    ∃ text term, takeField text = (field, c :: cs) ∧ takeTerm text = .ok (term, rest) ∧
      ∀ datatype, t.compile datatype = term.compile datatype negated := by
  obtain ⟨d, ds, he, hd⟩ := head_leafText hf negated hc cs
  rw [he, takeCriterion_of_ne hd, ← he, takeSigned] at h
  simp only [leafText, takeSign_signText negated hf hu] at h
  split at h
  · cases h
  · next term after ht =>
    cases h
    exact ⟨_, term, takeField_fieldText hf hu, ht, compile_sign negated term⟩

/-- A quoted value that ends in a backslash is read as another value, if at all. -/
theorem breaks_value {datatype v : String} (hv : EndsInBackslash v.toList) :
    Breaks datatype (leafText negated field (luceneValue v).toList)
      (.leaf ⟨qualified datatype field, Term.signedOperator negated "==", some v⟩) := by
  intro fuel tail t rest _ h
  have hq : (luceneValue v).toList ++ tail = '"' :: (escapeChar '"' v.toList ++ '"' :: tail) := by
    simp [luceneValue_backslash hv, doubleQuoted]
  have hu : Unmarked ((luceneValue v).toList ++ tail) := by
    rw [hq]
    exact unmarked_cons (by decide) (by decide) _
  rw [leafText_append, hq] at h
  rw [hq] at hu
  obtain ⟨text, term, hfield, hterm, hc⟩ := takeCriterion_leafText_inv hf (by decide) hu h
  obtain ⟨o, after, modifier, ho, rfl⟩ :=
    takeTerm_value_inv hfield (opensValue_cons (by decide) (by decide) _) hterm
  rw [← hq] at ho
  obtain ⟨w, rfl, hw⟩ := takeOperand_backslash hv ho
  rw [hc]
  simp only [Term.compile, Term.path_eq, Term.field, Criteria.leaves]
  split
  · refine diverge_cons (fun he => ?_) [] []
    cases (Leaf.mk.inj he).2.2
  · refine diverge_cons (fun he => ?_) [] []
    exact hw (Option.some.inj (Leaf.mk.inj he).2.2)

/-- What the text of a range with its ends is read as. -/
theorem takeCriterion_inclusive_inv {datatype : String} {fuel : Nat} {cs rest : List Char}
    {t : LuceneTree}
    (h : takeCriterion fuel (leafText false field ('[' :: cs)) = .ok (t, rest)) :
    ∃ low high, takeBounds? ']' cs = some ((low, high), rest) ∧
      t.compile datatype
        = Term.compileRange (qualified datatype field) ">=" "<=" low high false := by
  obtain ⟨text, term, hfield, hterm, hc⟩ :=
    takeCriterion_leafText_inv hf (by decide) (unmarked_cons (by decide) (by decide) _) h
  obtain ⟨low, high, hr, rfl⟩ := takeTerm_inclusive_inv hfield hterm
  exact ⟨low, high, hr, by rw [hc]; simp only [Term.compile, Term.path_eq, Term.field]⟩

/-- What the text of a range without its ends is read as. -/
theorem takeCriterion_exclusive_inv {datatype : String} {fuel : Nat} {cs rest : List Char}
    {t : LuceneTree}
    (h : takeCriterion fuel (leafText false field ('{' :: cs)) = .ok (t, rest)) :
    ∃ low high, takeBounds? '}' cs = some ((low, high), rest) ∧
      t.compile datatype
        = Term.compileRange (qualified datatype field) ">" "<" low high false := by
  obtain ⟨text, term, hfield, hterm, hc⟩ :=
    takeCriterion_leafText_inv hf (by decide) (unmarked_cons (by decide) (by decide) _) h
  obtain ⟨low, high, hr, rfl⟩ := takeTerm_exclusive_inv hfield hterm
  exact ⟨low, high, hr, by rw [hc]; simp only [Term.compile, Term.path_eq, Term.field]⟩

omit hf in
theorem diverge_low {v w : String} (h : w ≠ v) (path lowOp highOp : String) (high : Operand) :
    Diverge (Term.compileRange path lowOp highOp (.double w) high false).leaves
      [⟨path, lowOp, some v⟩] := by
  have hopen : (Operand.double w).isOpenBound = false := by simp [Operand.isOpenBound]
  obtain ⟨more, hm⟩ := Term.leaves_compileRange_low hopen path lowOp highOp high
  rw [hm]
  exact diverge_cons (fun he => h (Option.some.inj (Leaf.mk.inj he).2.2)) more []

omit hf in
theorem diverge_high {v w : String} (h : w ≠ v) (path lowOp highOp : String) :
    Diverge (Term.compileRange path lowOp highOp (.bare "*") (.double w) false).leaves
      [⟨path, highOp, some v⟩] := by
  have hopen : (Operand.double w).isOpenBound = false := by simp [Operand.isOpenBound]
  obtain ⟨more, hm⟩ := Term.leaves_compileRange_high hopen path lowOp highOp
  rw [hm]
  exact diverge_cons (fun he => h (Option.some.inj (Leaf.mk.inj he).2.2)) more []

/-- A range with an end that ends in a backslash is read with another end, if at all. -/
theorem breaks_bound {datatype op v : String} (ho : op ∈ boundOperators)
    (hv : EndsInBackslash v.toList) :
    Breaks datatype (leafText false field (boundText op v).toList)
      (.leaf ⟨qualified datatype field, op, some v⟩) := by
  intro fuel tail t rest _ h
  rw [leafText_append] at h
  simp only [boundOperators, List.mem_cons, List.not_mem_nil, or_false] at ho
  rcases ho with rfl | rfl | rfl | rfl
  · have hb : (boundText ">=" v).toList ++ tail
        = '[' :: ((luceneValue v).toList ++ (" TO *]".toList ++ tail)) := by simp [boundText]
    rw [hb] at h
    obtain ⟨low, high, hr, hc⟩ := takeCriterion_inclusive_inv hf h
    obtain ⟨w, rfl, hw⟩ := takeBounds?_low_backslash hv hr
    rw [hc]
    exact diverge_low hw (qualified datatype field) ">=" "<=" high
  · have hb : (boundText ">" v).toList ++ tail
        = '{' :: ((luceneValue v).toList ++ (" TO *\x7d".toList ++ tail)) := by simp [boundText]
    rw [hb] at h
    obtain ⟨low, high, hr, hc⟩ := takeCriterion_exclusive_inv hf h
    obtain ⟨w, rfl, hw⟩ := takeBounds?_low_backslash hv hr
    rw [hc]
    exact diverge_low hw (qualified datatype field) ">" "<" high
  · have hb : (boundText "<=" v).toList ++ tail
        = '[' :: ('*' :: (" TO ".toList ++ ((luceneValue v).toList ++ (']' :: tail)))) := by
      simp [boundText]
    rw [hb] at h
    obtain ⟨low, high, hr, hc⟩ := takeCriterion_inclusive_inv hf h
    obtain ⟨rfl, w, rfl, hw⟩ := takeBounds?_high_backslash hv hr
    rw [hc]
    exact diverge_high hw (qualified datatype field) ">=" "<="
  · have hb : (boundText "<" v).toList ++ tail
        = '{' :: ('*' :: (" TO ".toList ++ ((luceneValue v).toList ++ ('}' :: tail)))) := by
      simp [boundText]
    rw [hb] at h
    obtain ⟨low, high, hr, hc⟩ := takeCriterion_exclusive_inv hf h
    obtain ⟨rfl, w, rfl, hw⟩ := takeBounds?_high_backslash hv hr
    rw [hc]
    exact diverge_high hw (qualified datatype field) ">" "<"

end LuceneTree

/-- The text of a leaf whose value cannot be quoted is not read as the leaf. -/
theorem breaks_leaf {datatype : String} {l : Leaf} (h : FromLucene datatype l)
    (hq : l.Unquotable) :
    Breaks datatype (l.toText .lucene (some datatype)).toList (.leaf l) := by
  obtain ⟨hop, w, hw, hb⟩ := hq
  cases h with
  | value negated v hf hv =>
    obtain rfl := Option.some.inj hw
    rw [toText_value datatype negated hf v, toList_leafText]
    exact LuceneTree.breaks_value hf hb
  | pattern negated p hf hp =>
    exact absurd hop (pattern_not_mem negated)
  | bound v hf ho =>
    obtain rfl := Option.some.inj hw
    rw [toText_bound datatype hf ho v, toList_boundText]
    exact LuceneTree.breaks_bound hf ho hb
  | presence negated hf => cases hw

end EventSearch.Query
