/-
# `EventSearch.Proofs.LuceneLeaves` — what a `lucene` query compiles to

The trees that the reader returns are `Sound`: their paths can be read again, their patterns do not
end in a backslash and their bare values are not empty (`sound_of_takeCriteria`).  A sound tree
compiles to solid criteria whose leaves are of four forms (`FromLucene`): a value, a pattern, one
bound of a range, or a test of presence.
-/
import EventSearch.Proofs.CriteriaShape
import EventSearch.Proofs.LuceneReading

namespace EventSearch.Query

open EventSearch.Text

/-! ## Sound trees -/

/-- An operand as the reader makes it. -/
def Operand.Sound : Operand → Prop
  | .pattern p => ¬ EndsInBackslash p.toList
  | .bare raw => raw ≠ ""
  | .single _ | .double _ => True

/-- The values of a term. -/
def Term.operands : Term → List Operand
  | .value _ operand _ => [operand]
  | .inclusive _ low high | .exclusive _ low high => [low, high]

/-- A term as the reader makes it. -/
structure Term.Sound (t : Term) : Prop where
  field : LuceneTree.FieldReadable t.field
  operands : ∀ o ∈ t.operands, o.Sound

/-- The terms of a tree, from left to right. -/
def LuceneTree.terms : LuceneTree → List Term
  | .combine left _ right => left.terms ++ right.terms
  | .signed _ term => [term]
  | .group inner => inner.terms

/-- A tree as the reader makes it. -/
def LuceneTree.Sound (t : LuceneTree) : Prop := ∀ term ∈ t.terms, term.Sound

namespace LuceneTree

theorem fieldReadable_of_takeField {cs rest : List Char} {field : Option FieldPath}
    (h : takeField cs = (field, rest)) : FieldReadable field := by
  intro p hp
  unfold takeField at h
  split at h
  · next q after hq =>
    rw [hp] at h
    obtain rfl := Option.some.inj (Prod.mk.inj h).1
    exact readable_of_takePath? hq
  · rw [hp] at h
    cases (Prod.mk.inj h).1

theorem sound_of_takeBare {cs rest : List Char} {o : Operand}
    (h : takeBare cs = .ok (o, rest)) : o.Sound := by
  obtain ⟨raw, -, rfl, hne, -, -⟩ := takeBare_eq_ok h
  simpa [Operand.Sound] using hne

theorem not_backslash_of_takeEnclosed? {mark : Char} (hm : mark ≠ '\\') {cs rest : List Char}
    {text : String} (h : takeEnclosed? mark cs = some (text, rest)) :
    ¬ EndsInBackslash text.toList := by
  cases cs with
  | nil => cases h
  | cons c cs =>
    by_cases hc : c = mark
    · subst hc
      rw [takeEnclosed?_mark, Option.map_eq_some_iff] at h
      obtain ⟨⟨body, r⟩, hq, hb⟩ := h
      obtain ⟨rfl, rfl⟩ := Prod.mk.inj hb
      simpa using not_backslash_of_takeQuoted? hm hq
    · rw [takeEnclosed?_ne hc] at h
      cases h

theorem sound_of_takeOperand {cs rest : List Char} {o : Operand}
    (h : takeOperand cs = .ok (o, rest)) : o.Sound := by
  unfold takeOperand at h
  split at h
  · cases h; trivial
  · cases h; trivial
  · next he _ _ =>
    cases h
    exact not_backslash_of_takeEnclosed? (by decide) he
  · exact sound_of_takeBare h

theorem sound_of_takeBounds? {close : Char} {cs rest : List Char} {low high : Operand}
    (h : takeBounds? close cs = some ((low, high), rest)) : low.Sound ∧ high.Sound := by
  obtain ⟨a, b, c, d, e, hl, -, -, -, hu, -⟩ := takeBounds?_eq_some h
  exact ⟨sound_of_takeOperand hl, sound_of_takeOperand hu⟩

theorem sound_of_takeRange? {cs rest : List Char} {t : Term}
    (h : takeRange? cs = some (t, rest)) : t.Sound := by
  cases hf : takeField cs with
  | mk field after =>
    have hfield := fieldReadable_of_takeField hf
    simp only [takeRange?, hf] at h
    split at h
    · obtain ⟨⟨⟨low, high⟩, r⟩, hb, he⟩ := Option.map_eq_some_iff.1 h
      obtain ⟨rfl, rfl⟩ := Prod.mk.inj he
      obtain ⟨hl, hh⟩ := sound_of_takeBounds? hb
      exact ⟨hfield, by simp [Term.operands, hl, hh]⟩
    · obtain ⟨⟨⟨low, high⟩, r⟩, hb, he⟩ := Option.map_eq_some_iff.1 h
      obtain ⟨rfl, rfl⟩ := Prod.mk.inj he
      obtain ⟨hl, hh⟩ := sound_of_takeBounds? hb
      exact ⟨hfield, by simp [Term.operands, hl, hh]⟩
    · cases h

theorem sound_of_takeValue {cs rest : List Char} {t : Term}
    (h : takeValue cs = .ok (t, rest)) : t.Sound := by
  cases hf : takeField cs with
  | mk field after =>
    have hfield := fieldReadable_of_takeField hf
    simp only [takeValue, hf] at h
    split at h
    · cases h
    · next o after' ho =>
      cases h
      exact ⟨hfield, by simpa [Term.operands] using sound_of_takeOperand ho⟩

theorem sound_of_takeSigned {cs rest : List Char} {t : LuceneTree}
    (h : takeSigned cs = .ok (t, rest)) : t.Sound := by
  simp only [takeSigned] at h
  split at h
  · cases h
  · next term after ht =>
    cases h
    have hterm : term.Sound := by
      unfold takeTerm at ht
      split at ht
      · next hr => cases ht; exact sound_of_takeRange? hr
      · exact sound_of_takeValue ht
    simpa [LuceneTree.Sound, terms] using hterm

/-! ## What each reader can do -/

theorem takeCriteria_eq_ok {fuel : Nat} {cs rest : List Char} {tree : LuceneTree}
    (h : takeCriteria fuel cs = .ok (tree, rest)) : ∃ n first left, fuel = n + 1 ∧
      takeCriterion n cs = .ok (first, left) ∧ takeChain n first left = (tree, rest) := by
  cases fuel with
  | zero =>
    rw [takeCriteria] at h
    cases h
  | succ fuel =>
    rw [takeCriteria] at h
    split at h
    · cases h
    · next first left hc => exact ⟨fuel, first, left, rfl, hc, Except.ok.inj h⟩

/-- A criterion is a term, or criteria in parentheses. -/
theorem takeCriterion_eq_ok {fuel : Nat} {cs rest : List Char} {tree : LuceneTree}
    (h : takeCriterion fuel cs = .ok (tree, rest)) : takeSigned cs = .ok (tree, rest) ∨
      ∃ n inner left body, fuel = n + 1 ∧ cs = '(' :: body ∧ tree = .group inner ∧
        takeCriteria n (skipLayout body) = .ok (inner, left) ∧ skipLayout left = ')' :: rest := by
  cases cs with
  | nil =>
    rw [takeCriterion_nil] at h
    exact .inl h
  | cons c body =>
    by_cases hc : c = '('
    · subst hc
      cases fuel with
      | zero => exact .inl (by rwa [takeCriterion.eq_def] at h)
      | succ n =>
        rw [takeCriterion_paren] at h
        split at h
        · cases h
        · next inner left hi =>
          split at h
          · next after ha =>
            cases h
            exact .inr ⟨n, inner, left, body, rfl, rfl, rfl, hi, ha⟩
          · cases h
    · rw [takeCriterion_of_ne hc] at h
      exact .inl h

/-- Behind a tree nothing is added, or a connective and a criterion and what they lead to. -/
theorem takeChain_cases {fuel : Nat} {first tree : LuceneTree} {cs rest : List Char}
    (h : takeChain fuel first cs = (tree, rest)) : (first = tree ∧ cs = rest) ∨
      ∃ n op left right after, fuel = n + 1 ∧ takeConnective? cs = some (op, left) ∧
        takeCriterion n left = .ok (right, after) ∧
        takeChain n (.combine first op right) after = (tree, rest) := by
  cases fuel with
  | zero => exact .inl (Prod.mk.inj h)
  | succ n =>
    simp only [takeChain] at h
    split at h
    · exact .inl (Prod.mk.inj h)
    · next op left hc =>
      split at h
      · exact .inl (Prod.mk.inj h)
      · next right after hr => exact .inr ⟨n, op, left, right, after, rfl, hc, hr, h⟩

/-! ## Every tree that is read -/

/-- What holds of a tree and of all that connectives make of it holds of what is read. -/
theorem takeChain_induction {P : LuceneTree → Prop}
    (step : ∀ {left op right}, P left → P (.combine left op right)) {fuel : Nat}
    {first tree : LuceneTree} {cs rest : List Char} (h : takeChain fuel first cs = (tree, rest))
    (hfirst : P first) : P tree := by
  induction fuel generalizing first cs with
  | zero => exact (Prod.mk.inj h).1 ▸ hfirst
  | succ fuel ih =>
    rcases takeChain_cases h with ⟨rfl, -⟩ | ⟨n, op, left, right, after, hn, -, -, hchain⟩
    · exact hfirst
    · obtain rfl := Nat.succ.inj hn
      exact ih hchain (step hfirst)

/-- What is known of all trees that are read. -/
structure TreesRead (P : LuceneTree → Prop) (fuel : Nat) : Prop where
  criteria : ∀ {cs rest : List Char} {tree : LuceneTree},
    takeCriteria fuel cs = .ok (tree, rest) → P tree
  chain : ∀ {cs rest : List Char} {first tree : LuceneTree},
    takeChain fuel first cs = (tree, rest) → P first → P tree
  criterion : ∀ {cs rest : List Char} {tree : LuceneTree},
    takeCriterion fuel cs = .ok (tree, rest) → P tree

/-- What holds of every term with its sign, and of what connectives and parentheses make of trees,
holds of every tree that is read. -/
theorem reading_induction {P : LuceneTree → Prop}
    (signed : ∀ {cs t rest}, takeSigned cs = .ok (t, rest) → P t)
    (combine : ∀ {l op r}, P l → P r → P (.combine l op r)) (group : ∀ {i}, P i → P (.group i))
    (fuel : Nat) : TreesRead P fuel := by
  induction fuel using Nat.strongRecOn with
  | ind fuel ih =>
    constructor
    case criteria =>
      intro cs rest tree h
      obtain ⟨n, first, left, rfl, hc, hchain⟩ := takeCriteria_eq_ok h
      have hn := ih n (Nat.lt_succ_self n)
      exact hn.chain hchain (hn.criterion hc)
    case chain =>
      intro cs rest first tree h hfirst
      rcases takeChain_cases h with ⟨rfl, -⟩ | ⟨n, op, left, right, after, rfl, -, hr, hchain⟩
      · exact hfirst
      · have hn := ih n (Nat.lt_succ_self n)
        exact hn.chain hchain (combine hfirst (hn.criterion hr))
    case criterion =>
      intro cs rest tree h
      rcases takeCriterion_eq_ok h with h | ⟨n, inner, left, body, rfl, -, rfl, hi, -⟩
      · exact signed h
      · exact group ((ih n (Nat.lt_succ_self n)).criteria hi)

theorem sound_of_takeCriteria {fuel : Nat} {cs rest : List Char} {t : LuceneTree}
    (h : takeCriteria fuel cs = .ok (t, rest)) : t.Sound := by
  refine (reading_induction (P := LuceneTree.Sound) sound_of_takeSigned ?_ ?_ fuel).criteria h
  · intro l op r hl hr term ht
    exact (List.mem_append.1 ht).elim (hl term) (hr term)
  · exact fun hi => hi

theorem sound_of_read {s : String} {t : LuceneTree} (h : read s = .ok t) : t.Sound := by
  simp only [read] at h
  split at h
  · cases h
  · next tree rest hr =>
    split at h
    · cases h; exact sound_of_takeCriteria hr
    · cases h

end LuceneTree

/-! ## Leaves -/

/-- The path that a field stands for. -/
def qualified (datatype : String) (field : Option FieldPath) : String :=
  datatype ++ "." ++ (field.map (·.toText)).getD anyField

theorem Term.path_eq (datatype : String) (t : Term) : t.path datatype = qualified datatype t.field := by
  unfold Term.path qualified
  split <;> simp [*]

/-- The order operators of the ends of a range. -/
def boundOperators : List String := [">=", ">", "<=", "<"]

/-- The leaves of compiled `lucene` queries. -/
inductive FromLucene (datatype : String) : Leaf → Prop
  /-- A comparison with a value.  A negated one with the empty value is a test of absence. -/
  | value (negated : Bool) {field : Option FieldPath} (v : String)
      (hf : LuceneTree.FieldReadable field) (hv : negated = true → v ≠ "") :
      FromLucene datatype ⟨qualified datatype field, Term.signedOperator negated "==", some v⟩
  | pattern (negated : Bool) {field : Option FieldPath} (p : String)
      (hf : LuceneTree.FieldReadable field) (hp : ¬ EndsInBackslash p.toList) :
      FromLucene datatype ⟨qualified datatype field, Term.signedOperator negated "~", some p⟩
  | bound {field : Option FieldPath} {op : String} (v : String)
      (hf : LuceneTree.FieldReadable field) (ho : op ∈ boundOperators) :
      FromLucene datatype ⟨qualified datatype field, op, some v⟩
  | presence (negated : Bool) {field : Option FieldPath} (hf : LuceneTree.FieldReadable field) :
      FromLucene datatype ⟨qualified datatype field, Term.signedOperator negated "==", none⟩

namespace Term

theorem signedOperator_mem (negated : Bool) {op : String} (h : op ∈ boundOperators) :
    signedOperator negated op ∈ boundOperators := by
  simp only [boundOperators, List.mem_cons, List.not_mem_nil, or_false] at h
  rcases h with rfl | rfl | rfl | rfl <;> cases negated <;> decide

/-- A search pattern made of wildcards ends in a dollar sign. -/
theorem not_backslash_globPattern (o : Operand) : ¬ EndsInBackslash o.globPattern.toList := by
  rw [EndsInBackslash, Operand.globPattern, String.toList_ofList, BareText.globPattern,
    List.getLast?_concat]
  decide

theorem text_ne_empty {o : Operand} (h : o.Sound) (he : o.isEmptyText = false)
    (hp : ∀ p, o ≠ .pattern p) : o.text ≠ "" := by
  cases o with
  | single s => simpa [Operand.isEmptyText, Operand.text, Operand.raw] using he
  | double s => simpa [Operand.isEmptyText, Operand.text, Operand.raw] using he
  | pattern p => exact absurd rfl (hp p)
  | bare raw =>
    have hr : raw.toList ≠ [] := by simpa [Operand.Sound] using h
    simpa [Operand.text] using BareText.resolved_ne_nil hr

theorem leaves_boundLeaves {datatype : String} {field : Option FieldPath}
    (hf : LuceneTree.FieldReadable field) (negated : Bool) {op : String}
    (ho : op ∈ boundOperators) (bound : Operand) :
    ∀ c ∈ boundLeaves (qualified datatype field) negated op bound,
      ∃ l, c = .leaf l ∧ FromLucene datatype l := by
  intro c hc
  unfold boundLeaves at hc
  split at hc
  · cases hc
  · obtain rfl := List.mem_singleton.1 hc
    exact ⟨_, rfl, .bound _ hf (signedOperator_mem negated ho)⟩

theorem compileRange_leaves {datatype : String} {field : Option FieldPath}
    (hf : LuceneTree.FieldReadable field) {lowOp highOp : String} (hl : lowOp ∈ boundOperators)
    (hh : highOp ∈ boundOperators) (low high : Operand) (negated : Bool) :
    (compileRange (qualified datatype field) lowOp highOp low high negated).Solid ∧
      ∀ l ∈ (compileRange (qualified datatype field) lowOp highOp low high negated).leaves,
        FromLucene datatype l := by
  have hall : ∀ c ∈ boundLeaves (qualified datatype field) negated lowOp low ++
      boundLeaves (qualified datatype field) negated highOp high,
      ∃ l, c = .leaf l ∧ FromLucene datatype l := by
    intro c hc
    rcases List.mem_append.1 hc with hc | hc
    · exact leaves_boundLeaves hf negated hl low c hc
    · exact leaves_boundLeaves hf negated hh high c hc
  unfold compileRange
  split
  · cases negated with
    | true =>
      refine ⟨.leaf _, fun l hm => ?_⟩
      obtain rfl : l = _ := by simpa [Criteria.absent, Criteria.leaves] using hm
      exact .presence true hf
    | false =>
      refine ⟨.leaf _, fun l hm => ?_⟩
      obtain rfl : l = _ := by simpa [Criteria.present, Criteria.leaves] using hm
      exact .presence false hf
  · next leaves hne =>
    generalize boundLeaves (qualified datatype field) negated lowOp low ++
      boundLeaves (qualified datatype field) negated highOp high = leaves at *
    have hne : leaves ≠ [] := fun he => hne he
    have hsolid : ∀ c ∈ leaves, c.Solid := by
      intro c hc
      obtain ⟨l, rfl, -⟩ := hall c hc
      exact .leaf l
    have hform : ∀ l ∈ leaves.flatMap Criteria.leaves, FromLucene datatype l := by
      intro l hm
      obtain ⟨c, hc, hl⟩ := List.mem_flatMap.1 hm
      obtain ⟨l', rfl, hl'⟩ := hall c hc
      obtain rfl : l = l' := by simpa [Criteria.leaves] using hl
      exact hl'
    split
    · exact ⟨.anyOf hne hsolid, by simpa using hform⟩
    · exact ⟨.allOf hne hsolid, by simpa using hform⟩

/-- The leaf of a single value. -/
theorem comparison_fromLucene {datatype : String} {field : Option FieldPath}
    (hf : LuceneTree.FieldReadable field) {o : Operand} (ho : o.Sound) (negated : Bool)
    (he : (negated && o.isEmptyText) = false) :
    FromLucene datatype ⟨qualified datatype field, signedOperator negated (comparison o).1,
      some (comparison o).2⟩ := by
  have hne : (∀ p, o ≠ .pattern p) → negated = true → o.text ≠ "" := by
    intro hp hn
    refine text_ne_empty ho ?_ hp
    simpa [hn] using he
  unfold comparison
  split
  · next p => exact .pattern negated p hf ho
  · next hp =>
    split
    · exact .pattern negated _ hf (not_backslash_globPattern o)
    · exact .value negated _ hf (hne hp)

/-- A sound term compiles to solid criteria with leaves of the four forms. -/
theorem compile_leaves {t : Term} (h : t.Sound) (datatype : String) (negated : Bool) :
    (t.compile datatype negated).Solid ∧
      ∀ l ∈ (t.compile datatype negated).leaves, FromLucene datatype l := by
  have hf := h.field
  cases t with
  | value field o modifier =>
    have ho : o.Sound := h.operands o (by simp [operands])
    simp only [compile, path_eq, Term.field]
    split
    · refine ⟨.leaf _, fun l hm => ?_⟩
      obtain rfl : l = _ := by simpa [Criteria.absent, Criteria.leaves] using hm
      exact .presence true hf
    · next he =>
      refine ⟨.leaf _, fun l hm => ?_⟩
      obtain rfl : l = _ := by simpa [Criteria.test, Criteria.leaves] using hm
      exact comparison_fromLucene hf ho negated (Bool.eq_false_iff.2 he)
  | inclusive field low high =>
    simp only [compile, path_eq, Term.field]
    exact compileRange_leaves hf (by decide) (by decide) low high negated
  | exclusive field low high =>
    simp only [compile, path_eq, Term.field]
    exact compileRange_leaves hf (by decide) (by decide) low high negated

end Term

/-- A sound tree compiles to solid criteria with leaves of the four forms. -/
theorem LuceneTree.compile_leaves {t : LuceneTree} (h : t.Sound) (datatype : String) :
    (t.compile datatype).Solid ∧ ∀ l ∈ (t.compile datatype).leaves, FromLucene datatype l := by
  induction t with
  | combine left op right ihl ihr =>
    obtain ⟨hls, hll⟩ := ihl fun term ht => h term (List.mem_append_left _ ht)
    obtain ⟨hrs, hrl⟩ := ihr fun term ht => h term (List.mem_append_right _ ht)
    have hmem : ∀ l ∈ (left.compile datatype).leaves ++ (right.compile datatype).leaves,
        FromLucene datatype l := fun l hm => (List.mem_append.1 hm).elim (hll l) (hrl l)
    cases op with
    | and => exact ⟨hls.and hrs, by simpa [compile] using hmem⟩
    | or => exact ⟨hls.or hrs, by simpa [compile] using hmem⟩
  | signed sign term =>
    exact Term.compile_leaves (h term (by simp [terms])) datatype _
  | group inner ih => exact ih h

end EventSearch.Query
