/-
# `EventSearch.Proofs.CriterionContinued` — a `criterion` query with more text behind it

A query that is read whole is read the same way in front of a further conjunct or of a closing
parenthesis (`Continues`), whatever its values are: what is not a value at the end of a text is none
in front of more.  All five readers are followed at once, by induction on the fuel (`readsOn`); what
they leave, together with the text behind it, has to start with a mark that ends their level of the
grammar (`Closes`).
-/
import EventSearch.Proofs.CriterionLeaves
import EventSearch.Proofs.LuceneCriteriaContinued

namespace EventSearch.Query.CriterionTree

open EventSearch.Text

/-! ## Texts that follow -/

/-- Text that may be put behind a query. -/
def Continues (more : List Char) : Prop :=
  (∃ cs, more = ' ' :: '&' :: '&' :: cs) ∨ ∃ cs, more = ')' :: cs

/-- Behind some layout stands one of several marks. -/
def Closes (marks cs : List Char) : Prop := ∃ c, (skipLayout cs).head? = some c ∧ c ∈ marks

theorem Closes.mono {marks marks' cs : List Char} (h : Closes marks cs)
    (hm : marks.all (marks'.contains ·) = true) : Closes marks' cs := by
  obtain ⟨c, hc, hmem⟩ := h
  exact ⟨c, hc, List.contains_iff_mem.1 (List.all_eq_true.1 hm c hmem)⟩

theorem Closes.append {marks cs : List Char} (h : Closes marks cs) (more : List Char) :
    Closes marks (cs ++ more) := by
  obtain ⟨c, hc, hmem⟩ := h
  have hne : skipLayout cs ≠ [] := by
    intro hn
    rw [hn] at hc
    cases hc
  exact ⟨c, by rw [skipLayout_continued hne, List.head?_append, hc]; rfl, hmem⟩

theorem Continues.closes {more : List Char} (h : Continues more) : Closes ['&', ')'] more := by
  obtain ⟨cs, rfl⟩ | ⟨cs, rfl⟩ := h
  · exact ⟨'&', by simp [skipLayout_space, skipLayout_cons (c := '&') (by decide)], by decide⟩
  · exact ⟨')', by simp [skipLayout_cons (c := ')') (by decide)], by decide⟩

/-- The first character of such a text ends a name, an operator and a value. -/
theorem Continues.head {more : List Char} (h : Continues more) :
    ∃ c cs, more = c :: cs ∧ c ∈ [' ', ')'] := by
  obtain ⟨cs, rfl⟩ | ⟨cs, rfl⟩ := h
  · exact ⟨' ', _, rfl, by decide⟩
  · exact ⟨')', _, rfl, by decide⟩

theorem Continues.not_mem {more lead : List Char} (h : Continues more)
    (hl : ' ' ∉ lead ∧ ')' ∉ lead) : ∀ c ∈ more.head?, c ∉ lead := by
  obtain ⟨d, cs, rfl, hd⟩ := h.head
  intro c hc
  obtain rfl := Option.some.inj hc
  simp only [List.mem_cons, List.not_mem_nil, or_false] at hd
  rcases hd with rfl | rfl
  · exact hl.1
  · exact hl.2

/-! ## Tests -/

/-- Marks that a path does not go on with. -/
def pathMarks : List Char := ['!', '<', '>', '~', '=', '&', '|', ')']

theorem Closes.endsPath {cs : List Char} (h : Closes pathMarks cs) : EndsPath cs := by
  obtain ⟨c, hc, hm⟩ := h
  have hhead : ∀ d, cs.head? = some d → isLayout d = true ∨ d ∈ pathMarks := by
    intro d hd
    obtain ⟨ds, rfl⟩ : ∃ ds, cs = d :: ds := by
      cases cs with
      | nil => cases hd
      | cons e ds => exact ⟨ds, by rw [Option.some.inj hd]⟩
    cases hl : isLayout d with
    | true => exact .inl rfl
    | false =>
      rw [skipLayout_cons hl] at hc
      exact .inr (Option.some.inj hc ▸ hm)
  have hmark : ∀ d, isLayout d = true ∨ d ∈ pathMarks →
      (isSegmentChar d = false ∧ d ≠ '(') ∧ d ≠ '.' := by
    intro d hd
    simp only [isLayout, Bool.or_eq_true, decide_eq_true_eq, pathMarks, List.mem_cons,
      List.not_mem_nil, or_false] at hd
    rcases hd with (((rfl | rfl) | rfl) | rfl) | rfl | rfl | rfl | rfl | rfl | rfl | rfl | rfl <;>
      decide
  exact ⟨fun d hd => (hmark d (hhead d hd)).1, fun hd => (hmark '.' (hhead '.' hd)).2 rfl⟩

theorem takeOperator?_of_closes {cs : List Char} (h : Closes ['&', '|', ')'] cs) :
    takeOperator? (skipLayout cs) = none := by
  obtain ⟨c, hc, hm⟩ := h
  obtain ⟨ds, hs⟩ : ∃ ds, skipLayout cs = c :: ds := by
    cases hs : skipLayout cs with
    | nil =>
      rw [hs] at hc
      cases hc
    | cons e ds =>
      rw [hs] at hc
      exact ⟨ds, by rw [Option.some.inj hc]⟩
  rw [hs]
  simp only [List.mem_cons, List.not_mem_nil, or_false] at hm
  rcases hm with rfl | rfl | rfl <;> rfl

theorem findSome?_after?_continued {more : List Char} {ops : List String}
    (h : ∀ op ∈ ops, ∀ c ∈ more.head?, c ∉ op.toList) (cs : List Char) :
    (ops.findSome? fun op => (after? op.toList (cs ++ more)).map (op, ·)) =
      (ops.findSome? fun op => (after? op.toList cs).map (op, ·)).map fun p => (p.1, p.2 ++ more) := by
  induction ops with
  | nil => rfl
  | cons op ops ih =>
    have ih := ih fun o ho => h o (List.mem_cons_of_mem op ho)
    simp only [List.findSome?_cons, after?_continued (h op List.mem_cons_self)]
    cases after? op.toList cs with
    | none => exact ih
    | some rest => rfl

theorem takeOperator?_continued {more : List Char} (hm : Continues more) (cs : List Char) :
    takeOperator? (cs ++ more) = (takeOperator? cs).map fun p => (p.1, p.2 ++ more) := by
  refine findSome?_after?_continued (fun op ho => hm.not_mem ?_) cs
  simp only [operators, List.mem_cons, List.not_mem_nil, or_false] at ho
  rcases ho with rfl | rfl | rfl | rfl | rfl | rfl | rfl | rfl | rfl | rfl | rfl | rfl | rfl |
    rfl | rfl <;> decide

/-- An operator starts with a mark that a path does not go on with. -/
theorem closes_of_takeOperator? {cs rest : List Char} {op : String}
    (h : takeOperator? (skipLayout cs) = some (op, rest)) : Closes pathMarks cs := by
  obtain ⟨op', hm, ha⟩ := List.exists_of_findSome?_eq_some h
  obtain ⟨after, ha, -⟩ := Option.map_eq_some_iff.1 ha
  have hcs := after?_eq_some.1 ha
  rw [Closes, hcs]
  simp only [operators, List.mem_cons, List.not_mem_nil, or_false] at hm
  rcases hm with rfl | rfl | rfl | rfl | rfl | rfl | rfl | rfl | rfl | rfl | rfl | rfl | rfl |
    rfl | rfl <;> exact ⟨_, rfl, by decide⟩

theorem takeQuoted?_continued {mark : Char} (hm : mark ≠ '\\') {cs text rest : List Char}
    (h : takeQuoted? mark cs = some (text, rest)) (more : List Char) :
    takeQuoted? mark (cs ++ more) = some (text, rest ++ more) := by
  fun_induction takeQuoted? mark cs generalizing text rest with
  | case1 => cases h
  | case2 c cs hc ih =>
    obtain ⟨⟨t, after⟩, ht, he⟩ := Option.map_eq_some_iff.1 h
    obtain ⟨rfl, rfl⟩ := Prod.mk.inj he
    simp [takeQuoted?, hc, ih ht]
  | case3 c cs hc ih =>
    obtain ⟨⟨t, after⟩, ht, he⟩ := Option.map_eq_some_iff.1 h
    obtain ⟨rfl, rfl⟩ := Prod.mk.inj he
    have ih := ih ht
    rw [List.cons_append] at ih
    simp [takeQuoted?, hc, ih]
  | case4 cs hs =>
    obtain ⟨rfl, rfl⟩ := Prod.mk.inj (Option.some.inj h)
    simp [takeQuoted?, hm]
  | case5 c cs hs hc ih =>
    obtain ⟨⟨t, after⟩, ht, he⟩ := Option.map_eq_some_iff.1 h
    obtain ⟨rfl, rfl⟩ := Prod.mk.inj he
    cases cs with
    | nil => simp [takeQuoted?] at ht
    | cons d cs =>
      have hb : c ≠ '\\' := fun he => hs d cs he rfl
      have ih := ih ht
      rw [List.cons_append] at ih
      simp [takeQuoted?, hc, hb, ih]

theorem takeValue?_continued {more : List Char} (hm : Continues more) {cs text rest : List Char}
    (h : takeValue? cs = some (text, rest)) :
    takeValue? (cs ++ more) = some (text, rest ++ more) := by
  cases cs with
  | nil => cases h
  | cons c cs =>
    rw [List.cons_append]
    simp only [takeValue?] at h ⊢
    split at h
    · next hc =>
      have hb : c ≠ '\\' := by
        rintro rfl
        exact absurd hc (by decide)
      rw [if_pos hc]
      exact takeQuoted?_continued hb h more
    · next hc =>
      rw [if_neg hc]
      obtain ⟨d, ds, rfl, hd⟩ := hm.head
      have hvalue : isValueChar d = false := by
        simp only [List.mem_cons, List.not_mem_nil, or_false] at hd
        rcases hd with rfl | rfl <;> decide
      obtain ⟨htake, hdrop⟩ := takeWhile_stop hvalue (c :: cs) ds
      rw [List.cons_append] at htake hdrop
      rw [htake, hdrop]
      split at h
      · cases h
      · next he =>
        obtain ⟨rfl, rfl⟩ := Prod.mk.inj (Option.some.inj h)
        rw [if_neg he]

theorem takeAbsent?_eq_some {cs rest : List Char} {t : CriterionTree}
    (h : takeAbsent? cs = some (t, rest)) : ∃ body path, cs = '!' :: body ∧
      takePath? (skipLayout body) = some (path, rest) ∧
      t = .compare (String.ofList path) "!=" none := by
  unfold takeAbsent? at h
  split at h
  · next body =>
    obtain ⟨⟨path, after⟩, hp, he⟩ := Option.map_eq_some_iff.1 h
    obtain ⟨rfl, rfl⟩ := Prod.mk.inj he
    exact ⟨body, path, rfl, hp, rfl⟩
  · cases h

theorem takeComparison?_eq_some {cs rest : List Char} {t : CriterionTree}
    (h : takeComparison? cs = some (t, rest)) : ∃ path left op after value,
      takePath? cs = some (path, left) ∧ takeOperator? (skipLayout left) = some (op, after) ∧
      takeValue? (skipLayout after) = some (value, rest) ∧
      t = .compare (String.ofList path) op (some (String.ofList value)) := by
  simp only [takeComparison?, Option.bind_eq_bind, Option.bind_eq_some_iff, Option.pure_def,
    Option.some.injEq, Prod.exists, Prod.mk.injEq] at h
  obtain ⟨path, left, hp, op, after, ho, value, _, hv, rfl, rfl⟩ := h
  exact ⟨path, left, op, after, value, hp, ho, hv, rfl⟩

/-- A path is read the same where neither it nor what follows it goes on. -/
theorem takePath?_continued {cs path rest more : List Char}
    (h : takePath? cs = some (path, rest)) (hr : EndsPath (rest ++ more)) :
    takePath? (cs ++ more) = some (path, rest ++ more) := by
  obtain ⟨hpath, rfl⟩ := takePath?_join h
  rw [List.append_assoc]
  exact takePath?_append hpath hr

theorem takeTest?_continued {more : List Char} (hm : Continues more) {cs rest : List Char}
    {t : CriterionTree} (h : takeTest? cs = some (t, rest))
    (hc : Closes ['&', '|', ')'] (rest ++ more)) :
    takeTest? (cs ++ more) = some (t, rest ++ more) := by
  have hends : EndsPath (rest ++ more) := (hc.mono (by decide)).endsPath
  -- a test that starts with a path is none of absence
  have hbang {path left : List Char} (hp : takePath? cs = some (path, left)) :
      takeAbsent? (cs ++ more) = none := by
    obtain ⟨hpath, rfl⟩ := takePath?_join hp
    rw [List.append_assoc]
    exact not_bang hpath (left ++ more)
  rcases Option.or_eq_some_iff.1 h with ha | ⟨-, h⟩
  · obtain ⟨body, path, rfl, hp, rfl⟩ := takeAbsent?_eq_some ha
    have hne : skipLayout body ≠ [] := by
      intro hn
      rw [hn] at hp
      cases hp
    simp [takeTest?, takeAbsent?, skipLayout_continued hne, takePath?_continued hp hends]
  rcases Option.or_eq_some_iff.1 h with hcomp | ⟨-, hp⟩
  · obtain ⟨path, left, op, after, value, hp, ho, hv, rfl⟩ := takeComparison?_eq_some hcomp
    have hleft := closes_of_takeOperator? ho
    have hlne : skipLayout left ≠ [] := by
      intro hn
      obtain ⟨c, hc, -⟩ := hleft
      rw [hn] at hc
      cases hc
    have hane : skipLayout after ≠ [] := by
      intro hn
      rw [hn] at hv
      cases hv
    have hp' := takePath?_continued hp (hleft.append more).endsPath
    simp [takeTest?, hbang hp, takeComparison?, hp', skipLayout_continued hlne,
      takeOperator?_continued hm, ho, skipLayout_continued hane, takeValue?_continued hm hv]
  · obtain ⟨⟨path, left⟩, hpath, he⟩ := Option.map_eq_some_iff.1 hp
    obtain ⟨rfl, rfl⟩ := Prod.mk.inj he
    have hp' := takePath?_continued hpath hends
    simp [takeTest?, hbang hpath, takeComparison?, hp', takeOperator?_of_closes hc, takePresent?]

/-! ## Symbols -/

theorem closes_of_takeSymbol? {c : Char} {symbol cs rest : List Char}
    (h : LuceneTree.takeSymbol? (c :: symbol) cs = some rest) : Closes [c] cs := by
  obtain ⟨after, ha, -⟩ := Option.map_eq_some_iff.1 h
  exact ⟨c, by rw [after?_eq_some.1 ha]; rfl, List.mem_singleton.2 rfl⟩

theorem takeSymbol?_of_closes {c : Char} {marks symbol cs : List Char} (h : Closes marks cs)
    (hc : c ∉ marks) : LuceneTree.takeSymbol? (c :: symbol) cs = none := by
  cases hs : LuceneTree.takeSymbol? (c :: symbol) cs with
  | none => rfl
  | some rest =>
    obtain ⟨d, hd, hm⟩ := closes_of_takeSymbol? hs
    obtain ⟨e, he, hmem⟩ := h
    obtain rfl := Option.some.inj (hd.symm.trans he)
    rw [List.mem_singleton.1 hm] at hmem
    exact absurd hmem hc

/-- A symbol with something behind it is read the same in front of more text. -/
theorem takeSymbol?_continued {more : List Char} (hm : Continues more) {c : Char}
    (hc : c ∈ ['&', '|']) {cs rest : List Char} (h : LuceneTree.takeSymbol? [c, c] cs = some rest)
    (hr : rest ≠ []) : LuceneTree.takeSymbol? [c, c] (cs ++ more) = some (rest ++ more) := by
  have hne : skipLayout cs ≠ [] := by
    intro hn
    obtain ⟨d, hd, -⟩ := closes_of_takeSymbol? h
    rw [hn] at hd
    cases hd
  refine LuceneTree.takeSymbol?_continued (hm.not_mem ?_) h hne hr
  simp only [List.mem_cons, List.not_mem_nil, or_false] at hc
  rcases hc with rfl | rfl <;> decide

/-! ## Expressions -/

theorem takeAndChain_of_closes {rest : List Char} (h : Closes ['|', ')'] rest) (fuel : Nat)
    (tree : CriterionTree) : takeAndChain fuel tree rest = (tree, rest) := by
  cases fuel with
  | zero => rfl
  | succ fuel => simp [takeAndChain, takeSymbol?_of_closes (c := '&') h (by decide)]

theorem takeOrChain_of_closes {rest : List Char} (h : Closes ['&', ')'] rest) (fuel : Nat)
    (tree : CriterionTree) : takeOrChain fuel tree rest = (tree, rest) := by
  cases fuel with
  | zero => rfl
  | succ fuel => simp [takeOrChain, takeSymbol?_of_closes (c := '|') h (by decide)]

theorem ne_nil_of_takePrimary? {fuel : Nat} {cs : List Char} {r : CriterionTree × List Char}
    (h : takePrimary? fuel cs = some r) : cs ≠ [] := by
  rintro rfl
  rw [takePrimary?_nil] at h
  cases h

theorem ne_nil_of_takeAnd? {fuel : Nat} {cs : List Char} {r : CriterionTree × List Char}
    (h : takeAnd? fuel cs = some r) : cs ≠ [] := by
  obtain ⟨n, first, left, -, hp, -⟩ := takeAnd?_eq_some h
  exact ne_nil_of_takePrimary? hp

theorem ne_nil_of_takeOr? {fuel : Nat} {cs : List Char} {r : CriterionTree × List Char}
    (h : takeOr? fuel cs = some r) : cs ≠ [] := by
  obtain ⟨n, first, left, -, ha, -⟩ := takeOr?_eq_some h
  exact ne_nil_of_takeAnd? ha

theorem closes_of_takeAndChain {fuel : Nat} {first tree : CriterionTree} {cs rest : List Char}
    (h : takeAndChain fuel first cs = (tree, rest)) {more : List Char}
    (hc : Closes ['|', ')'] (rest ++ more)) : Closes ['&', '|', ')'] (cs ++ more) := by
  rcases takeAndChain_cases h with ⟨-, rfl⟩ | ⟨n, left, right, after, -, hs, -⟩
  · exact hc.mono (by decide)
  · exact ((closes_of_takeSymbol? hs).append more).mono (by decide)

theorem closes_of_takeOrChain {fuel : Nat} {first tree : CriterionTree} {cs rest : List Char}
    (h : takeOrChain fuel first cs = (tree, rest)) {more : List Char}
    (hc : Closes [')'] (rest ++ more)) : Closes ['|', ')'] (cs ++ more) := by
  rcases takeOrChain_cases h with ⟨-, rfl⟩ | ⟨n, left, right, after, -, hs, -⟩
  · exact hc.mono (by decide)
  · exact ((closes_of_takeSymbol? hs).append more).mono (by decide)

/-- How expressions are read when more follows them. -/
structure ReadsOn (more : List Char) (fuel : Nat) : Prop where
  primary : ∀ {cs rest : List Char} {tree : CriterionTree},
    takePrimary? fuel cs = some (tree, rest) → Closes ['&', '|', ')'] (rest ++ more) →
      ∀ k, fuel ≤ k → takePrimary? k (cs ++ more) = some (tree, rest ++ more)
  andChain : ∀ {cs rest : List Char} {first tree : CriterionTree},
    takeAndChain fuel first cs = (tree, rest) → Closes ['|', ')'] (rest ++ more) →
      ∀ k, fuel ≤ k → takeAndChain k first (cs ++ more) = (tree, rest ++ more)
  and : ∀ {cs rest : List Char} {tree : CriterionTree},
    takeAnd? fuel cs = some (tree, rest) → Closes ['|', ')'] (rest ++ more) →
      ∀ k, fuel ≤ k → takeAnd? k (cs ++ more) = some (tree, rest ++ more)
  orChain : ∀ {cs rest : List Char} {first tree : CriterionTree},
    takeOrChain fuel first cs = (tree, rest) → Closes [')'] (rest ++ more) →
      ∀ k, fuel ≤ k → takeOrChain k first (cs ++ more) = (tree, rest ++ more)
  or : ∀ {cs rest : List Char} {tree : CriterionTree},
    takeOr? fuel cs = some (tree, rest) → Closes [')'] (rest ++ more) →
      ∀ k, fuel ≤ k → takeOr? k (cs ++ more) = some (tree, rest ++ more)

/-- A test is a primary with any fuel. -/
theorem takePrimary?_of_takeTest? {cs : List Char} {r : CriterionTree × List Char}
    (h : takeTest? cs = some r) (fuel : Nat) : takePrimary? fuel cs = some r := by
  cases cs with
  | nil => rw [takePrimary?_nil, h]
  | cons c cs =>
    by_cases hc : c = '('
    · subst hc
      have hp : takePath? ('(' :: cs) = none := by
        simp [takePath?, takeSegment?, isAsciiLetter, isAsciiLower, isAsciiUpper]
      simp [takeTest?, takeAbsent?, takeComparison?, takePresent?, hp] at h
    · rw [takePrimary?_of_ne hc, h]

/-- An expression in parentheses: its own closing parenthesis ends it, whatever follows it. -/
theorem ReadsOn.group {more : List Char} {fuel k : Nat} (ih : ReadsOn more fuel)
    {body left rest : List Char} {tree : CriterionTree}
    (h : takeOr? fuel (skipLayout body) = some (tree, left)) (hl : skipLayout left = ')' :: rest)
    (hk : fuel ≤ k) : takePrimary? (k + 1) ('(' :: body ++ more) = some (tree, rest ++ more) := by
  have hclose : Closes [')'] left := ⟨')', by rw [hl]; rfl, List.mem_singleton.2 rfl⟩
  have hleft : skipLayout left ≠ [] := by simp [hl]
  rw [List.cons_append, takePrimary?_paren, skipLayout_continued (ne_nil_of_takeOr? h),
    ih.or h (hclose.append more) k hk]
  simp only [skipLayout_continued hleft, hl, List.cons_append]

/-- Expressions are read the same when more follows. -/
theorem readsOn {more : List Char} (hm : Continues more) (fuel : Nat) : ReadsOn more fuel := by
  -- each level of the grammar costs one unit of the fuel, and a test costs none
  induction fuel using Nat.strongRecOn with
  | ind fuel ih =>
    refine { primary := ?primary, andChain := ?andChain, and := ?and, orChain := ?orChain, or := ?or }
    case primary =>
      intro cs rest tree h hc k hk
      rcases takePrimary?_eq_some h with ht | ⟨n, left, body, rfl, rfl, ho, hl⟩
      · exact takePrimary?_of_takeTest? (takeTest?_continued hm ht hc) k
      · obtain ⟨k, rfl⟩ : ∃ j, k = j + 1 := ⟨k - 1, by omega⟩
        exact (ih n (Nat.lt_succ_self n)).group ho hl (by omega)
    case andChain =>
      intro cs rest first tree h hc k hk
      rcases takeAndChain_cases h with ⟨rfl, rfl⟩ | ⟨n, left, right, after, rfl, hs, hp, hchain⟩
      · exact takeAndChain_of_closes hc k first
      · obtain ⟨k, rfl⟩ : ∃ j, k = j + 1 := ⟨k - 1, by omega⟩
        have hs' := takeSymbol?_continued hm (by decide) hs (ne_nil_of_takePrimary? hp)
        have hp' := (ih n (Nat.lt_succ_self n)).primary hp (closes_of_takeAndChain hchain hc) k
          (by omega)
        simp only [takeAndChain, hs', Option.bind_some, hp']
        exact (ih n (Nat.lt_succ_self n)).andChain hchain hc k (by omega)
    case and =>
      intro cs rest tree h hc k hk
      obtain ⟨n, first, left, rfl, hp, hchain⟩ := takeAnd?_eq_some h
      obtain ⟨k, rfl⟩ : ∃ j, k = j + 1 := ⟨k - 1, by omega⟩
      have hp' := (ih n (Nat.lt_succ_self n)).primary hp (closes_of_takeAndChain hchain hc) k
        (by omega)
      have hchain' := (ih n (Nat.lt_succ_self n)).andChain hchain hc k (by omega)
      simp only [takeAnd?, hp', Option.map_some, hchain']
    case orChain =>
      intro cs rest first tree h hc k hk
      rcases takeOrChain_cases h with ⟨rfl, rfl⟩ | ⟨n, left, right, after, rfl, hs, ha, hchain⟩
      · exact takeOrChain_of_closes (hc.mono (by decide)) k first
      · obtain ⟨k, rfl⟩ : ∃ j, k = j + 1 := ⟨k - 1, by omega⟩
        have hs' := takeSymbol?_continued hm (by decide) hs (ne_nil_of_takeAnd? ha)
        have ha' := (ih n (Nat.lt_succ_self n)).and ha (closes_of_takeOrChain hchain hc) k
          (by omega)
        simp only [takeOrChain, hs', Option.bind_some, ha']
        exact (ih n (Nat.lt_succ_self n)).orChain hchain hc k (by omega)
    case or =>
      intro cs rest tree h hc k hk
      obtain ⟨n, first, left, rfl, ha, hchain⟩ := takeOr?_eq_some h
      obtain ⟨k, rfl⟩ : ∃ j, k = j + 1 := ⟨k - 1, by omega⟩
      have ha' := (ih n (Nat.lt_succ_self n)).and ha (closes_of_takeOrChain hchain hc) k (by omega)
      have hchain' := (ih n (Nat.lt_succ_self n)).orChain hchain hc k (by omega)
      simp only [takeOr?, ha', Option.map_some, hchain']

/-! ## The outermost level -/

/-- What stands behind a conjunct of a query that was read whole. -/
theorem Continues.closes_of_takeAndChain {more : List Char} (hm : Continues more) {fuel : Nat}
    {first tree : CriterionTree} {cs : List Char} (h : takeAndChain fuel first cs = (tree, [])) :
    Closes ['&', '|', ')'] (cs ++ more) := by
  rcases takeAndChain_cases h with ⟨-, rfl⟩ | ⟨_, _, _, _, -, hs, -⟩
  · exact hm.closes.mono (by decide)
  · exact ((closes_of_takeSymbol? hs).append more).mono (by decide)

/-- Behind conjuncts that were read whole, reading goes on with their tree; every step of it costs
one unit of the fuel, as before. -/
theorem takeAndChain_continued {more : List Char} (hm : Continues more) {fuel : Nat}
    {cs : List Char} {first tree : CriterionTree} (h : takeAndChain fuel first cs = (tree, [])) :
    ∃ n ≤ fuel, ∀ k, fuel ≤ k → takeAndChain k first (cs ++ more) = takeAndChain (k - n) tree more := by
  induction fuel generalizing first cs with
  | zero =>
    obtain ⟨rfl, rfl⟩ := Prod.mk.inj (show (first, cs) = (tree, []) from h)
    exact ⟨0, Nat.le_refl 0, fun k _ => rfl⟩
  | succ fuel ih =>
    rcases takeAndChain_cases h with ⟨rfl, rfl⟩ | ⟨n, left, right, after, hn, hs, hp, hchain⟩
    · exact ⟨0, Nat.zero_le _, fun k _ => rfl⟩
    · obtain rfl := Nat.succ.inj hn
      obtain ⟨n, hn, hk⟩ := ih hchain
      refine ⟨n + 1, Nat.succ_le_succ hn, fun k hle => ?_⟩
      obtain ⟨k, rfl⟩ : ∃ j, k = j + 1 := ⟨k - 1, by omega⟩
      have hs' := takeSymbol?_continued hm (by decide) hs (ne_nil_of_takePrimary? hp)
      have hp' := (readsOn hm fuel).primary hp (hm.closes_of_takeAndChain hchain) k (by omega)
      simp only [takeAndChain, hs', Option.bind_some, hp']
      rw [hk k (by omega), Nat.add_sub_add_right]

theorem takeAnd?_continued {more : List Char} (hm : Continues more) {fuel : Nat}
    {cs : List Char} {tree : CriterionTree} (h : takeAnd? fuel cs = some (tree, [])) :
    ∃ n ≤ fuel, ∀ k, fuel ≤ k → takeAnd? k (cs ++ more) = some (takeAndChain (k - n) tree more) := by
  obtain ⟨m, first, left, rfl, hp, hchain⟩ := takeAnd?_eq_some h
  obtain ⟨n, hn, hk⟩ := takeAndChain_continued hm hchain
  refine ⟨n + 1, Nat.succ_le_succ hn, fun k hle => ?_⟩
  obtain ⟨k, rfl⟩ : ∃ j, k = j + 1 := ⟨k - 1, by omega⟩
  have hp' := (readsOn hm m).primary hp (hm.closes_of_takeAndChain hchain) k (by omega)
  simp only [takeAnd?, hp', Option.map_some]
  rw [hk k (by omega), Nat.add_sub_add_right]

/-- A query in parentheses is read as a primary. -/
theorem takePrimary?_group {more : List Char} {fuel : Nat} {cs : List Char} {tree : CriterionTree}
    (h : takeOr? fuel cs = some (tree, [])) (hs : Starts cs) (k : Nat) (hk : fuel ≤ k) :
    takePrimary? (k + 1) ('(' :: (cs ++ ')' :: more)) = some (tree, more) := by
  have hclose : Closes [')'] (')' :: more) :=
    ⟨')', by simp [skipLayout_cons (c := ')') (by decide)], List.mem_singleton.2 rfl⟩
  have hread := (readsOn (.inr ⟨more, rfl⟩) fuel).or h hclose k hk
  rw [takePrimary?_paren, (hs.append _).skipLayout, hread]
  simp [skipLayout_cons (c := ')') (by decide)]

end EventSearch.Query.CriterionTree
