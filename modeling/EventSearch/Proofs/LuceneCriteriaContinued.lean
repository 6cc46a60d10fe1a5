/-
# `EventSearch.Proofs.LuceneCriteriaContinued` — whole queries with more text behind them

A connective that a criterion follows is read the same in front of more text
(`takeConnective?_continued`), and so are the criteria of a group, up to their closing parenthesis
(`readsOn`, by induction on the fuel for all three readers at once).  On the outermost level
reading goes on where it ended before: with the tree of the query, in front of what was put behind
it (`takeCriteria_continued`).
-/
import EventSearch.Proofs.LuceneContinued

namespace EventSearch.Query.LuceneTree

open EventSearch.Text

/-! ## Connectives -/

section Connectives

variable {cs rest more word : List Char}

theorem takeSymbol?_continued {symbol : List Char} (hs : ∀ c ∈ more.head?, c ∉ symbol)
    (h : takeSymbol? symbol cs = some rest) (hne : skipLayout cs ≠ []) (hr : rest ≠ []) :
    takeSymbol? symbol (cs ++ more) = some (rest ++ more) := by
  obtain ⟨after, ha, rfl⟩ := Option.map_eq_some_iff.1 h
  simp only [takeSymbol?, skipLayout_continued hne more, after?_continued hs, ha, Option.map_some,
    skipLayout_continued hr more]

theorem takeSymbol?_none_continued {symbol : List Char} (hs : ∀ c ∈ more.head?, c ∉ symbol)
    (h : takeSymbol? symbol cs = none) (hne : skipLayout cs ≠ []) :
    takeSymbol? symbol (cs ++ more) = none := by
  have ha : after? symbol (skipLayout cs) = none := Option.map_eq_none_iff.1 h
  simp only [takeSymbol?, skipLayout_continued hne more, after?_continued hs, ha, Option.map_none]

/-- What a keyword leaves: an opening parenthesis, or what is behind some layout. -/
theorem takeKeyword?_eq (word cs : List Char) : takeKeyword? word cs =
    (after? word (skipLayout cs)).bind fun rest =>
      if rest.head? = some '(' then some rest else takeLayout? rest := by
  unfold takeKeyword?
  congr 1
  funext rest
  cases rest with
  | nil => rfl
  | cons c rest =>
    by_cases hc : c = '('
    · subst hc
      rfl
    · simp [hc]

theorem takeKeyword?_continued (hs : ∀ c ∈ more.head?, c ∉ word)
    (h : takeKeyword? word cs = some rest) (hne : skipLayout cs ≠ []) (hr : rest ≠ []) :
    takeKeyword? word (cs ++ more) = some (rest ++ more) := by
  rw [takeKeyword?_eq] at h ⊢
  obtain ⟨after, ha, hafter⟩ := Option.bind_eq_some_iff.1 h
  simp only [skipLayout_continued hne more, after?_continued hs, ha, Option.map_some,
    Option.bind_some]
  split at hafter
  · next hp =>
    obtain rfl := Option.some.inj hafter
    rw [if_pos (by simp [List.head?_append, hp])]
  · next hp =>
    have hane : after ≠ [] := by
      rintro rfl
      cases hafter
    obtain ⟨c, after, rfl⟩ := List.exists_cons_of_ne_nil hane
    rw [if_neg (by simpa using hp)]
    exact takeLayout?_continued hafter hr more

/-- A keyword at the very end of a text is the only one that more text could bring about. -/
theorem takeKeyword?_none_continued (hs : ∀ c ∈ more.head?, c ∉ word)
    (h : takeKeyword? word cs = none) (hne : skipLayout cs ≠ []) (hw : skipLayout cs ≠ word) :
    takeKeyword? word (cs ++ more) = none := by
  rw [takeKeyword?_eq] at h ⊢
  simp only [skipLayout_continued hne more, after?_continued hs]
  cases ha : after? word (skipLayout cs) with
  | none => rfl
  | some after =>
    rw [ha] at h
    simp only [Option.bind_some, Option.map_some] at h ⊢
    cases after with
    | nil => exact absurd (by simpa using after?_eq_some.1 ha) hw
    | cons c after =>
      split at h
      · cases h
      · next hp =>
        rw [if_neg (by simpa using hp)]
        exact takeLayout?_none_continued h more

end Connectives

/-- What stands for a connective, in the order in which it is looked for. -/
theorem takeConnective?_eq_some {cs rest : List Char} {op : Connective}
    (h : takeConnective? cs = some (op, rest)) :
    (op = .and ∧ takeSymbol? ['&', '&'] cs = some rest) ∨
    (op = .or ∧ takeSymbol? ['&', '&'] cs = none ∧ takeSymbol? ['|', '|'] cs = some rest) ∨
    (op = .and ∧ takeSymbol? ['&', '&'] cs = none ∧ takeSymbol? ['|', '|'] cs = none ∧
      takeKeyword? ['A', 'N', 'D'] cs = some rest) ∨
    (op = .or ∧ takeSymbol? ['&', '&'] cs = none ∧ takeSymbol? ['|', '|'] cs = none ∧
      takeKeyword? ['A', 'N', 'D'] cs = none ∧ takeKeyword? ['O', 'R'] cs = some rest) ∨
    (op = .and ∧ takeSymbol? ['&', '&'] cs = none ∧ takeSymbol? ['|', '|'] cs = none ∧
      takeKeyword? ['A', 'N', 'D'] cs = none ∧ takeKeyword? ['O', 'R'] cs = none ∧
      takeLayout? cs = some rest) := by
  simp only [takeConnective?, Option.or_eq_some_iff, Option.map_eq_some_iff,
    Option.map_eq_none_iff, Prod.mk.injEq] at h
  rcases h with ⟨_, h, rfl, rfl⟩ | ⟨hamp, ⟨_, h, rfl, rfl⟩ | ⟨hbar, ⟨_, h, rfl, rfl⟩ |
    ⟨hand, ⟨_, h, rfl, rfl⟩ | ⟨hor, _, h, rfl, rfl⟩⟩⟩⟩
  · exact .inl ⟨rfl, h⟩
  · exact .inr (.inl ⟨rfl, hamp, h⟩)
  · exact .inr (.inr (.inl ⟨rfl, hamp, hbar, h⟩))
  · exact .inr (.inr (.inr (.inl ⟨rfl, hamp, hbar, hand, h⟩)))
  · exact .inr (.inr (.inr (.inr ⟨rfl, hamp, hbar, hand, hor, h⟩)))

/-- Text is left in front of a connective. -/
theorem skipLayout_ne_nil_of_takeConnective? {cs rest : List Char} {op : Connective}
    (h : takeConnective? cs = some (op, rest)) (hr : rest ≠ []) : skipLayout cs ≠ [] := by
  intro hs
  rcases takeConnective?_eq_some h with ⟨-, h⟩ | ⟨-, -, h⟩ | ⟨-, -, -, h⟩ | ⟨-, -, -, -, h⟩ |
    ⟨-, -, -, -, -, h⟩
  · rw [takeSymbol?, hs] at h
    cases h
  · rw [takeSymbol?, hs] at h
    cases h
  · rw [takeKeyword?, hs] at h
    cases h
  · rw [takeKeyword?, hs] at h
    cases h
  · exact hr ((takeLayout?_eq_some h).1 ▸ hs)

theorem takeConnective?_continued {cs rest more : List Char} {op : Connective} (hm : Continues more)
    (h : takeConnective? cs = some (op, rest)) (hr : rest ≠ []) (hand : rest ≠ ['A', 'N', 'D'])
    (hor : rest ≠ ['O', 'R']) : takeConnective? (cs ++ more) = some (op, rest ++ more) := by
  have hs {lead : List Char} (hl : ' ' ∉ lead ∧ ')' ∉ lead) : ∀ c ∈ more.head?, c ∉ lead := by
    intro c hc
    have := hm.head hc
    simp only [List.mem_cons, List.not_mem_nil, or_false] at this
    rcases this with rfl | rfl
    · exact hl.1
    · exact hl.2
  have hamp := hs (show ' ' ∉ ['&', '&'] ∧ ')' ∉ ['&', '&'] by decide)
  have hbar := hs (show ' ' ∉ ['|', '|'] ∧ ')' ∉ ['|', '|'] by decide)
  have hAnd := hs (show ' ' ∉ ['A', 'N', 'D'] ∧ ')' ∉ ['A', 'N', 'D'] by decide)
  have hOr := hs (show ' ' ∉ ['O', 'R'] ∧ ')' ∉ ['O', 'R'] by decide)
  have hne := skipLayout_ne_nil_of_takeConnective? h hr
  rcases takeConnective?_eq_some h with ⟨rfl, h1⟩ | ⟨rfl, h1, h2⟩ | ⟨rfl, h1, h2, h3⟩ |
    ⟨rfl, h1, h2, h3, h4⟩ | ⟨rfl, h1, h2, h3, h4, h5⟩
  · simp [takeConnective?, takeSymbol?_continued hamp h1 hne hr]
  · simp [takeConnective?, takeSymbol?_none_continued hamp h1 hne,
      takeSymbol?_continued hbar h2 hne hr]
  · simp [takeConnective?, takeSymbol?_none_continued hamp h1 hne,
      takeSymbol?_none_continued hbar h2 hne, takeKeyword?_continued hAnd h3 hne hr]
  · have hw : skipLayout cs ≠ ['A', 'N', 'D'] := by
      intro hw
      rw [takeKeyword?, hw] at h4
      cases h4
    simp [takeConnective?, takeSymbol?_none_continued hamp h1 hne,
      takeSymbol?_none_continued hbar h2 hne, takeKeyword?_none_continued hAnd h3 hne hw,
      takeKeyword?_continued hOr h4 hne hr]
  · obtain rfl := (takeLayout?_eq_some h5).1
    simp [takeConnective?, takeSymbol?_none_continued hamp h1 hne,
      takeSymbol?_none_continued hbar h2 hne, takeKeyword?_none_continued hAnd h3 hne hand,
      takeKeyword?_none_continued hOr h4 hne hor, takeLayout?_continued h5 hr]

/-! ## Criteria -/

/-- Nothing is left but a closing parenthesis and what is behind it. -/
def Shut (rest : List Char) : Prop := ∃ after, skipLayout rest = ')' :: after

theorem Shut.append {rest : List Char} (h : Shut rest) (more : List Char) :
    Shut (rest ++ more) := by
  obtain ⟨after, ha⟩ := h
  exact ⟨after ++ more, by rw [skipLayout_continued (by simp [ha]), ha]; rfl⟩

theorem takeCriterion_close (fuel : Nat) (cs : List Char) :
    takeCriterion fuel (')' :: cs) = .error (')' :: cs) := by
  rw [takeCriterion_of_ne (by decide), takeSigned_bracket (by decide)]

@[simp] theorem takeChain_nil (fuel : Nat) (tree : LuceneTree) :
    takeChain fuel tree [] = (tree, []) := by
  cases fuel <;> rfl

/-- In front of a closing parenthesis nothing is added. -/
theorem takeChain_shut {rest : List Char} (h : Shut rest) (fuel : Nat) (tree : LuceneTree) :
    takeChain fuel tree rest = (tree, rest) := by
  obtain ⟨after, ha⟩ := h
  cases fuel with
  | zero => rfl
  | succ fuel =>
    simp only [takeChain]
    split
    · rfl
    · next op left hc =>
      have hleft : left = ')' :: after := by
        rcases takeConnective?_eq_some hc with ⟨-, h⟩ | ⟨-, -, h⟩ | ⟨-, -, -, h⟩ | ⟨-, -, -, -, h⟩ |
          ⟨-, -, -, -, -, h⟩
        · rw [takeSymbol?, ha] at h
          cases h
        · rw [takeSymbol?, ha] at h
          cases h
        · rw [takeKeyword?, ha] at h
          cases h
        · rw [takeKeyword?, ha] at h
          cases h
        · rw [← (takeLayout?_eq_some h).1, ha]
      rw [hleft, takeCriterion_close]

theorem followsTerm_of_shut {rest : List Char} (h : Shut rest) : FollowsTerm rest := by
  obtain ⟨after, ha⟩ := h
  intro c hc hm
  obtain ⟨cs, rfl⟩ : ∃ cs, rest = c :: cs := by
    cases rest with
    | nil => cases hc
    | cons d cs => exact ⟨cs, by rw [Option.some.inj hc]⟩
  have hl : isLayout c = false := by
    simp only [List.mem_cons, List.not_mem_nil, or_false] at hm
    rcases hm with rfl | rfl | rfl <;> decide
  rw [skipLayout_cons hl] at ha
  rw [(List.cons.inj ha).1] at hm
  exact absurd hm (by decide)

/-- No connective starts as a longer term would go on. -/
theorem followsTerm_of_takeConnective? {cs rest : List Char} {op : Connective}
    (h : takeConnective? cs = some (op, rest)) : FollowsTerm cs := by
  intro c hc hm
  obtain ⟨cs, rfl⟩ : ∃ ds, cs = c :: ds := by
    cases cs with
    | nil => cases hc
    | cons d ds => exact ⟨ds, by rw [Option.some.inj hc]⟩
  simp only [List.mem_cons, List.not_mem_nil, or_false] at hm
  have hl : isLayout c = false := by
    rcases hm with rfl | rfl | rfl <;> decide
  have hn : takeConnective? (c :: cs) = none := by
    rcases hm with rfl | rfl | rfl <;>
      simp [takeConnective?, takeSymbol?, takeKeyword?, takeLayout?, skipLayout_cons hl, after?]
  rw [hn] at h
  cases h

theorem followsTerm_of_takeChain {fuel : Nat} {first tree : LuceneTree} {cs rest : List Char}
    (h : takeChain fuel first cs = (tree, rest)) (hr : rest = [] ∨ Shut rest) :
    FollowsTerm cs := by
  have hrest : FollowsTerm rest := by
    rcases hr with rfl | hr
    · exact fun c hc => by cases hc
    · exact followsTerm_of_shut hr
  rcases takeChain_cases h with ⟨-, rfl⟩ | ⟨n, op, left, right, after, -, hc, -⟩
  · exact hrest
  · exact followsTerm_of_takeConnective? hc

theorem Firm.left {more : List Char} {left right : LuceneTree} {op : Connective}
    (h : (LuceneTree.combine left op right).Firm more) : left.Firm more :=
  fun t ht => h t (List.mem_append_left _ ht)

theorem Firm.right {more : List Char} {left right : LuceneTree} {op : Connective}
    (h : (LuceneTree.combine left op right).Firm more) : right.Firm more :=
  fun t ht => h t (List.mem_append_right _ ht)

/-- What connectives add to a tree that is firm afterwards was added to a firm one. -/
theorem firm_of_takeChain {more : List Char} {fuel : Nat} {first tree : LuceneTree}
    {cs rest : List Char} (h : takeChain fuel first cs = (tree, rest)) (hf : tree.Firm more) :
    first.Firm more :=
  takeChain_induction (P := fun t => t.Firm more → first.Firm more) (fun ih hc => ih hc.left) h
    id hf

/-- Neither an empty text nor the word of a connective is a criterion. -/
theorem takeCriterion_word {word : List Char} (h : word ∈ [[], ['A', 'N', 'D'], ['O', 'R']])
    (fuel : Nat) (r : LuceneTree × List Char) : takeCriterion fuel word ≠ .ok r := by
  intro hr
  simp only [List.mem_cons, List.not_mem_nil, or_false] at h
  rcases h with rfl | rfl | rfl
  · rw [takeCriterion_nil] at hr
    cases hr
  · rw [takeCriterion_of_ne (by decide)] at hr
    cases hr
  · rw [takeCriterion_of_ne (by decide)] at hr
    cases hr

/-- A connective and the criterion behind it, with more text behind that. -/
theorem takeConnective?_of_takeCriterion {more : List Char} (hm : Continues more)
    {fuel : Nat} {op : Connective} {cs left : List Char} {r : LuceneTree × List Char}
    (hc : takeConnective? cs = some (op, left)) (hr : takeCriterion fuel left = .ok r) :
    takeConnective? (cs ++ more) = some (op, left ++ more) := by
  have hword {word : List Char} (hw : word ∈ [[], ['A', 'N', 'D'], ['O', 'R']]) : left ≠ word := by
    rintro rfl
    exact takeCriterion_word hw fuel r hr
  exact takeConnective?_continued hm hc (hword (by decide)) (hword (by decide)) (hword (by decide))

/-- How criteria are read when more follows them. -/
structure ReadsOn (more : List Char) (fuel : Nat) : Prop where
  criterion : ∀ {cs rest : List Char} {tree : LuceneTree},
    takeCriterion fuel cs = .ok (tree, rest) → tree.Firm more → FollowsTerm rest →
      (rest = [] → tree.EndsBefore more) → ∀ k, fuel ≤ k →
        takeCriterion k (cs ++ more) = .ok (tree, rest ++ more)
  chain : ∀ {cs rest : List Char} {first tree : LuceneTree},
    takeChain fuel first cs = (tree, rest) → tree.Firm more → Shut rest → ∀ k, fuel ≤ k →
      takeChain k first (cs ++ more) = (tree, rest ++ more)
  criteria : ∀ {cs rest : List Char} {tree : LuceneTree},
    takeCriteria fuel cs = .ok (tree, rest) → tree.Firm more → Shut rest → ∀ k, fuel ≤ k →
      takeCriteria k (cs ++ more) = .ok (tree, rest ++ more)

theorem takeCriteria_succ (fuel : Nat) (cs : List Char) :
    takeCriteria (fuel + 1) cs = (takeCriterion fuel cs).map fun p => takeChain fuel p.1 p.2 := by
  rw [takeCriteria]
  cases takeCriterion fuel cs <;> rfl

/-- A chain that stops in front of a closing parenthesis did not start at the end of the text. -/
theorem ne_nil_of_takeChain {fuel : Nat} {first tree : LuceneTree} {cs rest : List Char}
    (h : takeChain fuel first cs = (tree, rest)) (hs : Shut rest) : cs ≠ [] := by
  rintro rfl
  rw [takeChain_nil] at h
  obtain ⟨-, rfl⟩ := Prod.mk.inj h
  obtain ⟨_, ha⟩ := hs
  cases ha

/-- A criterion that the rest of a chain follows. -/
theorem ReadsOn.linked {more : List Char} {fuel n k : Nat} (ih : ReadsOn more fuel)
    {cs left rest : List Char} {first start tree : LuceneTree}
    (h : takeCriterion fuel cs = .ok (first, left)) (hf : first.Firm more)
    (hchain : takeChain n start left = (tree, rest)) (hs : Shut rest) (hk : fuel ≤ k) :
    takeCriterion k (cs ++ more) = .ok (first, left ++ more) :=
  ih.criterion h hf (followsTerm_of_takeChain hchain (.inr hs))
    (fun he => absurd he (ne_nil_of_takeChain hchain hs)) k hk

/-- Criteria in parentheses: their own closing parenthesis ends them, whatever follows it. -/
theorem ReadsOn.group {more : List Char} {fuel k : Nat} (ih : ReadsOn more fuel)
    {body left rest : List Char} {inner : LuceneTree}
    (h : takeCriteria fuel (skipLayout body) = .ok (inner, left)) (hf : inner.Firm more)
    (hl : skipLayout left = ')' :: rest) (hk : fuel ≤ k) :
    takeCriterion (k + 1) ('(' :: body ++ more) = .ok (.group inner, rest ++ more) := by
  have hbody : skipLayout body ≠ [] := by
    intro hb
    obtain ⟨n, _, _, -, hc, -⟩ := takeCriteria_eq_ok h
    exact takeCriterion_word (by rw [hb]; decide) n _ hc
  have hleft : skipLayout left ≠ [] := by simp [hl]
  rw [List.cons_append, takeCriterion_paren, skipLayout_continued hbody,
    ih.criteria h hf ⟨rest, hl⟩ k hk]
  simp only [skipLayout_continued hleft, hl, List.cons_append]

/-- Criteria that are firm are read the same when more follows. -/
theorem readsOn {more : List Char} (hm : Continues more) (fuel : Nat) : ReadsOn more fuel := by
  -- each level of the grammar costs one unit of the fuel, and a term with its sign costs none
  induction fuel using Nat.strongRecOn with
  | ind fuel ih =>
    constructor
    case criterion =>
      intro cs rest tree h hf hr he k hk
      rcases takeCriterion_eq_ok h with h | ⟨n, inner, left, body, rfl, rfl, rfl, hi, hl⟩
      · exact takeCriterion_of_takeSigned (takeSigned_continued hm h hf hr he) k
      · obtain ⟨k, rfl⟩ : ∃ j, k = j + 1 := ⟨k - 1, by omega⟩
        exact (ih n (Nat.lt_succ_self n)).group hi hf hl (by omega)
    case chain =>
      intro cs rest first tree h hf hs k hk
      rcases takeChain_cases h with ⟨rfl, rfl⟩ | ⟨n, op, left, right, after, rfl, hc, hr, hchain⟩
      · exact takeChain_shut (hs.append more) k first
      · obtain ⟨k, rfl⟩ : ∃ j, k = j + 1 := ⟨k - 1, by omega⟩
        have hn := ih n (Nat.lt_succ_self n)
        have hfirm := firm_of_takeChain hchain hf
        have hr' := hn.linked hr hfirm.right hchain hs (show n ≤ k by omega)
        simp only [takeChain, takeConnective?_of_takeCriterion hm hc hr, hr']
        exact hn.chain hchain hf hs k (by omega)
    case criteria =>
      intro cs rest tree h hf hs k hk
      obtain ⟨n, first, left, rfl, hc, hchain⟩ := takeCriteria_eq_ok h
      obtain ⟨k, rfl⟩ : ∃ j, k = j + 1 := ⟨k - 1, by omega⟩
      have hn := ih n (Nat.lt_succ_self n)
      have hc' := hn.linked hc (firm_of_takeChain hchain hf) hchain hs (show n ≤ k by omega)
      rw [takeCriteria_succ, hc']
      exact congrArg Except.ok (hn.chain hchain hf hs k (by omega))

/-! ## The outermost level -/

/-- Behind a query that was read whole, reading goes on with its tree; every step of it costs one
unit of the fuel, as before. -/
theorem takeChain_continued {more : List Char} (hm : Continues more) {fuel : Nat}
    {cs : List Char} {first tree : LuceneTree} (h : takeChain fuel first cs = (tree, []))
    (hf : tree.Firm more) (he : tree.EndsBefore more) : ∃ n ≤ fuel, ∀ k, fuel ≤ k →
      takeChain k first (cs ++ more) = takeChain (k - n) tree more := by
  induction fuel using Nat.strongRecOn generalizing first cs with
  | ind fuel ih =>
    rcases takeChain_cases h with ⟨rfl, rfl⟩ | ⟨m, op, left, right, after, rfl, hc, hr, hchain⟩
    · exact ⟨0, Nat.zero_le _, fun k _ => rfl⟩
    · have hends (hn : after = []) : right.EndsBefore more := by
        rw [hn, takeChain_nil] at hchain
        obtain ⟨rfl, -⟩ := Prod.mk.inj hchain
        exact he
      have hr' := (readsOn hm m).criterion hr (firm_of_takeChain hchain hf).right
        (followsTerm_of_takeChain hchain (.inl rfl)) hends
      obtain ⟨n, hn, hk⟩ := ih m (Nat.lt_succ_self m) hchain
      refine ⟨n + 1, Nat.succ_le_succ hn, fun k hle => ?_⟩
      obtain ⟨k, rfl⟩ : ∃ j, k = j + 1 := ⟨k - 1, by omega⟩
      simp only [takeChain, takeConnective?_of_takeCriterion hm hc hr, hr' k (by omega)]
      rw [hk k (by omega), Nat.add_sub_add_right]

theorem takeCriteria_continued {more : List Char} (hm : Continues more) {fuel : Nat}
    {cs : List Char} {tree : LuceneTree} (h : takeCriteria fuel cs = .ok (tree, []))
    (hf : tree.Firm more) (he : tree.EndsBefore more) : ∃ n ≤ fuel, ∀ k, fuel ≤ k →
      takeCriteria k (cs ++ more) = .ok (takeChain (k - n) tree more) := by
  obtain ⟨m, first, left, rfl, hc, hchain⟩ := takeCriteria_eq_ok h
  have hends (hn : left = []) : first.EndsBefore more := by
    rw [hn, takeChain_nil] at hchain
    obtain ⟨rfl, -⟩ := Prod.mk.inj hchain
    exact he
  have hc' := (readsOn hm m).criterion hc (firm_of_takeChain hchain hf)
    (followsTerm_of_takeChain hchain (.inl rfl)) hends
  obtain ⟨n, hn, hk⟩ := takeChain_continued hm hchain hf he
  refine ⟨n + 1, Nat.succ_le_succ hn, fun k hle => ?_⟩
  obtain ⟨k, rfl⟩ : ∃ j, k = j + 1 := ⟨k - 1, by omega⟩
  rw [takeCriteria_succ, hc' k (by omega), Nat.add_sub_add_right]
  exact congrArg Except.ok (hk k (by omega))

/-- A query in parentheses is read as a group. -/
theorem takeCriterion_group {more : List Char} {fuel : Nat} {cs : List Char} {tree : LuceneTree}
    (h : takeCriteria fuel cs = .ok (tree, [])) (hs : Starts cs) (hf : tree.Firm (')' :: more))
    (he : tree.EndsBefore (')' :: more)) (k : Nat) (hk : fuel ≤ k) :
    takeCriterion (k + 1) ('(' :: (cs ++ ')' :: more)) = .ok (.group tree, more) := by
  have hm : Continues (')' :: more) := ⟨')', more, rfl, by decide⟩
  have hshut : skipLayout (')' :: more) = ')' :: more := skipLayout_cons (by decide) more
  obtain ⟨n, -, hread⟩ := takeCriteria_continued hm h hf he
  rw [takeCriterion_paren, (hs.append _).skipLayout, hread k hk, takeChain_shut ⟨more, hshut⟩]
  simp only [hshut]

end EventSearch.Query.LuceneTree
