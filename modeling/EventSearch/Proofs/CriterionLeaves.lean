/-
# `EventSearch.Proofs.CriterionLeaves` — what a `criterion` query compiles to

The trees that the reader returns are `Sound`: their paths are paths of the grammar and their
operators those of its list (`sound_of_read`).  Without translations a sound tree compiles to solid
criteria whose leaves compare a path with a value or test its presence (`FromCriterion`).
-/
import EventSearch.Proofs.CriteriaShape
import EventSearch.Proofs.CriterionReading

namespace EventSearch.Query

open EventSearch.Text

namespace CriterionTree

/-! ## Sound trees -/

/-- The operators of tests with a value, or without one. -/
def operatorsFor : Option String → List String
  | none => ["==", "!="]
  | some _ => operators

/-- A tree as the reader makes it. -/
def Sound : CriterionTree → Prop
  | .compare path operator value => IsPath path.toList ∧ operator ∈ operatorsFor value
  | .and left right | .or left right => left.Sound ∧ right.Sound

theorem mem_operators {cs rest : List Char} {op : String}
    (h : takeOperator? cs = some (op, rest)) : op ∈ operators := by
  obtain ⟨op', hm, ha⟩ := List.exists_of_findSome?_eq_some h
  obtain ⟨after, -, he⟩ := Option.map_eq_some_iff.1 ha
  rwa [(Prod.mk.inj he).1] at hm

theorem sound_of_takeAbsent? {cs rest : List Char} {t : CriterionTree}
    (h : takeAbsent? cs = some (t, rest)) : t.Sound := by
  unfold takeAbsent? at h
  split at h
  · obtain ⟨⟨path, after⟩, hp, he⟩ := Option.map_eq_some_iff.1 h
    obtain ⟨rfl, rfl⟩ := Prod.mk.inj he
    exact ⟨by simpa using (takePath?_join hp).1, by decide⟩
  · cases h

theorem sound_of_takeComparison? {cs rest : List Char} {t : CriterionTree}
    (h : takeComparison? cs = some (t, rest)) : t.Sound := by
  simp only [takeComparison?, Option.bind_eq_bind, Option.bind_eq_some_iff, Option.pure_def,
    Option.some.injEq, Prod.exists, Prod.mk.injEq] at h
  obtain ⟨path, _, hp, op, _, ho, _, _, -, rfl, -⟩ := h
  exact ⟨by simpa using (takePath?_join hp).1, mem_operators ho⟩

theorem sound_of_takePresent? {cs rest : List Char} {t : CriterionTree}
    (h : takePresent? cs = some (t, rest)) : t.Sound := by
  obtain ⟨⟨path, after⟩, hp, he⟩ := Option.map_eq_some_iff.1 h
  obtain ⟨rfl, rfl⟩ := Prod.mk.inj he
  exact ⟨by simpa using (takePath?_join hp).1, by decide⟩

theorem sound_of_takeTest? {cs rest : List Char} {t : CriterionTree}
    (h : takeTest? cs = some (t, rest)) : t.Sound := by
  rcases Option.or_eq_some_iff.1 h with ha | ⟨-, h⟩
  · exact sound_of_takeAbsent? ha
  rcases Option.or_eq_some_iff.1 h with hc | ⟨-, hp⟩
  · exact sound_of_takeComparison? hc
  · exact sound_of_takePresent? hp

/-! ## Parentheses -/

theorem takePrimary?_nil (fuel : Nat) : takePrimary? fuel [] = takeTest? [] := by
  cases fuel <;> rw [takePrimary?.eq_def]

theorem takePrimary?_of_ne {c : Char} (h : c ≠ '(') (fuel : Nat) (cs : List Char) :
    takePrimary? fuel (c :: cs) = takeTest? (c :: cs) := by
  rw [takePrimary?.eq_def]
  split
  · next he => exact absurd (List.cons.inj he).1 h
  · rfl

theorem takePrimary?_paren (fuel : Nat) (cs : List Char) :
    takePrimary? (fuel + 1) ('(' :: cs) =
      match takeOr? fuel (skipLayout cs) with
      | none => none
      | some (inner, rest) =>
        match skipLayout rest with
        | ')' :: after => some (inner, after)
        | _ => none := by
  rw [takePrimary?.eq_def]
  rfl

/-! ## What each reader can do -/

/-- A chain of conjuncts ends where it started, or it started with a symbol. -/
theorem takeAndChain_cases {fuel : Nat} {first tree : CriterionTree} {cs rest : List Char}
    (h : takeAndChain fuel first cs = (tree, rest)) : (first = tree ∧ cs = rest) ∨
      ∃ n left right after, fuel = n + 1 ∧ LuceneTree.takeSymbol? ['&', '&'] cs = some left ∧
        takePrimary? n left = some (right, after) ∧
        takeAndChain n (.and first right) after = (tree, rest) := by
  cases fuel with
  | zero => exact .inl (Prod.mk.inj h)
  | succ n =>
    simp only [takeAndChain] at h
    split at h
    · exact .inl (Prod.mk.inj h)
    · next right after hr =>
      obtain ⟨left, hs, hp⟩ := Option.bind_eq_some_iff.1 hr
      exact .inr ⟨n, left, right, after, rfl, hs, hp, h⟩

theorem takeOrChain_cases {fuel : Nat} {first tree : CriterionTree} {cs rest : List Char}
    (h : takeOrChain fuel first cs = (tree, rest)) : (first = tree ∧ cs = rest) ∨
      ∃ n left right after, fuel = n + 1 ∧ LuceneTree.takeSymbol? ['|', '|'] cs = some left ∧
        takeAnd? n left = some (right, after) ∧
        takeOrChain n (.or first right) after = (tree, rest) := by
  cases fuel with
  | zero => exact .inl (Prod.mk.inj h)
  | succ n =>
    simp only [takeOrChain] at h
    split at h
    · exact .inl (Prod.mk.inj h)
    · next right after hr =>
      obtain ⟨left, hs, hp⟩ := Option.bind_eq_some_iff.1 hr
      exact .inr ⟨n, left, right, after, rfl, hs, hp, h⟩

theorem takeAnd?_eq_some {fuel : Nat} {cs rest : List Char} {tree : CriterionTree}
    (h : takeAnd? fuel cs = some (tree, rest)) : ∃ n first left, fuel = n + 1 ∧
      takePrimary? n cs = some (first, left) ∧ takeAndChain n first left = (tree, rest) := by
  cases fuel with
  | zero => cases h
  | succ n =>
    obtain ⟨⟨first, left⟩, hf, he⟩ := Option.map_eq_some_iff.1 h
    exact ⟨n, first, left, rfl, hf, he⟩

theorem takeOr?_eq_some {fuel : Nat} {cs rest : List Char} {tree : CriterionTree}
    (h : takeOr? fuel cs = some (tree, rest)) : ∃ n first left, fuel = n + 1 ∧
      takeAnd? n cs = some (first, left) ∧ takeOrChain n first left = (tree, rest) := by
  cases fuel with
  | zero => cases h
  | succ n =>
    obtain ⟨⟨first, left⟩, hf, he⟩ := Option.map_eq_some_iff.1 h
    exact ⟨n, first, left, rfl, hf, he⟩

/-- A primary is a test, or an expression in parentheses. -/
theorem takePrimary?_eq_some {fuel : Nat} {cs rest : List Char} {tree : CriterionTree}
    (h : takePrimary? fuel cs = some (tree, rest)) : takeTest? cs = some (tree, rest) ∨
      ∃ n left body, fuel = n + 1 ∧ cs = '(' :: body ∧
        takeOr? n (skipLayout body) = some (tree, left) ∧ skipLayout left = ')' :: rest := by
  cases cs with
  | nil => exact .inl (takePrimary?_nil fuel ▸ h)
  | cons c body =>
    by_cases hc : c = '('
    · subst hc
      cases fuel with
      | zero => exact .inl (by rwa [takePrimary?.eq_def] at h)
      | succ n =>
        rw [takePrimary?_paren] at h
        split at h
        · cases h
        · next inner left hi =>
          split at h
          · next after ha =>
            cases h
            exact .inr ⟨n, left, body, rfl, rfl, hi, ha⟩
          · cases h
    · exact .inl (takePrimary?_of_ne hc fuel body ▸ h)

/-! ## Every tree that is read -/

/-- What is known of all trees that are read. -/
structure TreesRead (P : CriterionTree → Prop) (fuel : Nat) : Prop where
  primary : ∀ {cs rest : List Char} {tree : CriterionTree},
    takePrimary? fuel cs = some (tree, rest) → P tree
  andChain : ∀ {cs rest : List Char} {first tree : CriterionTree},
    takeAndChain fuel first cs = (tree, rest) → P first → P tree
  and : ∀ {cs rest : List Char} {tree : CriterionTree},
    takeAnd? fuel cs = some (tree, rest) → P tree
  orChain : ∀ {cs rest : List Char} {first tree : CriterionTree},
    takeOrChain fuel first cs = (tree, rest) → P first → P tree
  or : ∀ {cs rest : List Char} {tree : CriterionTree},
    takeOr? fuel cs = some (tree, rest) → P tree

/-- What holds of every test, and of what connectives make of trees, holds of every tree that is
read. -/
theorem reading_induction {P : CriterionTree → Prop}
    (test : ∀ {cs t rest}, takeTest? cs = some (t, rest) → P t)
    (and : ∀ {l r}, P l → P r → P (.and l r)) (or : ∀ {l r}, P l → P r → P (.or l r))
    (fuel : Nat) : TreesRead P fuel := by
  induction fuel using Nat.strongRecOn with
  | ind fuel ih =>
    constructor
    case primary =>
      intro cs rest tree h
      rcases takePrimary?_eq_some h with ht | ⟨n, left, body, rfl, -, ho, -⟩
      · exact test ht
      · exact (ih n (Nat.lt_succ_self n)).or ho
    case andChain =>
      intro cs rest first tree h hfirst
      rcases takeAndChain_cases h with ⟨rfl, -⟩ | ⟨n, left, right, after, rfl, -, hp, hchain⟩
      · exact hfirst
      · have hn := ih n (Nat.lt_succ_self n)
        exact hn.andChain hchain (and hfirst (hn.primary hp))
    case and =>
      intro cs rest tree h
      obtain ⟨n, first, left, rfl, hp, hchain⟩ := takeAnd?_eq_some h
      have hn := ih n (Nat.lt_succ_self n)
      exact hn.andChain hchain (hn.primary hp)
    case orChain =>
      intro cs rest first tree h hfirst
      rcases takeOrChain_cases h with ⟨rfl, -⟩ | ⟨n, left, right, after, rfl, -, ha, hchain⟩
      · exact hfirst
      · have hn := ih n (Nat.lt_succ_self n)
        exact hn.orChain hchain (or hfirst (hn.and ha))
    case or =>
      intro cs rest tree h
      obtain ⟨n, first, left, rfl, ha, hchain⟩ := takeOr?_eq_some h
      have hn := ih n (Nat.lt_succ_self n)
      exact hn.orChain hchain (hn.and ha)

theorem sound_of_read {s : String} {t : CriterionTree} (h : read s = .ok t) : t.Sound := by
  simp only [read] at h
  split at h
  · cases h
  · next tree rest hr =>
    split at h
    · cases h
      exact (reading_induction (P := Sound) sound_of_takeTest? (fun hl hr => ⟨hl, hr⟩)
        (fun hl hr => ⟨hl, hr⟩) _).or hr
    · cases h

end CriterionTree

/-! ## Leaves -/

/-- The leaves of compiled `criterion` queries without translations. -/
inductive FromCriterion (datatype : String) : Leaf → Prop
  | test {path op : String} {value : Option String} (hp : CriterionTree.IsPath path.toList)
      (ho : op ∈ CriterionTree.operatorsFor value) :
      FromCriterion datatype ⟨datatype ++ "." ++ path, op, value⟩

/-- Without translations a sound tree compiles to solid criteria over its paths. -/
theorem CriterionTree.compile_leaves {t : CriterionTree} (h : t.Sound) (datatype : String) :
    (t.compile datatype .empty).Solid ∧
      ∀ l ∈ (t.compile datatype .empty).leaves, FromCriterion datatype l := by
  induction t with
  | compare path op value =>
    refine ⟨.leaf _, fun l hm => ?_⟩
    obtain rfl : l = _ := List.mem_singleton.1 hm
    exact .test h.1 h.2
  | and left right ihl ihr =>
    obtain ⟨hls, hll⟩ := ihl h.1
    obtain ⟨hrs, hrl⟩ := ihr h.2
    refine ⟨hls.and hrs, fun l hm => ?_⟩
    rw [compile, Criteria.leaves_and] at hm
    exact (List.mem_append.1 hm).elim (hll l) (hrl l)
  | or left right ihl ihr =>
    obtain ⟨hls, hll⟩ := ihl h.1
    obtain ⟨hrs, hrl⟩ := ihr h.2
    refine ⟨hls.or hrs, fun l hm => ?_⟩
    rw [compile, Criteria.leaves_or] at hm
    exact (List.mem_append.1 hm).elim (hll l) (hrl l)

end EventSearch.Query
