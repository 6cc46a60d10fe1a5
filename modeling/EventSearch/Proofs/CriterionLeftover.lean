/-
# `EventSearch.Proofs.CriterionLeftover` — what reading leaves of a `criterion` query

As in `lucene`, every reader leaves an end of its text (`takeOr?_suffix`), so a query that is read
is read to its end (`takeOr?_of_read`).
-/
import EventSearch.Proofs.CriterionContinued
import EventSearch.Proofs.LuceneLeftover

namespace EventSearch.Query.CriterionTree

open EventSearch.Text

/-! ## Tests -/

theorem takePath?_suffix {cs path rest : List Char} (h : takePath? cs = some (path, rest)) :
    rest <:+ cs := ⟨path, (takePath?_join h).2⟩

theorem takeOperator?_suffix {cs rest : List Char} {op : String}
    (h : takeOperator? cs = some (op, rest)) : rest <:+ cs := by
  obtain ⟨op', -, hfound⟩ := List.exists_of_findSome?_eq_some h
  obtain ⟨after, ha, he⟩ := Option.map_eq_some_iff.1 hfound
  obtain ⟨-, rfl⟩ := Prod.mk.inj he
  exact after?_suffix ha

theorem takeQuoted?_suffix {mark : Char} {cs text rest : List Char}
    (h : takeQuoted? mark cs = some (text, rest)) : rest <:+ cs := by
  fun_induction takeQuoted? mark cs generalizing text rest with
  | case1 => cases h
  | case2 c cs hc ih =>
    obtain ⟨⟨t, after⟩, ht, he⟩ := Option.map_eq_some_iff.1 h
    obtain ⟨-, rfl⟩ := Prod.mk.inj he
    exact ((ih ht).trans (List.suffix_cons _ _)).trans (List.suffix_cons _ _)
  | case3 c cs hc ih =>
    obtain ⟨⟨t, after⟩, ht, he⟩ := Option.map_eq_some_iff.1 h
    obtain ⟨-, rfl⟩ := Prod.mk.inj he
    exact (ih ht).trans (List.suffix_cons _ _)
  | case4 cs hs =>
    obtain ⟨-, rfl⟩ := Prod.mk.inj (Option.some.inj h)
    exact List.suffix_cons _ _
  | case5 c cs hs hc ih =>
    obtain ⟨⟨t, after⟩, ht, he⟩ := Option.map_eq_some_iff.1 h
    obtain ⟨-, rfl⟩ := Prod.mk.inj he
    exact (ih ht).trans (List.suffix_cons _ _)

theorem takeValue?_suffix {cs text rest : List Char} (h : takeValue? cs = some (text, rest)) :
    rest <:+ cs := by
  cases cs with
  | nil => cases h
  | cons c cs =>
    simp only [takeValue?] at h
    split at h
    · exact (takeQuoted?_suffix h).trans (List.suffix_cons c cs)
    · split at h
      · cases h
      · obtain ⟨-, rfl⟩ := Prod.mk.inj (Option.some.inj h)
        exact List.dropWhile_suffix isValueChar

theorem takeTest?_suffix {cs rest : List Char} {t : CriterionTree}
    (h : takeTest? cs = some (t, rest)) : rest <:+ cs := by
  rcases Option.or_eq_some_iff.1 h with ha | ⟨-, h⟩
  · obtain ⟨body, path, rfl, hp, -⟩ := takeAbsent?_eq_some ha
    exact ((takePath?_suffix hp).trans (skipLayout_suffix body)).trans (List.suffix_cons _ _)
  rcases Option.or_eq_some_iff.1 h with hc | ⟨-, hp⟩
  · obtain ⟨path, left, op, after, value, hp, ho, hv, -⟩ := takeComparison?_eq_some hc
    have hafter := (takeOperator?_suffix ho).trans (skipLayout_suffix left)
    have hrest := (takeValue?_suffix hv).trans (skipLayout_suffix after)
    exact (hrest.trans hafter).trans (takePath?_suffix hp)
  · obtain ⟨⟨path, left⟩, hpath, he⟩ := Option.map_eq_some_iff.1 hp
    obtain ⟨-, rfl⟩ := Prod.mk.inj he
    exact takePath?_suffix hpath

/-! ## Expressions -/

/-- How much of a text expressions leave. -/
structure Leaves (fuel : Nat) : Prop where
  primary : ∀ {cs rest : List Char} {tree : CriterionTree},
    takePrimary? fuel cs = some (tree, rest) → rest <:+ cs
  andChain : ∀ {cs rest : List Char} {first tree : CriterionTree},
    takeAndChain fuel first cs = (tree, rest) → rest <:+ cs
  and : ∀ {cs rest : List Char} {tree : CriterionTree},
    takeAnd? fuel cs = some (tree, rest) → rest <:+ cs
  orChain : ∀ {cs rest : List Char} {first tree : CriterionTree},
    takeOrChain fuel first cs = (tree, rest) → rest <:+ cs
  or : ∀ {cs rest : List Char} {tree : CriterionTree},
    takeOr? fuel cs = some (tree, rest) → rest <:+ cs

theorem leaves (fuel : Nat) : Leaves fuel := by
  induction fuel using Nat.strongRecOn with
  | ind fuel ih =>
    constructor
    case primary =>
      intro cs rest tree h
      rcases takePrimary?_eq_some h with ht | ⟨n, left, body, rfl, rfl, ho, hl⟩
      · exact takeTest?_suffix ht
      · have hleft : ')' :: rest <:+ left := hl ▸ skipLayout_suffix left
        have hbody := (skipLayout_suffix body).trans (List.suffix_cons '(' body)
        have hinner := (ih n (Nat.lt_succ_self n)).or ho
        exact ((List.suffix_cons _ _).trans (hleft.trans hinner)).trans hbody
    case andChain =>
      intro cs rest first tree h
      rcases takeAndChain_cases h with ⟨-, rfl⟩ | ⟨n, left, right, after, rfl, hs, hp, hchain⟩
      · exact List.suffix_refl cs
      · have hn := ih n (Nat.lt_succ_self n)
        exact ((hn.andChain hchain).trans (hn.primary hp)).trans (LuceneTree.takeSymbol?_suffix hs)
    case and =>
      intro cs rest tree h
      obtain ⟨n, first, left, rfl, hp, hchain⟩ := takeAnd?_eq_some h
      have hn := ih n (Nat.lt_succ_self n)
      exact (hn.andChain hchain).trans (hn.primary hp)
    case orChain =>
      intro cs rest first tree h
      rcases takeOrChain_cases h with ⟨-, rfl⟩ | ⟨n, left, right, after, rfl, hs, ha, hchain⟩
      · exact List.suffix_refl cs
      · have hn := ih n (Nat.lt_succ_self n)
        exact ((hn.orChain hchain).trans (hn.and ha)).trans (LuceneTree.takeSymbol?_suffix hs)
    case or =>
      intro cs rest tree h
      obtain ⟨n, first, left, rfl, ha, hchain⟩ := takeOr?_eq_some h
      have hn := ih n (Nat.lt_succ_self n)
      exact (hn.orChain hchain).trans (hn.and ha)

theorem takeOr?_suffix {fuel : Nat} {cs rest : List Char} {tree : CriterionTree}
    (h : takeOr? fuel cs = some (tree, rest)) : rest <:+ cs :=
  (leaves fuel).or h

/-- A query that is read is read to its end. -/
theorem takeOr?_of_read {s : String} {tree : CriterionTree} (h : read s = .ok tree) :
    takeOr? (fuelFor (trim s.toList)) (trim s.toList) = some (tree, []) := by
  simp only [read] at h
  split at h
  · cases h
  · next t rest hc =>
    split at h
    · next hb =>
      cases h
      rw [hc, eq_nil_of_suffix_trim (takeOr?_suffix hc) hb]
    · cases h

end EventSearch.Query.CriterionTree
